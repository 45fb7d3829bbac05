import PageTemplates.Proofs.Compile.HeadFunctions

/-!
# The order in a head

Titles and metas with directives are moved to the end of the head before anything is
compiled, and functions are added to the end of the head while directives are compiled, so
functions come behind all that was in a head. The main facts:

* `TurnsInto free ns ms`: `ms` is `ns` once some elements with directives gave way to scripts
  and functions were added to heads, where new heads are made only in `free` places;
* `TurnsInto.change`, `TurnsInto.place`, `TurnsInto.written`: the steps of compiling keep it;
* `TurnsInto.head`: what a head holds afterwards;
* `inline_head`: the heads of a document that is compiled in place. Functions stand in front
  of the scripts of titles and metas only if there are no such scripts or no functions;
* `title_written_before_function`: a title is written out by a script in front of the
  function that it uses.
-/

namespace PageTemplates.Compile

open Markup

/-! ## How compiling changes a document -/

/-- The script that starts the processing in the browser. -/
def startScript : Node := .script [("type", some "text/javascript")] startCode

/-- What is added behind the children of an element: functions to a head, and the script
that starts the processing to a body. -/
def IsAdded (t : Tag) (es : List Node) : Prop :=
  if Tag.isNamed "head" t then ∃ codes : List String, es = codes.map functionScript
  else if Tag.isNamed "body" t then ∃ n, es = List.replicate n startScript
  else es = []

/-- The nodes `ms` are what compiling makes of the nodes `ns`: an element with a directive
may have given way to a script that writes it out, or to nothing, and what is added stands
at the ends of elements. Heads that hold only functions are made in `free` places, and so
in no other head. -/
inductive TurnsInto : Bool → List Node → List Node → Prop where
  | nil {free : Bool} : TurnsInto free [] []
  | leaf {free : Bool} {n : Node} {ns ms : List Node} (h : Node.isLeaf n)
      (later : TurnsInto free ns ms) : TurnsInto free (n :: ns) (n :: ms)
  | document {free : Bool} {cs ds ns ms : List Node} (below : TurnsInto free cs ds)
      (later : TurnsInto free ns ms) : TurnsInto free (.document cs :: ns) (.document ds :: ms)
  | element {free : Bool} {t : Tag} {cs ds es ns ms : List Node} (added : IsAdded t es)
      (below : TurnsInto (free && !Tag.isNamed "head" t) cs ds) (later : TurnsInto free ns ms) :
      TurnsInto free (.element t cs :: ns) (.element t (ds ++ es) :: ms)
  | write {free : Bool} {t : Tag} {cs ns ms : List Node} (target : isTarget t) (code : String)
      (later : TurnsInto free ns ms) :
      TurnsInto free (.element t cs :: ns) (writeScript code :: ms)
  | drop {free : Bool} {t : Tag} {cs ns ms : List Node} (target : isTarget t)
      (later : TurnsInto free ns ms) : TurnsInto free (.element t cs :: ns) ms
  | made {ns ms : List Node} (codes : List String) (later : TurnsInto true ns ms) :
      TurnsInto true ns (newHead (codes.map functionScript) :: ms)

theorem isNamed_eq_false {name other : String} {t : Tag} (h : Tag.isNamed name t)
    (ne : name ≠ other) : Tag.isNamed other t = false := by
  rw [Tag.isNamed, beq_iff_eq] at h
  rw [Tag.isNamed, h, beq_eq_false_iff_ne]
  exact ne

namespace IsAdded

variable {t : Tag} {es : List Node}

theorem head (isHead : Tag.isNamed "head" t) :
    IsAdded t es ↔ ∃ codes : List String, es = codes.map functionScript := by
  rw [IsAdded, if_pos isHead]

theorem body (isBody : Tag.isNamed "body" t) :
    IsAdded t es ↔ ∃ n, es = List.replicate n startScript := by
  rw [IsAdded, isNamed_eq_false isBody (by decide), if_neg Bool.false_ne_true, if_pos isBody]

theorem html (isHtml : Tag.isNamed "html" t) : IsAdded t es ↔ es = [] := by
  rw [IsAdded, isNamed_eq_false isHtml (by decide), if_neg Bool.false_ne_true,
    isNamed_eq_false isHtml (by decide), if_neg Bool.false_ne_true]

theorem nil (t : Tag) : IsAdded t [] := by
  unfold IsAdded
  split
  · exact ⟨[], rfl⟩
  · split
    · exact ⟨0, rfl⟩
    · rfl

/-- Nothing is found in what is added that is not found in a script. -/
theorem findPath? {p : Tag → Bool} (added : IsAdded t es)
    (scripts : ∀ t : Tag, t.name = "script" → p t = false) : Markup.findPath? p es = none := by
  unfold IsAdded at added
  split at added
  · obtain ⟨codes, rfl⟩ := added
    exact findPath?_functions scripts codes
  · split at added
    · obtain ⟨n, rfl⟩ := added
      induction n with
      | zero => rfl
      | succ n ih =>
          rw [List.replicate_succ, findPath?_cons_eq_none]
          refine ⟨?_, ih⟩
          rw [startScript, Node.script, findPath?_element_eq_none]
          exact ⟨scripts _ rfl, rfl⟩
    · rw [added]
      rfl

end IsAdded

mutual

theorem Node.turnsInto_self : ∀ (n : Node) {free : Bool} {ns ms : List Node},
    TurnsInto free ns ms → TurnsInto free (n :: ns) (n :: ms)
  | .element t cs, free, ns, ms, later => by
      have whole : TurnsInto free (.element t cs :: ns) (.element t (cs ++ []) :: ms) :=
        .element (.nil t) (turnsInto_self cs) later
      rw [List.append_nil] at whole
      exact whole
  | .document cs, _, _, _, later => .document (turnsInto_self cs) later
  | .text _, _, _, _, later => .leaf rfl later
  | .comment _, _, _, _, later => .leaf rfl later
  | .doctype _, _, _, _, later => .leaf rfl later
  | .markup _, _, _, _, later => .leaf rfl later

theorem turnsInto_self : ∀ {free : Bool} (ns : List Node), TurnsInto free ns ns
  | _, [] => .nil
  | _, n :: ns => Node.turnsInto_self n (turnsInto_self ns)

end

namespace TurnsInto

variable {p : Tag → Bool} {f : Node → List Node} {free : Bool} {t : Tag} {ns ms zs : List Node}

/-- A change keeps the relation if it does so at an element, and in a head that was made.
Unless this is so everywhere, there are no heads around the element. -/
theorem change (anywhere : Bool) (scripts : ∀ t : Tag, t.name = "script" → p t = false)
    (here : ∀ {free : Bool} {t : Tag} {cs ds es ns ms : List Node}, p t →
      anywhere || free → IsAdded t es → TurnsInto (free && !Tag.isNamed "head" t) cs ds →
      TurnsInto free ns ms →
      TurnsInto free (.element t cs :: ns) (f (.element t (ds ++ es)) ++ ms))
    (made : ∀ codes : List String, p { name := "head" } →
      ∃ codes' : List String, f (newHead (codes.map functionScript))
        = [newHead (codes'.map functionScript)])
    (place : anywhere || free)
    (heads : anywhere = false → findPath? (Tag.isNamed "head") ms = none)
    (h : TurnsInto free ns ms) (c : Changed p f ms zs) : TurnsInto free ns zs := by
  induction h generalizing zs with
  | nil => cases c
  | leaf leaf later ih =>
      cases c with
      | here _ | inside _ _ | document _ => cases leaf
      | next c => exact .leaf leaf (ih place (fun h => (findPath?_cons_eq_none.mp (heads h)).2) c)
  | document below later below_ih ih =>
      cases c with
      | document c =>
          refine .document (below_ih place (fun h => ?_) c) later
          have none := (findPath?_cons_eq_none.mp (heads h)).1
          rw [Node.findPath?] at none
          exact none
      | next c =>
          exact .document below (ih place (fun h => (findPath?_cons_eq_none.mp (heads h)).2) c)
  | @element free t cs ds es ns ms added below later below_ih ih =>
      cases c with
      | here hp => exact here hp place added below later
      | inside _ c =>
          -- there is nothing to change in what was added, so it is in front of that
          obtain ⟨ds', inner, rfl⟩ := c.of_append (added.findPath? scripts)
          have none (h : anywhere = false) : Tag.isNamed "head" t = false ∧
              findPath? (Tag.isNamed "head") ds = none := by
            have whole := (findPath?_cons_eq_none.mp (heads h)).1
            rw [findPath?_element_eq_none, findPath?_append_eq_none] at whole
            exact ⟨whole.1, whole.2.1⟩
          refine .element added (below_ih ?_ (fun h => (none h).2) inner) later
          cases anywhere with
          | true => rfl
          | false => rw [(none rfl).1, Bool.not_false, Bool.and_true]; exact place
      | next c =>
          exact .element added below
            (ih place (fun h => (findPath?_cons_eq_none.mp (heads h)).2) c)
  | write target code later ih =>
      obtain ⟨ms', behind, rfl⟩ := c.later (by
        rw [writeScript, Node.script, findPath?_element_eq_none]
        exact ⟨scripts _ rfl, rfl⟩)
      exact .write target code
        (ih place (fun h => (findPath?_cons_eq_none.mp (heads h)).2) behind)
  | drop target later ih => exact .drop target (ih place heads c)
  | made codes later ih =>
      cases c with
      | here hp =>
          obtain ⟨codes', same⟩ := made codes hp
          rw [← newHead, same]
          exact .made codes' later
      | inside _ c => exact absurd (findPath?_functions scripts codes) c.findPath?_ne_none
      | next c =>
          exact .made codes (ih place (fun h => (findPath?_cons_eq_none.mp (heads h)).2) c)

/-- A head is made in front of the first element. -/
theorem insertHead (codes : List String) (h : TurnsInto free ns ms) (place : free) :
    TurnsInto free ns (insertBeforeElement (newHead (codes.map functionScript)) ms) := by
  subst place
  generalize eq : true = free at h
  induction h with
  | nil => subst eq; exact .made codes .nil
  | @leaf _ n _ _ leaf later ih =>
      have notElement : n.isElement = false := by
        cases n <;> first | rfl | cases leaf
      rw [insertBeforeElement, notElement]
      exact .leaf leaf (ih eq)
  | document below later _ ih =>
      have whole := TurnsInto.document below (ih eq)
      exact whole
  | element added below later _ _ => subst eq; exact .made codes (.element added below later)
  | write target code later _ => subst eq; exact .made codes (.write target code later)
  | drop target later ih => exact .drop target (ih eq)
  | made codes' later _ => exact .made codes (.made codes' later)

/-- An element with a directive gives way to a script, or to nothing. -/
theorem written {code? : Option String} (h : TurnsInto free ns ms)
    (c : Changed isTarget (fun _ => (code?.map writeScript).toList) ms zs) :
    TurnsInto free ns zs := by
  refine h.change true (fun t => isTarget_script) ?_ ?_ rfl (fun h => by cases h) c
  · intro free t cs ds es ns ms target _ _ _ later
    cases code? with
    | none => exact .drop target later
    | some code => exact .write target code later
  · intro codes target
    cases target

/-- Functions go to the end of a head, which is made if there is none. -/
theorem place (codes : List String) (h : TurnsInto true ns ms) :
    TurnsInto true ns (Compile.place codes ms) := by
  refine place_cases codes ms ?nothing ?head ?html ?bare
  case nothing => exact fun _ => h
  case head =>
    intro path found
    refine h.change true (fun t script => ?_) ?_ ?_ rfl (fun h => by cases h)
      (changed_replaceAt ms path found)
    · rw [Tag.isNamed, script]
      rfl
    · intro free t cs ds es ns ms isHead _ added below later
      -- functions may have been added before: the new ones go behind them
      obtain ⟨codes', rfl⟩ := (IsAdded.head isHead).mp added
      have added' : IsAdded t (codes'.map functionScript ++ codes.map functionScript) :=
        (IsAdded.head isHead).mpr ⟨codes' ++ codes, (List.map_append ..).symm⟩
      have whole := TurnsInto.element added' below later
      rw [← List.append_assoc] at whole
      exact whole
    · intro codes' _
      refine ⟨codes' ++ codes, ?_⟩
      rw [List.map_append]
      rfl
  case html =>
    intro none path found
    refine h.change false (fun t script => ?_) ?_ ?_ rfl (fun _ => none)
      (changed_replaceAt ms path found)
    · rw [Tag.isNamed, script]
      rfl
    · intro free t cs ds es ns ms isHtml place added below later
      -- nothing was added to `<html>` so far, or it would hold a head
      obtain rfl := (IsAdded.html isHtml).mp added
      have free' : free && !Tag.isNamed "head" t := by
        rw [isNamed_eq_false isHtml (by decide), Bool.not_false, Bool.and_true]
        exact place
      have whole := TurnsInto.element (.nil t) (below.insertHead codes free') later
      rw [List.append_nil] at whole ⊢
      exact whole
    · intro codes' isHtml
      cases isHtml
  case bare => exact fun _ => h.insertHead codes rfl

theorem markBody (h : TurnsInto true ns ms) : TurnsInto true ns (Compile.markBody ms) := by
  unfold Compile.markBody appendToBody
  split
  · rename_i path found
    refine h.change true (fun t script => ?_) ?_ ?_ rfl (fun h => by cases h)
      (changed_replaceAt ms path found)
    · rw [Tag.isNamed, script]
      rfl
    · intro free t cs ds es ns ms isBody _ added below later
      obtain ⟨n, rfl⟩ := (IsAdded.body isBody).mp added
      have added' : IsAdded t (List.replicate n startScript ++ [startScript]) :=
        (IsAdded.body isBody).mpr ⟨n + 1, List.replicate_succ'.symm⟩
      have whole := TurnsInto.element added' below later
      rw [← List.append_assoc] at whole
      exact whole
    · intro codes isBody
      cases isBody
  · exact h

end TurnsInto

theorem compileTargets_turnsInto {o : Options} {n : Nat} {ns : List Node} {p r : Progress}
    (h : TurnsInto true ns p.doc) (run : compileTargets o n p = .ok r) :
    TurnsInto true ns r.doc := by
  replace run := targetRun_of_ok run
  induction run with
  | stop p => exact h
  | step _ coded _ ih =>
      obtain ⟨codes, -, rfl⟩ := codeAt_eq_ok coded
      refine ih ?_
      rw [replaceFirst]
      split
      · exact h.place codes
      · rename_i path' found'
        exact (h.place codes).written (changed_replaceAt _ path' found')

theorem inline_turnsInto {o : Options} {doc : Document} {r : Progress}
    (h : inline o doc = .ok r) : TurnsInto true (prepare doc) r.doc := by
  obtain ⟨p, run, rfl⟩ := inline_eq_ok h
  have turns := compileTargets_turnsInto (turnsInto_self (prepare doc)) run
  split
  · exact turns
  · exact turns.markBody

/-! ## What a head holds -/

/-- A node is among siblings, or below one of them. -/
inductive StandsIn (n : Node) : List Node → Prop where
  | here {ns : List Node} : StandsIn n (n :: ns)
  | inside {m : Node} {ns : List Node} (h : StandsIn n m.children) : StandsIn n (m :: ns)
  | later {m : Node} {ns : List Node} (h : StandsIn n ns) : StandsIn n (m :: ns)

def Node.isTarget : Node → Bool
  | .element t _ => Compile.isTarget t
  | _ => false

/-- Titles and metas with directives, which are moved to the end of the head. -/
def Node.isMoved (n : Node) : Bool :=
  (n.name == "title" || n.name == "meta") && Node.isTarget n

/-- What came of siblings, each with the node that it came of: an element with a directive
gave way to a script that writes it out, or to nothing, and any other node is there with
what came of the nodes below it. -/
inductive Outcomes : List Node → List (Node × Node) → Prop where
  | nil : Outcomes [] []
  | keep {n m : Node} {ns : List Node} {own : List (Node × Node)}
      (plain : Node.isTarget n = false)
      (same : m.mapChildren (fun _ => []) = n.mapChildren (fun _ => []))
      (later : Outcomes ns own) : Outcomes (n :: ns) ((n, m) :: own)
  | write {t : Tag} {cs ns : List Node} {own : List (Node × Node)} (target : isTarget t)
      (code : String) (later : Outcomes ns own) :
      Outcomes (.element t cs :: ns) ((.element t cs, writeScript code) :: own)
  | drop {t : Tag} {cs ns : List Node} {own : List (Node × Node)} (target : isTarget t)
      (later : Outcomes ns own) : Outcomes (.element t cs :: ns) own

/-- Of nodes that came of some nodes, or are functions, which come of none: no function is
behind what came of a title or meta with a directive. -/
def FunctionsFirst (sources : List (Option Node)) : Prop :=
  sources.Pairwise fun a b => ¬ (a.any Node.isMoved ∧ b = none)

section

variable {t : Tag} {n : Node} {cs ds ns ms : List Node} {free : Bool}

theorem Node.children_of_isLeaf (leaf : Node.isLeaf n) : n.children = [] := by
  cases n <;> first | rfl | cases leaf

theorem Node.isTarget_of_isLeaf (leaf : Node.isLeaf n) : Node.isTarget n = false := by
  cases n <;> first | rfl | cases leaf

theorem standsIn_append : StandsIn n (ns ++ ms) ↔ StandsIn n ns ∨ StandsIn n ms := by
  constructor
  · intro h
    induction ns with
    | nil => exact .inr h
    | cons m ns ih =>
        cases h with
        | here => exact .inl .here
        | inside h => exact .inl (.inside h)
        | later h => exact (ih h).imp_left .later
  · rintro (h | h)
    · induction h with
      | here => exact .here
      | inside h => exact .inside h
      | later _ ih => exact .later ih
    · induction ns with
      | nil => exact h
      | cons m ns ih => exact .later ih

/-- Where nothing is found, nothing is found in a part. -/
theorem StandsIn.findPath? {p : Tag → Bool} (h : StandsIn n ns) (none : findPath? p ns = none) :
    n.findPath? p = .none := by
  induction h with
  | here => exact (findPath?_cons_eq_none.mp none).1
  | @inside m _ _ ih =>
      have first := (findPath?_cons_eq_none.mp none).1
      cases m with
      | element u ds => exact ih (findPath?_element_eq_none.mp first).2
      | document ds => exact ih first
      | text _ | comment _ | doctype _ | markup _ => exact ih rfl
  | later _ ih => exact ih (findPath?_cons_eq_none.mp none).2

theorem not_standsIn_scripts (isHead : Tag.isNamed "head" t) (stands : StandsIn (.element t cs) ns)
    (scripts : ∀ p : Tag → Bool, (∀ t : Tag, t.name = "script" → p t = false) →
      findPath? p ns = none) : False := by
  have none := stands.findPath? (scripts (Tag.isNamed "head") fun t script => by
    rw [Tag.isNamed, script]
    rfl)
  rw [findPath?_element_eq_none, isHead] at none
  cases none.1

namespace TurnsInto

/-- A head was made of functions only, or it is one that was there, with functions behind
what came of its nodes. -/
theorem head (h : TurnsInto free ns ms) (isHead : Tag.isNamed "head" t)
    (stands : StandsIn (.element t ds) ms) :
    ∃ (cs es : List Node) (codes : List String), (cs = [] ∨ StandsIn (.element t cs) ns) ∧
      TurnsInto false cs es ∧ ds = es ++ codes.map functionScript := by
  -- a change above the head or beside it leaves the head to the induction hypothesis
  induction h with
  | nil => cases stands
  | leaf leaf _ ih =>
      cases stands with
      | here => cases leaf
      | inside stands =>
          rw [Node.children_of_isLeaf leaf] at stands
          cases stands
      | later stands =>
          obtain ⟨cs, es, codes, origin, turns, rfl⟩ := ih stands
          exact ⟨cs, es, codes, origin.imp_right .later, turns, rfl⟩
  | document _ _ below_ih ih =>
      cases stands with
      | inside stands =>
          obtain ⟨cs, es, codes, origin, turns, rfl⟩ := below_ih stands
          exact ⟨cs, es, codes, origin.imp_right fun h => .inside h, turns, rfl⟩
      | later stands =>
          obtain ⟨cs, es, codes, origin, turns, rfl⟩ := ih stands
          exact ⟨cs, es, codes, origin.imp_right .later, turns, rfl⟩
  | @element _ u cs es' added ns ms isAdded below _ below_ih ih =>
      cases stands with
      | here =>
          -- this is the head, and what was added to it are functions
          rw [isHead, Bool.not_true, Bool.and_false] at below
          obtain ⟨codes, rfl⟩ := (IsAdded.head isHead).mp isAdded
          exact ⟨cs, es', codes, .inr .here, below, rfl⟩
      | inside stands =>
          rcases standsIn_append.mp stands with stands | stands
          · obtain ⟨cs, es, codes, origin, turns, rfl⟩ := below_ih stands
            exact ⟨cs, es, codes, origin.imp_right fun h => .inside h, turns, rfl⟩
          · exact (not_standsIn_scripts isHead stands fun p => isAdded.findPath?).elim
      | later stands =>
          obtain ⟨cs, es, codes, origin, turns, rfl⟩ := ih stands
          exact ⟨cs, es, codes, origin.imp_right .later, turns, rfl⟩
  | write target code _ ih =>
      cases stands with
      | here => cases isHead
      | inside stands =>
          rcases stands with _ | ⟨stands⟩ | ⟨⟨⟩⟩
          cases stands
      | later stands =>
          obtain ⟨cs, es, codes, origin, turns, rfl⟩ := ih stands
          exact ⟨cs, es, codes, origin.imp_right .later, turns, rfl⟩
  | drop _ _ ih =>
      obtain ⟨cs, es, codes, origin, turns, rfl⟩ := ih stands
      exact ⟨cs, es, codes, origin.imp_right .later, turns, rfl⟩
  | made codes _ ih =>
      cases stands with
      | here => exact ⟨[], [], codes, .inl rfl, .nil, rfl⟩
      | inside stands =>
          exact (not_standsIn_scripts isHead stands fun p scripts =>
            findPath?_functions scripts codes).elim
      | later stands => exact ih stands

/-- Once no element with a directive is left, each of them gave way. -/
theorem outcomes (h : TurnsInto free ns ms) (closed : free = false)
    (done : findPath? isTarget ms = none) : ∃ own, Outcomes ns own ∧ ms = own.map Prod.snd := by
  induction h with
  | nil => exact ⟨[], .nil, rfl⟩
  | @leaf _ n _ _ leaf _ ih =>
      obtain ⟨own, outcomes, rfl⟩ := ih closed (findPath?_cons_eq_none.mp done).2
      exact ⟨(n, n) :: own, .keep (Node.isTarget_of_isLeaf leaf) rfl outcomes, rfl⟩
  | @document _ cs ds _ _ _ _ _ ih =>
      obtain ⟨own, outcomes, rfl⟩ := ih closed (findPath?_cons_eq_none.mp done).2
      exact ⟨(.document cs, .document ds) :: own, .keep rfl rfl outcomes, rfl⟩
  | @element _ t cs ds es _ _ _ _ _ _ ih =>
      rw [findPath?_cons_eq_none, findPath?_element_eq_none] at done
      obtain ⟨own, outcomes, rfl⟩ := ih closed done.2
      exact ⟨(.element t cs, .element t (ds ++ es)) :: own, .keep done.1.1 rfl outcomes, rfl⟩
  | @write _ t cs _ _ target code _ ih =>
      obtain ⟨own, outcomes, rfl⟩ := ih closed (findPath?_cons_eq_none.mp done).2
      exact ⟨(.element t cs, writeScript code) :: own, .write target code outcomes, rfl⟩
  | drop target _ ih =>
      obtain ⟨own, outcomes, rfl⟩ := ih closed done
      exact ⟨own, .drop target outcomes, rfl⟩
  | made => cases closed

end TurnsInto

/-- Functions that come last come first only if there is nothing to come before. -/
theorem functionsFirst_iff (own : List Node) (codes : List String) :
    FunctionsFirst (own.map some ++ codes.map fun _ => none)
      ↔ codes = [] ∨ ∀ n ∈ own, Node.isMoved n = false := by
  rw [FunctionsFirst, List.pairwise_append]
  constructor
  · rintro ⟨-, -, across⟩
    cases codes with
    | nil => exact .inl rfl
    | cons code codes =>
        refine .inr fun n mem => ?_
        have apart := across (some n) (List.mem_map_of_mem mem) none (List.mem_cons_self ..)
        exact Bool.eq_false_iff.mpr fun moved => apart ⟨moved, rfl⟩
  · intro either
    refine ⟨?_, ?_, ?_⟩
    · rw [List.pairwise_map]
      exact List.pairwise_of_forall fun _ _ both => Option.some_ne_none _ both.2
    · rw [List.pairwise_map]
      exact List.pairwise_of_forall fun _ _ both => Bool.false_ne_true both.1
    · intro a ha b hb both
      obtain ⟨n, mem, rfl⟩ := List.mem_map.mp ha
      obtain ⟨code, some', -⟩ := List.mem_map.mp hb
      rcases either with rfl | plain
      · cases some'
      · rw [Option.any_some, plain n mem] at both
        exact Bool.false_ne_true both.1

end

theorem inline_done {o : Options} {doc : Document} {r : Progress} (h : inline o doc = .ok r) :
    findPath? isTarget r.doc = none := by
  obtain ⟨p, run, rfl⟩ := inline_eq_ok h
  have done := compileAll_done run
  split
  · exact done
  · exact findPath?_markBody done

/-- A head of a document that is compiled in place holds what came of the nodes that it had
once titles and metas were moved to its end, and then functions. So functions stand before
what came of titles and metas with directives only where one of the two is missing. -/
theorem inline_head {o : Options} {doc : Document} {r : Progress} {t : Tag} {ds : List Node}
    (h : inline o doc = .ok r) (isHead : Tag.isNamed "head" t)
    (stands : StandsIn (.element t ds) r.doc) :
    ∃ (cs : List Node) (own : List (Node × Node)) (codes : List String),
      (cs = [] ∨ StandsIn (.element t cs) (prepare doc)) ∧ Outcomes cs own ∧
      ds = own.map Prod.snd ++ codes.map functionScript ∧
      (FunctionsFirst (own.map (fun q => some q.1) ++ codes.map fun _ => none)
        ↔ codes = [] ∨ ∀ q ∈ own, Node.isMoved q.1 = false) := by
  obtain ⟨cs, es, codes, origin, turns, rfl⟩ := (inline_turnsInto h).head isHead stands
  have done : findPath? isTarget es = none := by
    obtain ⟨-, below⟩ := findPath?_element_eq_none.mp (stands.findPath? (inline_done h))
    exact (findPath?_append_eq_none.mp below).1
  obtain ⟨own, outcomes, rfl⟩ := turns.outcomes rfl done
  refine ⟨cs, own, codes, origin, outcomes, rfl, ?_⟩
  have first := functionsFirst_iff (own.map Prod.fst) codes
  rw [List.map_map, List.forall_mem_map] at first
  exact first

/-- A page with a title that is written out by a function. -/
def titlePage : Document :=
  [.element { name := "html" }
    [.element { name := "head" }
      [.element { name := "title", attributes := [("yst", some "live"), ("id", some "f")] }
        [.text "x"]],
     .element { name := "body" } []]]

/-- What the head of this page holds once it is compiled. -/
def titlePageHead : List Node :=
  [writeScript ("YST.Txt.value([], 0, \x7b\x7d,null,"
    ++ "['<title yst=\\\"live\\\" id=\\\"f\\\">',f,[],'</title>'])"),
   functionScript (functionCode "f" "x")]

theorem inline_head_titlePage : ∃ (r : Progress) (cs : List Node) (own : List (Node × Node))
    (codes : List String), inline {} titlePage = .ok r ∧
      (cs = [] ∨ StandsIn (.element { name := "head" } cs) (prepare titlePage)) ∧
      Outcomes cs own ∧ titlePageHead = own.map Prod.snd ++ codes.map functionScript ∧
      (FunctionsFirst (own.map (fun q => some q.1) ++ codes.map fun _ => none)
        ↔ codes = [] ∨ ∀ q ∈ own, Node.isMoved q.1 = false) := by
  have compiled : inline {} titlePage = .ok
      { doc := [.element { name := "html" }
          [.element { name := "head" } titlePageHead, .element { name := "body" } [startScript]]],
        generated := 2 } := rfl
  obtain ⟨cs, own, codes, head⟩ := inline_head compiled (t := { name := "head" }) rfl
    (.inside .here)
  exact ⟨_, cs, own, codes, compiled, head⟩

/-- The script that writes the title out refers to a function that the next script
defines. -/
theorem title_written_before_function : ∃ r : Progress, inline {} titlePage = .ok r ∧
    StandsIn (.element { name := "head" } titlePageHead) r.doc := by
  have compiled : inline {} titlePage = .ok
      { doc := [.element { name := "html" }
          [.element { name := "head" } titlePageHead, .element { name := "body" } [startScript]]],
        generated := 2 } := rfl
  exact ⟨_, compiled, .inside .here⟩

end PageTemplates.Compile
