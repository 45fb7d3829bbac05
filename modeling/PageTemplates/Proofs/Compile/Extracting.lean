import PageTemplates.Proofs.Compile.Observing
import PageTemplates.Proofs.Compile.Splitting
import PageTemplates.Proofs.Text.Trim

/-!
# The functions of a body

Extracting the functions of a body gives every element that asks for a function
an id, if it has none, and compiles these elements one after the other, those
inside others first. The main facts:

* `functions`: the elements of a tree that ask for a function, inner ones first;
* `withIds`: the tree in which all of them have an id;
* `functionIds_withIds`: the functions are named by the ids that there were, and
  `__TemplateDeclare1`, `__TemplateDeclare2` and so on where there were none;
* `extractAll_eq_ok`: extracting gives this tree, and the functions of its
  elements;
* `extractBody_eq_ok`: and places them in the page.
-/

namespace PageTemplates.Compile

open Markup

/-! ## Elements that ask for a function -/

/-- Whether an element is compiled to a function of its own. -/
def isFunction (t : Tag) : Bool :=
  match DirectiveKind.ofWord? t.directiveWord with
  | some .declare | some .live => true
  | _ => false

/-- The name of the function that an element is compiled to, if it has an
id. -/
def functionName? (t : Tag) : Option String := (t.directiveOf .declare).functionName?

/-- The name of the `n`-th function without an id. -/
@[irreducible]
def madeUpName (n : Nat) : String := "__TemplateDeclare" ++ toString n

/-- The name of the function of a node; only elements have one. -/
def Node.functionName? : Node → Option String
  | .element t _ => Compile.functionName? t
  | _ => none

mutual

/-- The elements at and below a node that ask for a function, inner ones first.
Scripts are passed over. -/
def Node.functions : Node → List Node
  | .element t cs =>
      if t.name == "script" then []
      else functions cs ++ if isFunction t then [.element t cs] else []
  | _ => []

/-- The same for a list of siblings. -/
def functions : List Node → List Node
  | [] => []
  | c :: cs => Node.functions c ++ functions cs

end

/-- An element, with an id if it asks for a function, where `k` ids were made up
before; and how many there are then. -/
def elementWithId (k : Nat) (t : Tag) (cs : List Node) : Node × Nat :=
  if isFunction t && (functionName? t).isNone then
    (.element (t.set "id" (some (madeUpName (k + 1)))) cs, k + 1)
  else (.element t cs, k)

mutual

/-- A node in which every element that asks for a function has an id. -/
def Node.withIds (k : Nat) : Node → Node × Nat
  | .element t cs =>
      if t.name == "script" then (.element t cs, k)
      else elementWithId (withIds k cs).2 t (withIds k cs).1
  | n => (n, k)

/-- The same for a list of siblings. -/
def withIds (k : Nat) : List Node → List Node × Nat
  | [] => ([], k)
  | c :: cs =>
      let first := Node.withIds k c
      let rest := withIds first.2 cs
      (first.1 :: rest.1, rest.2)

end

/-- The names of the functions of a tree, as far as their elements have ids. -/
def functionIds (cs : List Node) : List (Option String) := (functions cs).map Node.functionName?

/-- Names with those that are made up for functions without an id, where `k` were
made up before. -/
def namesFrom (k : Nat) : List (Option String) → List String
  | [] => []
  | some name :: ids => name :: namesFrom k ids
  | none :: ids => madeUpName (k + 1) :: namesFrom (k + 1) ids

/-- The function that an element of a body is compiled to. -/
def functionOf (o : Options) (n : Node) : Except TemplateError String := do
  let body ← (innerLiteral { o with split := true } .outside n).run' []
  return functionCode ((Node.functionName? n).getD "") body

/-! ## Names -/

theorem isFunction_set_id (t : Tag) (v : Option String) :
    isFunction (t.set "id" v) = isFunction t := by
  unfold isFunction Tag.directiveWord
  rw [value_set_of_ne (by decide)]

theorem not_isBlank_of_isDigit {c : Char} (h : c.isDigit) : Text.isBlank c = false := by
  simp only [Char.isDigit, Bool.and_eq_true, decide_eq_true_eq, ge_iff_le, UInt32.le_iff_toNat_le]
    at h
  simp only [Text.isBlank, Char.toNat]
  grind

theorem madeUpName_eq (n : Nat) : madeUpName n = "__TemplateDeclare" ++ toString n := by
  delta madeUpName
  rfl

theorem toList_madeUpName (n : Nat) :
    (madeUpName n).toList = "__TemplateDeclare".toList ++ Nat.toDigits 10 n := by
  rw [madeUpName_eq, String.toList_append, Nat.toString_eq_repr, Nat.toList_repr]

/-- A name that was made up has no blank in it. -/
theorem not_isBlank_madeUpName (n : Nat) :
    ∀ c ∈ (madeUpName n).toList, Text.isBlank c = false := by
  intro c hc
  rw [toList_madeUpName, List.mem_append] at hc
  rcases hc with hc | hc
  · have word : "__TemplateDeclare".toList.all fun c => !Text.isBlank c := by decide
    simpa using List.all_eq_true.mp word c hc
  · exact not_isBlank_of_isDigit (Nat.isDigit_of_mem_toDigits (by decide) (by decide) hc)

/-- A tag with an id that was made up is compiled to a function of this name. -/
theorem functionName?_set_id (t : Tag) (n : Nat) :
    functionName? (t.set "id" (some (madeUpName n))) = some (madeUpName n) := by
  have blanks := not_isBlank_madeUpName n
  have stripped : Text.strip (madeUpName n) = madeUpName n := by
    rw [Text.strip, Text.trim_eq_self blanks, String.ofList_toList]
  have filled : (madeUpName n).isEmpty = false := by
    rw [String.isEmpty_eq_false_iff, ne_eq, ← String.toList_inj, toList_madeUpName]
    simp
  have replaced : Text.replace (madeUpName n) " " "_" = madeUpName n := by
    rw [Text.replace, Text.replaceAll_eq_self, String.ofList_toList]
    intro found
    have blank := blanks ' ' (found.subset (by simp))
    exact absurd blank (by decide)
  unfold functionName? Directive.functionName? Tag.directiveOf
  simp only [value_set, stripped, filled, replaced]
  rfl

theorem namesFrom_append (k : Nat) (ids others : List (Option String)) :
    namesFrom k (ids ++ others)
      = namesFrom k ids ++ namesFrom (k + ids.countP (·.isNone)) others := by
  induction ids generalizing k with
  | nil => rfl
  | cons id ids ih =>
      cases id with
      | some name => simp [namesFrom, ih]
      | none => simp [namesFrom, ih, Nat.add_assoc, Nat.add_comm 1]

/-- Where `k` names were made up before, all of the functions `ids` have the
names `named` once those without an id got one, and `k'` are made up then. -/
structure HasNames (k : Nat) (ids named : List (Option String)) (k' : Nat) : Prop where
  names : named = (namesFrom k ids).map some
  count : k' = k + ids.countP (·.isNone)

theorem HasNames.append {k k₁ k₂ : Nat} {ids named ids' named' : List (Option String)}
    (h : HasNames k ids named k₁) (h' : HasNames k₁ ids' named' k₂) :
    HasNames k (ids ++ ids') (named ++ named') k₂ := by
  obtain ⟨rfl, rfl⟩ := h
  obtain ⟨rfl, rfl⟩ := h'
  refine ⟨?_, ?_⟩
  · rw [namesFrom_append, List.map_append]
  · rw [List.countP_append, Nat.add_assoc]

/-- An element keeps its name and what it holds, and asks for a function as
before. -/
theorem functions_elementWithId (k : Nat) {t : Tag} (other : ¬ t.name == "script")
    (cs : List Node) : Node.functions (elementWithId k t cs).1
      = functions cs ++ if isFunction t then [(elementWithId k t cs).1] else [] := by
  have kept : ∃ u, (elementWithId k t cs).1 = .element u cs ∧ u.name = t.name ∧
      isFunction u = isFunction t := by
    unfold elementWithId
    split
    · exact ⟨_, rfl, name_set _ _ _, isFunction_set_id _ _⟩
    · exact ⟨t, rfl, rfl, rfl⟩
  obtain ⟨u, same, name, function⟩ := kept
  rw [same, Node.functions, name, if_neg other, function]

theorem elementWithId_hasNames (k : Nat) (t : Tag) (cs ds : List Node) :
    HasNames k ((if isFunction t then [.element t cs] else []).map Node.functionName?)
      ((if isFunction t then [(elementWithId k t ds).1] else []).map Node.functionName?)
      (elementWithId k t ds).2 := by
  unfold elementWithId
  cases isFunction t with
  | false => exact ⟨rfl, rfl⟩
  | true =>
      cases hn : functionName? t with
      | some name => exact ⟨by simp [namesFrom, Node.functionName?, hn],
          by simp [Node.functionName?, hn]⟩
      | none => exact ⟨by simp [namesFrom, Node.functionName?, hn, functionName?_set_id],
          by simp [Node.functionName?, hn]⟩

mutual

theorem Node.withIds_hasNames (k : Nat) : ∀ n : Node,
    HasNames k ((Node.functions n).map Node.functionName?)
      ((Node.functions (Node.withIds k n).1).map Node.functionName?) (Node.withIds k n).2
  | .element t cs => by
      rw [Node.withIds, Node.functions]
      split
      · rename_i script
        rw [Node.functions, if_pos script]
        exact ⟨rfl, rfl⟩
      · rename_i script
        rw [functions_elementWithId _ script, List.map_append, List.map_append]
        exact (withIds_hasNames k cs).append (elementWithId_hasNames _ t cs _)
  | .document _ | .text _ | .comment _ | .doctype _ | .markup _ => ⟨rfl, rfl⟩

theorem withIds_hasNames (k : Nat) : ∀ cs : List Node,
    HasNames k (functionIds cs) (functionIds (withIds k cs).1) (withIds k cs).2
  | [] => ⟨rfl, rfl⟩
  | c :: cs => by
      rw [withIds, functionIds, functionIds, functions, functions, List.map_append,
        List.map_append]
      exact (Node.withIds_hasNames k c).append (withIds_hasNames _ cs)

end

/-- The functions of a tree in which all have an id are named by the ids that
there were, and by the names that were made up for the others. -/
theorem functionIds_withIds (k : Nat) (cs : List Node) :
    functionIds (withIds k cs).1 = (namesFrom k (functionIds cs)).map some :=
  (withIds_hasNames k cs).names

mutual

theorem Node.allTags_withIds {q : Tag → Bool}
    (hq : ∀ t v, t.name ≠ "script" → q t → q (t.set "id" v)) (k : Nat) : ∀ n : Node,
      Node.allTags q n → Node.allTags q (Node.withIds k n).1
  | .element t cs, h => by
      rw [Node.withIds]
      split
      · exact h
      · rename_i script
        rw [allTags_element] at h
        have below := allTags_withIds hq k cs h.2
        unfold elementWithId
        split
        · exact allTags_element.mpr ⟨hq t _ (by simpa using script) h.1, below⟩
        · exact allTags_element.mpr ⟨h.1, below⟩
  | .document _, h | .text _, h | .comment _, h | .doctype _, h | .markup _, h => h

/-- Made-up ids keep conditions on tags that do not depend on the id. -/
theorem allTags_withIds {q : Tag → Bool}
    (hq : ∀ t v, t.name ≠ "script" → q t → q (t.set "id" v)) (k : Nat) : ∀ cs : List Node,
      allTags q cs → allTags q (withIds k cs).1
  | [], _ => rfl
  | c :: cs, h => by
      rw [allTags_cons] at h
      rw [withIds]
      exact allTags_cons.mpr ⟨Node.allTags_withIds hq k c h.1, allTags_withIds hq _ cs h.2⟩

end

theorem isFunction_of_isCompapply {t : Tag} (h : t.isCompapply) : isFunction t = false := by
  unfold Tag.isCompapply at h
  rw [beq_iff_eq] at h
  unfold isFunction
  rw [h]

theorem isFunction_join (t : Tag) : isFunction (join t) = false := by
  unfold isFunction
  rw [directiveWord_join]
  rfl

/-- A branch of a choice asks for no function, whether it is joined or not. -/
theorem functionIds_mapTag {n : Node} (branch : n.isCompapply) :
    functionIds [n.mapTag join] = functionIds [n] := by
  cases n with
  | element t cs =>
      have own : isFunction t = false := isFunction_of_isCompapply branch
      simp only [functionIds, Node.mapTag, functions, Node.functions, name_join, isFunction_join,
        own, Bool.false_eq_true, if_false]
  | document _ | text _ | comment _ | doctype _ | markup _ => rfl

theorem functionIds_cons (c : Node) (cs : List Node) :
    functionIds (c :: cs) = functionIds [c] ++ functionIds cs := by
  simp only [functionIds, functions, List.append_nil, List.map_append]

mutual

theorem Node.functionIds_group : ∀ n : Node, functionIds [Node.group n] = functionIds [n]
  | .element t cs => by
      have below := functionIds_group false cs
      rw [Node.group]
      split
      · rfl
      · rename_i script
        unfold functionIds at below ⊢
        simp only [functions, Node.functions, if_neg script, List.append_nil, List.map_append,
          below]
        split <;> rfl
  | .document _ | .text _ | .comment _ | .doctype _ | .markup _ => rfl

/-- Grouping keeps the functions and their names. -/
theorem functionIds_group : ∀ opened cs, functionIds (group opened cs) = functionIds cs
  | _, [] => rfl
  | opened, c :: cs => by
      obtain ⟨f, opened', hf, same⟩ := group_cons opened c cs
      rw [same, functionIds_cons, functionIds_cons c, functionIds_group opened' cs]
      rcases hf with rfl | ⟨rfl, branch⟩
      · rw [id, Node.functionIds_group c]
      · rw [← Node.isCompapply_group] at branch
        rw [functionIds_mapTag branch, Node.functionIds_group c]

end

/-! ## What extracting gives -/

theorem run_bind_eq_ok {σ α β : Type} {g : StateT σ (Except TemplateError) α}
    {f : α → StateT σ (Except TemplateError) β} {s s' : σ} {b : β}
    (h : (g >>= f).run s = .ok (b, s')) :
    ∃ a s₁, g.run s = .ok (a, s₁) ∧ (f a).run s₁ = .ok (b, s') := by
  rw [StateT.run_bind] at h
  obtain ⟨⟨a, s₁⟩, hg, hf⟩ := bind_eq_ok h
  exact ⟨a, s₁, hg, hf⟩

theorem run_lift_eq_ok {σ α : Type} {x : Except TemplateError α} {s s' : σ} {a : α}
    (h : (liftM x : StateT σ (Except TemplateError) α).run s = .ok (a, s')) :
    x = .ok a ∧ s' = s := by
  cases x with
  | error e => cases h
  | ok b =>
      cases h
      exact ⟨rfl, rfl⟩

theorem run_ofGen_eq_ok {α : Type} {g : Gen α} {x x' : Extraction} {a : α}
    (h : (Extract.ofGen g).run x = .ok (a, x')) :
    g.run x.codes = .ok (a, x'.codes) ∧ x'.named = x.named := by
  obtain ⟨⟨b, codes⟩, hg, hr⟩ := bind_eq_ok h
  cases hr
  exact ⟨hg, rfl⟩

/-- Where functions are defined elsewhere, an element with an id adds its own and no
other. -/
theorem hoist_adds {o : Options} (split : o.split) {site : Site} {d : Directive} {n : Node}
    {name : String} {name? : Option String} {codes codes' : List String}
    (named : d.functionName? = some name)
    (h : (hoist d (innerLiteral o site n)).run codes = .ok (name?, codes')) :
    ∃ body, (innerLiteral o site n).run codes = .ok (body, codes) ∧ name? = some name ∧
      codes' = codes ++ [functionCode name body] := by
  unfold hoist at h
  rw [named] at h
  obtain ⟨body, below, hbody, rest⟩ := run_bind_eq_ok h
  obtain rfl := (innerLiteral_observes split site n).kept codes body below hbody
  cases rest
  exact ⟨body, hbody, rfl, rfl⟩

/-- An element with an id is compiled to its function, whatever functions there
are. -/
theorem hoist_eq_ok {o : Options} {t : Tag} {cs : List Node} {kind : DirectiveKind}
    {name : String} {name? : Option String} {codes codes' : List String}
    (named : functionName? t = some name)
    (h : (hoist (t.directiveOf kind)
      (innerLiteral { o with split := true } .outside (.element t cs))).run codes
        = .ok (name?, codes')) :
    name? = some name ∧ ∃ code, functionOf o (.element t cs) = .ok code ∧
      codes' = codes ++ [code] := by
  have inner := innerLiteral_observes (o := { o with split := true }) rfl .outside (.element t cs)
  have named' : (t.directiveOf kind).functionName? = some name := named
  obtain ⟨body, hbody, rfl, rfl⟩ := hoist_adds rfl named' h
  refine ⟨rfl, functionCode name body, ?_, rfl⟩
  rw [functionOf, StateT.run'_eq, inner.run_eq rfl hbody [], Node.functionName?, named]
  rfl

/-- The functions of the elements `ns` were added, one for each. -/
def Extracted (o : Options) (x x' : Extraction) (ns : List Node) : Prop :=
  ∃ codes, ns.mapM (functionOf o) = .ok codes ∧ x'.codes = x.codes ++ codes

theorem Extracted.none (o : Options) (x : Extraction) : Extracted o x x [] :=
  ⟨[], rfl, (List.append_nil _).symm⟩

theorem Extracted.append {o : Options} {x x₁ x₂ : Extraction} {ns ms : List Node}
    (h : Extracted o x x₁ ns) (h' : Extracted o x₁ x₂ ms) : Extracted o x x₂ (ns ++ ms) := by
  obtain ⟨codes, hc, hx⟩ := h
  obtain ⟨codes', hc', hx'⟩ := h'
  refine ⟨codes ++ codes', ?_, ?_⟩
  · rw [List.mapM_append, hc, hc']
    rfl
  · rw [hx', hx, List.append_assoc]

theorem hoists_eq_isFunction {t : Tag} {kind : DirectiveKind}
    (h : DirectiveKind.ofWord? t.directiveWord = some kind) :
    (t.directiveOf kind).hoists = isFunction t := by
  unfold isFunction
  rw [h]
  cases kind <;> rfl

theorem isFunction_of_not_isDirective {t : Tag} (h : t.isDirective = false) :
    isFunction t = false := by
  have none : t.directiveWord = "" := by simpa [Tag.isDirective] using h
  unfold isFunction
  rw [none]
  rfl

/-- A tag keeps its id, or gets one. -/
theorem withId_eq_ok {t u : Tag} {x x' : Extraction} (function : isFunction t)
    (h : (withId t).run x = .ok (u, x')) :
    (∀ cs, elementWithId x.named t cs = (.element u cs, x'.named)) ∧ x'.codes = x.codes ∧
      ∃ name, functionName? u = some name := by
  unfold withId at h
  unfold elementWithId
  rw [function]
  by_cases named : (t.directiveOf .declare).functionName?.isSome
  · rw [if_pos named] at h
    cases h
    obtain ⟨name, hname⟩ := Option.isSome_iff_exists.mp named
    have given : functionName? t = some name := hname
    rw [given]
    exact ⟨fun _ => rfl, rfl, name, rfl⟩
  · rw [if_neg named] at h
    cases h
    have none : functionName? t = .none := by
      rw [Option.not_isSome_iff_eq_none] at named
      exact named
    rw [none, ← madeUpName_eq]
    exact ⟨fun _ => rfl, rfl, _, functionName?_set_id t (x.named + 1)⟩

/-- An element that asks for a function gets an id and is compiled. -/
theorem extractElement_eq_ok {o : Options} {t : Tag} {cs : List Node} {n : Node}
    {x x' : Extraction}
    (h : (extractElement { o with split := true } .outside t cs).run x = .ok (n, x')) :
    elementWithId x.named t cs = (n, x'.named) ∧
      Extracted o x x' (if isFunction t then [n] else []) := by
  have quiet : isFunction t = false → elementWithId x.named t cs = (.element t cs, x.named) := by
    intro hf
    rw [elementWithId, hf]
    rfl
  unfold extractElement at h
  split at h
  · rename_i directive
    have plain := isFunction_of_not_isDirective (by simpa using directive)
    cases h
    rw [plain]
    exact ⟨quiet plain, .none o x⟩
  obtain ⟨_, _, hget, h⟩ := run_bind_eq_ok h
  cases hget
  obtain ⟨d, x₁, hd, h⟩ := run_bind_eq_ok h
  obtain ⟨hd, rfl⟩ := run_lift_eq_ok hd
  obtain ⟨kind, hk, rfl⟩ := directive_eq_ok hd
  rw [hoists_eq_isFunction hk] at h
  cases function : isFunction t with
  | false =>
      rw [function] at h
      cases h
      exact ⟨quiet function, .none o _⟩
  | true =>
      rw [function] at h
      -- the element is given an id if it has none, and then its function is made
      obtain ⟨u, x₂, hu, h⟩ := run_bind_eq_ok h
      obtain ⟨same, codes, name, named⟩ := withId_eq_ok function hu
      obtain ⟨name?, x₃, hg, h⟩ := run_bind_eq_ok h
      obtain ⟨hg, count⟩ := run_ofGen_eq_ok hg
      cases h
      obtain ⟨-, code, hcode, added⟩ := hoist_eq_ok named hg
      refine ⟨by rw [same, count], [code], ?_, by rw [added, codes]⟩
      rw [if_pos rfl, List.mapM_cons, hcode]
      rfl

mutual

theorem extract_eq_ok {o : Options} : ∀ (c : Node) {n : Node} {x x' : Extraction},
    (extract { o with split := true } .outside c).run x = .ok (n, x') →
      Node.withIds x.named c = (n, x'.named) ∧ Extracted o x x' (Node.functions n)
  | .element t cs, n, x, x', h => by
      rw [extract] at h
      rw [Node.withIds]
      split at h
      · rename_i script
        cases h
        rw [if_pos script, Node.functions, if_pos script]
        exact ⟨rfl, .none o x⟩
      · rename_i script
        obtain ⟨ds, x₁, hds, h⟩ := run_bind_eq_ok h
        obtain ⟨below, functions⟩ := extractAll_eq_ok cs hds
        obtain ⟨here, own⟩ := extractElement_eq_ok h
        rw [if_neg script, below, here]
        have tags := functions_elementWithId x₁.named script ds
        rw [here] at tags
        rw [tags]
        exact ⟨rfl, functions.append own⟩
  | .document _, n, x, x', h | .text _, n, x, x', h | .comment _, n, x, x', h
  | .doctype _, n, x, x', h | .markup _, n, x, x', h => by
      rw [extract] at h
      · cases h
        exact ⟨rfl, .none o x⟩
      all_goals intros; contradiction

/-- Extracting the functions of siblings gives the elements that ask for one an
id, and compiles them one after the other. -/
theorem extractAll_eq_ok {o : Options} : ∀ (cs : List Node) {ds : List Node} {x x' : Extraction},
    (extractAll { o with split := true } .outside cs).run x = .ok (ds, x') →
      withIds x.named cs = (ds, x'.named) ∧ Extracted o x x' (functions ds)
  | [], ds, x, x', h => by
      rw [extractAll] at h
      cases h
      exact ⟨rfl, .none o x⟩
  | c :: cs, ds, x, x', h => by
      rw [extractAll] at h
      obtain ⟨d, x₁, hd, h⟩ := run_bind_eq_ok h
      obtain ⟨ds', x₂, hds, h⟩ := run_bind_eq_ok h
      cases h
      obtain ⟨here, own⟩ := extract_eq_ok c hd
      obtain ⟨behind, others⟩ := extractAll_eq_ok cs hds
      rw [withIds, here, behind, functions]
      exact ⟨rfl, own.append others⟩

end

/-- Extracting the functions of a body that no head and no `<html>` is in gives its
elements ids, and places the functions in the page. -/
theorem extractBody_eq_ok {o : Options} {path : Path} {p p' : Progress} {t : Tag}
    {cs rest : List Node} (here : siblingsAt path p.doc = .element t cs :: rest)
    (head : (Node.element t cs).findPath? (Tag.isNamed "head") = none)
    (html : (Node.element t cs).findPath? (Tag.isNamed "html") = none)
    (h : extractBody { o with split := true } path p = .ok p') :
    ∃ codes, (functions (withIds 0 cs).1).mapM (functionOf o) = .ok codes ∧
      p'.doc = place codes (modifyAt (fun _ => .element t (withIds 0 cs).1) path p.doc) := by
  unfold extractBody at h
  rw [here] at h
  dsimp only at h
  rw [site_outside here head html] at h
  obtain ⟨⟨ds, x⟩, extracted, h⟩ := bind_eq_ok h
  obtain ⟨same, codes, functions, added⟩ := extractAll_eq_ok cs extracted
  cases h
  rw [same]
  exact ⟨x.codes, by rw [added]; exact functions, rfl⟩

end PageTemplates.Compile
