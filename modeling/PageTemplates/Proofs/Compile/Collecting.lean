import PageTemplates.Proofs.Compile.HeadFunctions

/-!
# Which functions are collected, and in which order

Each element that asks for a function and is reached is compiled to one function, and the
functions come in the head in the order in which their elements end: inner ones first. With
the scripts that write out code, they are all that compiling in place counts. The main facts:

* `keptScripts_placed`, `keptScripts_replaceFirst`, `keptScripts_markBody`: what the steps of
  compiling do to the scripts of a document;
* `Ran`: a run with the functions and the scripts that it adds;
* `Ran.collects`: the functions are those of the elements that are met, in order;
* `inline_collects`: the functions of a document that is compiled in place, and all of its
  scripts.
-/

namespace PageTemplates.Compile

open Markup

/-! ## Scripts that are added -/

section

variable {p : Tag → Bool} {f : Node → List Node} {q : Tag → List Node → Bool}
  {new : List String} {ns ms : List Node} {doc : Document}

/-- A change adds the scripts that it adds where it is made, unless that is inside of an
element with a directive. -/
theorem keptScripts_of_changed (h : Changed p f ns ms)
    (here : ∀ t cs, p t → q t cs →
      (keptScripts (f (.element t cs))).Perm (keptScripts [.element t cs] ++ new))
    (shown : ∀ u ds, p u = false → isTarget u → q u ds → findPath? p ds = none)
    (plain : plainScripts ns) (all : everywhere q ns) :
    (keptScripts ms).Perm (keptScripts ns ++ new) := by
  induction h with
  | @here t cs ns hp =>
      rw [everywhere_cons, everywhere_element] at all
      rw [keptScripts_append, keptScripts_cons]
      exact perm_behind (here t cs hp all.1.1) _
  | @inside u ds es ns hp below ih =>
      rw [everywhere_cons, everywhere_element] at all
      rw [plainScripts_cons, plainScripts_element] at plain
      have other : u.name ≠ "script" := fun script =>
        not_isText_of_changed below (plain.1.1 script)
      -- a target around the change would hide what was added
      have open' : ¬ isTarget u := fun target =>
        below.findPath?_ne_none (shown u ds hp target all.1.1)
      rw [keptScripts_cons, keptScripts_cons (.element u ds), keptScripts_other other,
        keptScripts_other other, if_neg open', if_neg open']
      exact perm_behind (ih plain.1.2 all.1.2) _
  | @document ds es ns _ ih =>
      rw [everywhere_cons] at all
      rw [plainScripts_cons] at plain
      rw [keptScripts_cons, keptScripts_cons (.document ds), keptScripts_document,
        keptScripts_document]
      exact perm_behind (ih plain.1 all.1) _
  | @next n ns ms _ ih =>
      rw [everywhere_cons] at all
      rw [plainScripts_cons] at plain
      rw [keptScripts_cons n ms, keptScripts_cons n ns, List.append_assoc]
      exact .append_left _ (ih plain.2 all.2)

theorem keptScripts_script (attributes : List Attribute) (code : String) :
    keptScripts [.script attributes code] = [code] := by
  have target : isTarget { name := "script", attributes } = false := rfl
  have text : textOf (.element { name := "script", attributes } (strip [.text code])) = code := by
    simp [textOf, strip, Node.strip, Node.children]
  rw [Node.script, keptScripts_element target, text]
  rfl

theorem keptScripts_functions (codes : List String) :
    keptScripts (codes.map functionScript) = codes := by
  induction codes with
  | nil => rfl
  | cons code codes ih =>
      rw [List.map_cons, keptScripts_cons, ih, functionScript, keptScripts_script]
      rfl

theorem keptScripts_insertBeforeElement (n : Node) (ns : List Node) :
    (keptScripts (insertBeforeElement n ns)).Perm (keptScripts ns ++ keptScripts [n]) := by
  induction ns with
  | nil => exact .refl _
  | cons c cs ih =>
      rw [insertBeforeElement]
      split
      · rw [keptScripts_cons]
        exact List.perm_append_comm
      · rw [keptScripts_cons, keptScripts_cons c cs, List.append_assoc]
        exact .append_left _ ih

/-- The functions that are placed are added to the scripts, if whatever they are added in is
not compiled away. -/
theorem keptScripts_placed (codes : List String) (plain : plainScripts doc)
    (stays : ∀ t cs, q t cs → takesFunctions t → isTarget t = false)
    (holds : ∀ t cs, q t cs → isTarget t → findPath? takesFunctions cs = none)
    (all : everywhere q doc) : (keptScripts (place codes doc)).Perm (keptScripts doc ++ codes) := by
  have new : keptScripts [newHead (codes.map functionScript)] = codes := by
    have target : ¬ isTarget { name := "head" } := by decide +kernel
    rw [newHead, keptScripts_other (by decide), if_neg target, keptScripts_functions]
  -- a head and an `<html>` are no targets: what they hold is kept or not as before
  have below {name : String} {g : List Node → List Node} {path : Path}
      (frame : name = "head" ∨ name = "html")
      (found : findPath? (Tag.isNamed name) doc = some path)
      (hg : ∀ cs, (keptScripts (g cs)).Perm (keptScripts cs ++ codes)) :
      (keptScripts (modifyAt (Node.mapChildren g) path doc)).Perm (keptScripts doc ++ codes) := by
    have frames := takesFunctions_of_isNamed frame
    refine keptScripts_of_changed (changed_replaceAt doc path found) (fun t cs ht own => ?_)
      (fun u ds _ target own => findPath?_of_frames frames (holds u ds own target)) plain all
    have other : t.name ≠ "script" :=
      ne_of_isNamed (by rcases frame with rfl | rfl <;> decide) t ht
    have open' := stays t cs own (frames t ht)
    rw [Node.mapChildren, keptScripts_other other, keptScripts_other other, open',
      if_neg Bool.false_ne_true, if_neg Bool.false_ne_true]
    exact hg cs
  have inserted (cs : List Node) :
      (keptScripts (insertBeforeElement (newHead (codes.map functionScript)) cs)).Perm
        (keptScripts cs ++ codes) := by
    have inserted := keptScripts_insertBeforeElement (newHead (codes.map functionScript)) cs
    rwa [new] at inserted
  refine place_cases codes doc ?nothing ?head ?html ?bare
  case nothing =>
    rintro rfl
    rw [List.append_nil]
  case head =>
    refine fun path found => below (.inl rfl) found fun cs => ?_
    rw [keptScripts_append, keptScripts_functions]
  case html => exact fun _ path found => below (.inr rfl) found inserted
  case bare => exact fun _ => inserted doc

theorem keptScripts_place (codes : List String) (plain : plainScripts doc)
    (clear : everywhere isClear doc) :
    (keptScripts (place codes doc)).Perm (keptScripts doc ++ codes) := by
  refine keptScripts_placed codes plain
    (fun t cs own taken => not_isTarget_of_clear own (.inl taken))
    (fun t cs own target => ?_) clear
  by_contra some
  rw [not_isTarget_of_clear own (.inr some)] at target
  cases target

/-- The text of the script that writes out what code stands for. -/
def writeText (code : String) : String := "document.write(" ++ code ++ ")"

/-- An element gives way to the script that writes it out, if it has code. -/
theorem keptScripts_replaceFirst (code? : Option String) {p : Progress}
    (plain : plainScripts p.doc) {path : Path} (found : findPath? isTarget p.doc = some path) :
    (keptScripts (replaceFirst code? p).doc).Perm
      (keptScripts p.doc ++ code?.toList.map writeText) := by
  unfold replaceFirst
  rw [found]
  refine keptScripts_of_changed (q := fun _ _ => true) (changed_replaceAt p.doc path found)
    (fun t cs target _ => ?_) (fun u ds other target _ => ?_) plain
    (everywhere_of_forall (fun _ _ => rfl) p.doc)
  · rw [keptScripts_target target]
    cases code? with
    | none => exact .refl _
    | some code => exact .of_eq (keptScripts_script _ (writeText code))
  · rw [other] at target
    cases target

/-- The script that starts the processing is added to a document that has a body. -/
theorem keptScripts_markBody (plain : plainScripts doc) (done : findPath? isTarget doc = none) :
    ∃ start, (start = [] ∨ start = [startCode]) ∧
      (keptScripts (markBody doc)).Perm (keptScripts doc ++ start) := by
  unfold markBody appendToBody
  split
  · rename_i path found
    rw [findPath?_eq_none_iff, ← everywhere_tags] at done
    refine ⟨[startCode], .inr rfl, keptScripts_of_changed (changed_replaceAt doc path found)
      (fun t cs body own => ?_) (fun u ds _ target own => ?_) plain done⟩
    · rw [Bool.not_eq_true'] at own
      have other : t.name ≠ "script" := ne_of_isNamed (by decide) t body
      rw [Node.mapChildren, keptScripts_other other, keptScripts_other other, own,
        if_neg Bool.false_ne_true, if_neg Bool.false_ne_true, keptScripts_append,
        keptScripts_script]
    · rw [target] at own
      cases own
  · exact ⟨[], .inl rfl, by rw [List.append_nil]⟩

end

/-! ## A run -/

/-- A run that compiles elements with directives, the first one at each step, and adds the
functions `codes` and scripts that write out the code in `written`. -/
inductive Ran (o : Options) : Progress → List String → List String → Progress → Prop
  | stop (p : Progress) : Ran o p [] [] p
  | step {p r : Progress} {path : Path} {code? : Option String} {codes codes' written : List String}
      (found : findPath? isTarget p.doc = some path)
      (run : (firstCode o ((Site.ofDocument p.doc).mapPath (seenFrom path)) false false
        (siblingsAt path p.doc)).run [] = .ok (code?, codes))
      (rest : Ran o (replaceFirst code?
        { doc := place codes p.doc, generated := p.generated + codes.length }) codes' written r) :
      Ran o p (codes ++ codes') (code?.toList ++ written) r

theorem ran_of_ok {o : Options} {n : Nat} {p r : Progress} (h : compileTargets o n p = .ok r) :
    ∃ codes written, Ran o p codes written r := by
  replace h := targetRun_of_ok h
  induction h with
  | stop p => exact ⟨[], [], .stop p⟩
  | step found coded _ ih =>
      obtain ⟨codes, run, rfl⟩ := codeAt_eq_ok coded
      obtain ⟨codes', written, rest⟩ := ih
      exact ⟨codes ++ codes', _, .step found run rest⟩

/-- What leads from one element to the next and from there to a third. -/
theorem forall₂_comp {α β γ : Type} {R : α → β → Prop} {S : β → γ → Prop} {xs : List α}
    {ys : List β} {zs : List γ} (h : List.Forall₂ R xs ys) (h' : List.Forall₂ S ys zs) :
    List.Forall₂ (fun x z => ∃ y, R x y ∧ S y z) xs zs := by
  induction h generalizing zs with
  | nil =>
      cases h'
      exact .nil
  | cons first _ ih =>
      cases h' with
      | cons first' rest => exact .cons ⟨_, first, first'⟩ (ih rest)

/-- What comes of compiling elements from `p` to `r`: the functions `codes` of the elements
`ns`, and scripts that write out the code in `written`. -/
structure Collects (o : Options) (ns : List Node) (codes written : List String)
    (p r : Progress) : Prop where
  /-- Each of the elements, as it stands then, is compiled to one function. -/
  functions : List.Forall₂ (fun n code => ∃ m, IsStill n m ∧ IsCompiledTo o m code) ns codes
  /-- The scripts outside of elements with directives. -/
  scripts : (keptScripts r.doc).Perm
    (keptScripts p.doc ++ (codes ++ written.map writeText))
  /-- What is counted. -/
  generated : r.generated = p.generated + (codes.length + written.length)

namespace Collects

variable {o : Options} {ns ms : List Node} {codes codes' written written' : List String}
  {p p' r : Progress}

theorem refl (p : Progress) : Collects o [] [] [] p p where
  functions := .nil
  scripts := by rw [List.map_nil, List.append_nil, List.append_nil]
  generated := rfl

theorem trans (h : Collects o ns codes written p p') (h' : Collects o ms codes' written' p' r) :
    Collects o (ns ++ ms) (codes ++ codes') (written ++ written') p r where
  functions := List.rel_append h.functions h'.functions
  scripts := by
    have first := h.scripts
    have second := h'.scripts
    -- the scripts of the two steps are mixed, so texts are counted
    rw [List.perm_iff_count] at first second ⊢
    intro s
    have := first s
    have := second s
    simp only [List.count_append, List.map_append] at *
    omega
  generated := by
    rw [h'.generated, h.generated, List.length_append, List.length_append]
    omega

/-- The elements may have changed before where functions are added. -/
theorem of_isStill (still : List.Forall₂ IsStill ns ms) (h : Collects o ms codes written p r) :
    Collects o ns codes written p r where
  functions := (forall₂_comp still h.functions).imp
    fun _ _ ⟨_, still, m, still', compiled⟩ => ⟨m, still.trans still', compiled⟩
  scripts := h.scripts
  generated := h.generated

end Collects

section

variable {o : Options} {p r : Progress} {codes written : List String}

/-- A step collects the functions of the element that it compiles. -/
theorem step_collects (split : o.split = false) {path : Path} {code? : Option String}
    (tidy : Tidy (fun _ => true) p.doc) (clear : everywhere isClear p.doc)
    (found : findPath? isTarget p.doc = some path)
    (run : (firstCode o ((Site.ofDocument p.doc).mapPath (seenFrom path)) false false
      (siblingsAt path p.doc)).run [] = .ok (code?, codes)) (generated : Nat)
    (counted : generated = p.generated + codes.length) :
    ∃ first rest, walks p.doc = first :: rest ∧
      Collects o first codes code?.toList p (replaceFirst code? ⟨place codes p.doc, generated⟩) ∧
      List.Forall₂ (List.Forall₂ IsStill) rest
        (walks (replaceFirst code? ⟨place codes p.doc, generated⟩).doc) := by
  obtain ⟨t, cs, behind, rest, here, target, met, follows, later⟩ :=
    step_meets split tidy.scripts found
  -- functions are not added in the element, nor in the branches that are joined to it
  have quiet : (Node.element t cs).findPath? takesFunctions = none ∧
      ∀ n ∈ behind, isJoined n → n.findPath? takesFunctions = none := by
    have clear := (isDeep_everywhere isClear).siblingsAt path clear
    rw [here, everywhere_cons, everywhere_element] at clear
    rw [isTarget, Bool.and_eq_true] at target
    refine ⟨isClear_iff.mp clear.1.1 (.inl target.2), fun n hn joined => ?_⟩
    have own := ((isDeep_everywhere isClear).forall_iff behind).mp clear.2 n hn
    cases n with
    | element u ds => exact isClear_iff.mp (everywhere_element.mp own).1 (.inr joined)
    | document _ | text _ | comment _ | doctype _ | markup _ => cases joined
  have compiled : List.Forall₂ (IsCompiledTo o) (metAt t cs (walks cs).flatten (others behind))
      codes := by
    cases known : (metAt t cs (walks cs).flatten (others behind)).find? Node.isUnknown with
    | some n =>
        obtain ⟨e, error, -⟩ := follows.fails n known []
        rw [error] at run
        cases run
    | none =>
        obtain ⟨a, new, run', all⟩ := follows.succeeds known []
        rw [run', List.nil_append] at run
        cases run
        exact all quiet
  obtain ⟨path', found'⟩ := findPath?_place codes found
  have tidy' := tidy_place (q := fun _ => true) (fun _ _ => rfl) codes tidy
  refine ⟨_, rest, met, ⟨?_, ?_, ?_⟩, later code? codes _⟩
  · exact compiled.imp fun n code own => ⟨n, isStill_refl n, own⟩
  · have placed := keptScripts_place codes tidy.scripts clear
    have replaced := keptScripts_replaceFirst code? (p := ⟨place codes p.doc, generated⟩)
      tidy'.scripts found'
    rw [← List.append_assoc]
    exact replaced.trans (placed.append_right _)
  · unfold replaceFirst
    rw [found']
    have written : (code?.map writeScript).toList.length = code?.toList.length := by
      cases code? <;> rfl
    dsimp only
    rw [written, counted, Nat.add_assoc]

namespace Ran

theorem tidy (h : Ran o p codes written r) (tidy : Tidy (fun _ => true) p.doc) :
    Tidy (fun _ => true) r.doc := by
  induction h with
  | stop p => exact tidy
  | step _ _ _ ih =>
      exact ih (tidy_replaceFirst (fun _ _ => rfl) _ (tidy_place (fun _ _ => rfl) _ tidy))

/-- A run collects the functions of the elements that are met, in this order. -/
theorem collects (h : Ran o p codes written r) (split : o.split = false)
    (tidy : Tidy (fun _ => true) p.doc) (clear : everywhere isClear p.doc)
    (done : findPath? isTarget r.doc = none) :
    Collects o (walks p.doc).flatten codes written p r := by
  induction h with
  | stop p =>
      rw [walks_of_none _ done]
      exact .refl p
  | @step p r path code? codes codes' written found run _ ih =>
      obtain ⟨first, rest, met, collects, later⟩ :=
        step_collects split tidy clear found run _ rfl
      have collects' := ih
        (tidy_replaceFirst (fun _ _ => rfl) code? (tidy_place (fun _ _ => rfl) codes tidy))
        (clear_replaceFirst code? (clear_place codes clear)) done
      rw [met, List.flatten_cons]
      -- what is met later is what it was before this step, up to functions in it
      exact collects.trans (collects'.of_isStill (List.rel_flatten later))

/-- The functions come behind those that are in the head already. -/
theorem headHolds (h : Ran o p codes written r) {old : List String} (holds : HeadHolds old p.doc) :
    HeadHolds (old ++ codes) r.doc := by
  induction h generalizing old with
  | stop p => rwa [List.append_nil]
  | step _ _ _ ih =>
      rw [← List.append_assoc]
      exact ih ((holds.place _).replaceFirst _)

end Ran

end

/-! ## A document -/

section

variable {P : Node → Prop} {Q : List Node → Prop}

mutual

theorem Node.mem_innerFirst (deep : IsDeep P Q) : ∀ n : Node, P n → ∀ m ∈ Node.innerFirst n, P m
  | .element t cs, h, m, hm => by
      rw [Node.innerFirst, List.mem_append, List.mem_singleton] at hm
      rcases hm with below | rfl
      · split at below
        · cases below
        · exact mem_innerFirst deep cs (deep.children _ h) m below
      · exact h
  | .document cs, h, m, hm => mem_innerFirst deep cs (deep.children _ h) m hm
  | .text _, _, _, hm | .comment _, _, _, hm | .doctype _, _, _, hm | .markup _, _, _, hm => by
      cases hm

/-- What holds of the nodes of a document and of what is in them holds of its elements. -/
theorem mem_innerFirst (deep : IsDeep P Q) : ∀ cs : List Node, Q cs → ∀ m ∈ innerFirst cs, P m
  | [], _, m, hm => by cases hm
  | c :: cs, h, m, hm => by
      rw [deep.forall_iff, List.forall_mem_cons] at h
      rw [innerFirst, List.mem_append] at hm
      rcases hm with here | later
      · exact Node.mem_innerFirst deep c h.1 m here
      · exact mem_innerFirst deep cs ((deep.forall_iff cs).mpr h.2) m later

end

end

/-- A script with the code of functions is written by hand in none of the elements. -/
theorem functionTexts_unwritten {hidden : Tag → Bool} {ns : List Node}
    (unwritten : findPath? isFunctionScript ns = none) : functionTexts hidden ns = [] := by
  refine List.eq_nil_iff_forall_not_mem.mpr fun code mem => ?_
  have mem := mem_functionTexts ns mem
  rw [functionTexts_eq_pullOut, pullOut_of_none ns unwritten] at mem
  cases mem

theorem keptScripts_prepare (doc : Document) : keptScripts (prepare doc) = keptScripts doc := by
  rw [prepare, keptScripts_group, keptScripts, strip_moveDirectives (by decide),
    strip_moveDirectives (by decide)]
  rfl

/-- A readied document without functions holds none in its head. -/
theorem headHolds_prepare {doc : Document} (clear : everywhere isClear doc)
    (single : (findPaths (Tag.isNamed "head") doc).length ≤ 1)
    (unwritten : findPath? isFunctionScript doc = none) : HeadHolds [] (prepare doc) := by
  have none : findPath? isFunctionScript (prepare doc) = none := by
    rw [findPath?_eq_none_iff] at unwritten ⊢
    exact allTags_prepare (fun t _ _ => by rw [isFunctionScript_join]; rfl) unwritten
  exact ⟨clear_prepare clear, Nat.le_trans (length_heads_prepare doc) single,
    functionTexts_unwritten none, functionTexts_unwritten none⟩

theorem length_heads_markBody (doc : Document) :
    (findPaths (Tag.isNamed "head") (markBody doc)).length
      ≤ (findPaths (Tag.isNamed "head") doc).length := by
  unfold markBody appendToBody
  split
  · rename_i path found
    refine length_findPaths_mapChildren 0 (fun cs => Nat.le_of_eq ?_)
      (changed_replaceAt doc path found)
    rw [length_findPaths_append]
    rfl
  · exact Nat.le_refl _

/-- A function that functions are not added in is compiled as it stands in the document
whose branches are grouped. -/
theorem isGrouped_of_hoisted {n m l : Node} (clear : Node.everywhere isClear n)
    (hoisted : Node.isHoisted n) (grouped : IsGrouped n m) (still : IsStill m l) :
    IsGrouped n l := by
  rcases still with rfl | ⟨taken, -⟩
  · exact grouped
  exfalso
  cases n with
  | document _ | text _ | comment _ | doctype _ | markup _ => cases hoisted
  | element t cs =>
      -- an element that is compiled to a function has a directive
      have target : isTarget t := by
        by_contra plain
        rw [Node.isHoisted, isHoisted_of_not_isTarget plain] at hoisted
        cases hoisted
      rw [isTarget, Bool.and_eq_true] at target
      have none := isClear_iff.mp (everywhere_element.mp clear).1 (.inl target.2)
      rw [Node.findPath?_eq_none_iff] at none
      rcases grouped with rfl | rfl
      · rw [(Node.findPath?_eq_none_iff _).mpr none] at taken
        cases taken
      · have none' := Node.allTags_group (p := fun t => !takesFunctions t)
          (fun t _ ht => by rwa [takesFunctions, name_join]) _ none
        rw [(Node.findPath?_eq_none_iff _).mpr none'] at taken
        cases taken

/-- What is collected of a document that is compiled in place: each element that asks for a
function and is reached is compiled to one, inner ones first. -/
theorem functions_of_collects {o : Options} (split : o.split = false) {doc : Document}
    {r : Progress} {codes written : List String} (plain : plainScripts doc)
    (unjoined : allTags isUnjoined doc) (clear : everywhere isClear doc)
    (run : compileAll o { doc := prepare doc } = .ok r)
    (collects : Collects o (walks (prepare doc)).flatten codes written { doc := prepare doc } r) :
    List.Forall₂ (fun n code => ∃ m, IsGrouped n m ∧ IsCompiledTo o m code)
      ((innerFirst (movedTo doc)).filter Node.isHoisted) codes := by
  have moved : Tidy isUnjoined (movedTo doc) :=
    tidy_moveDirectives "meta" (tidy_moveDirectives "title" ⟨unjoined, plain⟩)
  have clear' : everywhere isClear (movedTo doc) :=
    clear_moveDirectives "meta" (clear_moveDirectives "title" clear)
  -- nothing unknown is met, so what is met are the functions
  have known : (met (movedTo doc)).find? Node.isUnknown = none := by
    have depends := compileAll_reports split plain unjoined
    split at depends
    · obtain ⟨e, -, error, -⟩ := depends
      rw [run] at error
      cases error
    · assumption
  have grouped := walks_group false (movedTo doc) moved.tags moved.scripts
  rw [if_neg Bool.false_ne_true, List.nil_append, met_eq_hoisted moved.scripts known] at grouped
  have own : ∀ n ∈ (innerFirst (movedTo doc)).filter Node.isHoisted,
      Node.everywhere isClear n ∧ Node.isHoisted n := fun n mem =>
    have ⟨reached, hoisted⟩ := List.mem_filter.mp mem
    ⟨mem_innerFirst (isDeep_everywhere isClear) _ clear' n reached, hoisted⟩
  have compiled := forall₂_comp grouped collects.functions
  refine ((List.forall₂_and_left _ _).mpr ⟨own, compiled⟩).imp ?_
  rintro n code ⟨⟨clear, hoisted⟩, m, grouped, l, still, compiled⟩
  exact ⟨l, isGrouped_of_hoisted clear hoisted grouped still, compiled⟩

/-- The scripts of a document that is compiled in place, once it is done. -/
theorem scriptTexts_of_collects {o : Options} {ns : List Node} {doc : Document} {r : Progress}
    {codes written : List String} (done : findPath? isTarget r.doc = none)
    (collects : Collects o ns codes written { doc := prepare doc } r) :
    (scriptTexts r.doc).Perm (keptScripts doc ++ (codes ++ written.map writeText)) := by
  rw [← keptScripts_eq_scriptTexts done, ← keptScripts_prepare doc]
  exact collects.scripts

/-- A page in which something was generated gets the script that starts the processing, and
no other one. -/
theorem scriptTexts_started {p : Progress} (plain : plainScripts p.doc)
    (done : findPath? isTarget p.doc = none) : ∃ start, (start = [] ∨ start = [startCode]) ∧
      (scriptTexts (if p.generated == 0 then p else { p with doc := markBody p.doc }).doc).Perm
        (scriptTexts p.doc ++ start) := by
  split
  · exact ⟨[], .inl rfl, by rw [List.append_nil]⟩
  · obtain ⟨start, either, marked⟩ := keptScripts_markBody plain done
    rw [keptScripts_eq_scriptTexts done, keptScripts_eq_scriptTexts (findPath?_markBody done)]
      at marked
    exact ⟨start, either, marked⟩

/-- The functions of a document that is compiled in place, with one head at most that is
apart from directives. Each element that asks for a function and is reached is compiled to
one, inner ones first, and all of them are in the head, in this order. What is counted is
these and the scripts that write out code. The only other script that is added starts the
processing. -/
theorem inline_collects {o : Options} (split : o.split = false) {doc : Document} {r : Progress}
    (plain : plainScripts doc) (unjoined : allTags isUnjoined doc)
    (unwritten : findPath? isFunctionScript doc = none)
    (single : (findPaths (Tag.isNamed "head") doc).length ≤ 1)
    (clear : everywhere isClear doc) (h : inline o doc = .ok r) :
    ∃ codes written start : List String,
      List.Forall₂ (fun n code => ∃ m, IsGrouped n m ∧ IsCompiledTo o m code)
        ((innerFirst (movedTo doc)).filter Node.isHoisted) codes ∧
      functionTexts (fun _ => false) r.doc = codes ∧
      functionTexts (Tag.isNamed "head") r.doc = [] ∧
      (findPaths (Tag.isNamed "head") r.doc).length ≤ 1 ∧
      (scriptTexts r.doc).Perm (keptScripts doc ++ (codes ++ written.map writeText ++ start)) ∧
      (start = [] ∨ start = [startCode]) ∧
      r.generated = codes.length + written.length := by
  obtain ⟨p, run, rfl⟩ := inline_eq_ok h
  obtain ⟨codes, written, ran⟩ := ran_of_ok run
  have tidy : Tidy (fun _ => true) (prepare doc) :=
    tidy_prepare (fun _ _ _ => rfl) ⟨allTags_mono (fun _ _ => rfl) _ unjoined, plain⟩
  have done := compileAll_done run
  have collects := ran.collects split tidy (clear_prepare clear) done
  have holds := ran.headHolds (headHolds_prepare clear single unwritten)
  have functions := functions_of_collects split plain unjoined clear run collects
  have scripts := scriptTexts_of_collects done collects
  obtain ⟨start, either, started⟩ := scriptTexts_started (ran.tidy tidy).scripts done
  have all := started.trans (scripts.append_right start)
  rw [List.append_assoc] at all
  rw [List.nil_append] at holds
  have texts : functionTexts (fun _ => false) p.doc = codes := by
    rw [← functionTexts_of_none p.doc done, holds.texts]
  have apart : functionTexts (Tag.isNamed "head") p.doc = [] := by
    rw [← holds.apart]
    rw [findPath?_eq_none_iff] at done
    refine functionTexts_congr p.doc (allTags_mono (fun t ht => ?_) _ done)
    rw [Bool.not_eq_true'] at ht
    rw [isAway, ht, Bool.false_or, beq_iff_eq]
  have generated : p.generated = codes.length + written.length := by
    rw [collects.generated, Nat.zero_add]
  refine ⟨codes, written, start, functions, ?_⟩
  split
  · rename_i none
    rw [if_pos none] at all
    exact ⟨texts, apart, holds.single, all, either, generated⟩
  · rename_i some
    rw [if_neg some] at all
    refine ⟨?_, ?_, ?_, all, either, generated⟩
    · rw [functionTexts_markBody fun _ _ => rfl, texts]
    · rw [functionTexts_markBody fun t name => by simp [Tag.isNamed, name], apart]
    · exact Nat.le_trans (length_heads_markBody p.doc) holds.single

/-- A page with functions in functions, in the title, in a branch of a choice that is joined
to the one before, and in what is ignored. One of them has no id. -/
def collectedPage : Document :=
  let element (name yst id : String) (cs : List Node) : Node :=
    .element { name, attributes := [("yst", some yst), ("id", some id)] } cs
  [.element { name := "html" }
    [.element { name := "head" }
      [element "title" "value" "" [element "b" "live" "a" [.text "t"]],
       .element { name := "link" } []],
     .element { name := "body" }
      [element "p" "live" "b c" [.text "x", element "i" "declare" "d" [element "u" "value" "" []]],
       element "li" "compapply" "" [],
       .comment "or",
       element "li" "compapply" "" [element "p" "live" "e" []],
       element "p" "ignore" "" [element "p" "live" "f" []],
       element "p" "declare" " " [element "p" "live" "g" []]]]]

theorem inline_collects_collectedPage : ∃ r codes,
    inline {} collectedPage = .ok r ∧
      ((innerFirst (movedTo collectedPage)).filter Node.isHoisted).map Node.functionName?
        = [some "a", some "d", some "b_c", some "e"] ∧
      codes.length = 4 ∧ functionTexts (fun _ => false) r.doc = codes ∧
      functionTexts (Tag.isNamed "head") r.doc = [] ∧ r.generated = 7 := by
  have plain : plainScripts collectedPage := by decide +kernel
  have unjoined : allTags isUnjoined collectedPage := by decide +kernel
  have unwritten : findPath? isFunctionScript collectedPage = none := by decide +kernel
  have single : (findPaths (Tag.isNamed "head") collectedPage).length ≤ 1 := by decide +kernel
  have clear : everywhere isClear collectedPage := by decide +kernel
  have names : ((innerFirst (movedTo collectedPage)).filter Node.isHoisted).map Node.functionName?
      = [some "a", some "d", some "b_c", some "e"] := by decide +kernel
  have seven : (inline {} collectedPage).toOption.any (·.generated == 7) := by decide +kernel
  cases h : inline {} collectedPage with
  | error e => rw [h] at seven; cases seven
  | ok r =>
      obtain ⟨codes, -, -, functions, texts, apart, -⟩ :=
        inline_collects (o := {}) rfl plain unjoined unwritten single clear h
      rw [h, Except.toOption, Option.any_some, beq_iff_eq] at seven
      refine ⟨r, codes, rfl, names, ?_, texts, apart, seven⟩
      rw [← functions.length_eq, ← List.length_map Node.functionName?, names]
      rfl

end PageTemplates.Compile
