import PageTemplates.Compile.Split
import PageTemplates.Proofs.Compile.Harmless
import PageTemplates.Proofs.Compile.InPlace
import PageTemplates.Proofs.Compile.WellFormed

/-!
# Scripts of a page compiled in place

The scripts of a compiled page are the scripts that its template has outside of
directives, and scripts that compiling creates. The main facts:

* `scriptTexts`: the texts of the scripts of a document;
* `Adds lossy ns ms`: the scripts of `ms` are those of `ns` and harmless ones,
  and only a `lossy` step takes scripts away;
* `adds_replaced`: a step that changes one element adds what it adds there;
* `compileTargets_adds`: compiling elements adds harmless scripts;
* `inline_adds`: and so does compiling a document in place.
-/

namespace PageTemplates.Compile

open Markup Script

/-! ## Scripts -/

mutual

/-- The texts of the scripts at and below a node, in document order. -/
def Node.scriptTexts : Node → List String
  | .element t cs =>
      (if t.name == "script" then [textOf (.element t cs)] else []) ++ scriptTexts cs
  | .document cs => scriptTexts cs
  | _ => []

/-- The texts of the scripts in a list of siblings, and below. -/
def scriptTexts : List Node → List String
  | [] => []
  | c :: cs => Node.scriptTexts c ++ scriptTexts cs

end

theorem scriptTexts_append (ns ms : List Node) :
    scriptTexts (ns ++ ms) = scriptTexts ns ++ scriptTexts ms := by
  induction ns with
  | nil => rfl
  | cons n ns ih => rw [List.cons_append, scriptTexts, scriptTexts, ih, List.append_assoc]

/-- The texts of the scripts outside of elements that are compiled. -/
def keptScripts (ns : List Node) : List String := scriptTexts (strip ns)

theorem keptScripts_append (ns ms : List Node) :
    keptScripts (ns ++ ms) = keptScripts ns ++ keptScripts ms := by
  rw [keptScripts, strip_append, scriptTexts_append]
  rfl

theorem keptScripts_cons (n : Node) (ns : List Node) :
    keptScripts (n :: ns) = keptScripts [n] ++ keptScripts ns :=
  keptScripts_append [n] ns

theorem keptScripts_target {t : Tag} (h : isTarget t) (cs : List Node) :
    keptScripts [.element t cs] = [] := by
  rw [keptScripts, strip, Node.strip_target h]
  rfl

theorem keptScripts_element {t : Tag} (h : isTarget t = false) (cs : List Node) :
    keptScripts [.element t cs]
      = (if t.name == "script" then [textOf (.element t (strip cs))] else [])
        ++ keptScripts cs := by
  rw [keptScripts, strip, Node.strip, if_neg (by simp [h]), strip, List.append_nil, scriptTexts,
    Node.scriptTexts, scriptTexts, List.append_nil]
  rfl

theorem keptScripts_other {t : Tag} (other : t.name ≠ "script") (cs : List Node) :
    keptScripts [.element t cs] = if isTarget t then [] else keptScripts cs := by
  split
  · rename_i target
    exact keptScripts_target target cs
  · rename_i target
    have plain : (t.name == "script") = false := by simpa using other
    rw [keptScripts_element (by simpa using target), plain]
    rfl

/-- Of a tag, only the name and whether the element is compiled matter. -/
theorem keptScripts_retag {t u : Tag} (name : u.name = t.name) (target : isTarget u = isTarget t)
    (cs : List Node) : keptScripts [.element u cs] = keptScripts [.element t cs] := by
  cases ht : isTarget t with
  | true => rw [keptScripts_target ht, keptScripts_target (target.trans ht)]
  | false =>
      have text : textOf (.element u (strip cs)) = textOf (.element t (strip cs)) := rfl
      rw [keptScripts_element ht, keptScripts_element (target.trans ht), name, text]

theorem keptScripts_document (cs : List Node) : keptScripts [.document cs] = keptScripts cs := by
  rw [keptScripts, strip, Node.strip, strip, List.append_nil, scriptTexts, Node.scriptTexts,
    scriptTexts, List.append_nil]
  rfl

/-- Once no element is left to be compiled, all scripts are kept. -/
theorem keptScripts_eq_scriptTexts {ns : List Node} (none : findPath? isTarget ns = none) :
    keptScripts ns = scriptTexts ns := by
  rw [keptScripts, strip_eq_self ns ((findPath?_eq_none_iff ns).mp none)]

/-! ## What a step adds -/

/-- Siblings in which nothing closes a script when it is printed into code. -/
abbrev Sound (ns : List Node) : Prop := Tidy isSound ns

/-- A step from the nodes `ns` to the nodes `ms` keeps them sound, and creates
only scripts whose texts close no script. Where it is not `lossy`, it takes no
script away. -/
def Adds (lossy : Prop) (ns ms : List Node) : Prop :=
  Sound ns → Sound ms ∧ ∃ created gone : List String,
    (∀ code ∈ created, closesScript code.toList = false) ∧ (gone = [] ∨ lossy) ∧
      (keptScripts ms ++ gone).Perm (keptScripts ns ++ created)

namespace Adds

variable {lossy : Prop} {ns ms ks ls : List Node}

/-- A step that leaves the scripts as they are. -/
theorem of_eq (h : Sound ns → Sound ms ∧ keptScripts ms = keptScripts ns) : Adds lossy ns ms := by
  intro sound
  obtain ⟨sound', same⟩ := h sound
  refine ⟨sound', [], [], fun code hc => by (cases hc), .inl rfl, ?_⟩
  rw [same]

theorem of_sound (h : Sound ns → Adds lossy ns ms) : Adds lossy ns ms := fun sound => h sound sound

theorem refl (ns : List Node) : Adds lossy ns ns := .of_eq fun sound => ⟨sound, rfl⟩

theorem trans (h : Adds lossy ns ms) (h' : Adds lossy ms ks) : Adds lossy ns ks := by
  intro sound
  obtain ⟨sound', created, gone, harmless, kept, perm⟩ := h sound
  obtain ⟨sound'', created', gone', harmless', kept', perm'⟩ := h' sound'
  refine ⟨sound'', created ++ created', gone ++ gone', ?_, ?_, ?_⟩
  · exact List.forall_mem_append.mpr ⟨harmless, harmless'⟩
  · rcases kept with rfl | lost
    · exact kept'
    · exact .inr lost
  · -- what the first step created may be gone after the second, so texts are counted
    rw [List.perm_iff_count] at perm perm' ⊢
    intro s
    have := perm s
    have := perm' s
    simp only [List.count_append] at *
    omega

theorem append (h : Adds lossy ns ms) (h' : Adds lossy ks ls) :
    Adds lossy (ns ++ ks) (ms ++ ls) := by
  intro sound
  obtain ⟨front, back⟩ := tidy_append.mp sound
  obtain ⟨front', created, gone, harmless, kept, perm⟩ := h front
  obtain ⟨back', created', gone', harmless', kept', perm'⟩ := h' back
  refine ⟨tidy_append.mpr ⟨front', back'⟩, created ++ created', gone ++ gone', ?_, ?_, ?_⟩
  · exact List.forall_mem_append.mpr ⟨harmless, harmless'⟩
  · rcases kept with rfl | lost
    · exact kept'
    · exact .inr lost
  · rw [keptScripts_append, keptScripts_append]
    rw [List.perm_iff_count] at perm perm' ⊢
    intro s
    have := perm s
    have := perm' s
    simp only [List.count_append] at *
    omega

/-- A step below an element that is no script. -/
theorem element {t : Tag} (other : t.name ≠ "script") (h : Adds lossy ns ms) :
    Adds lossy [.element t ns] [.element t ms] := by
  intro sound
  obtain ⟨tag, -, below⟩ := tidy_element.mp sound
  obtain ⟨below', created, gone, harmless, kept, perm⟩ := h below
  refine ⟨tidy_element.mpr ⟨tag, fun script => absurd script other, below'⟩, ?_⟩
  rw [keptScripts_other other, keptScripts_other other]
  split
  · exact ⟨[], [], fun code hc => by (cases hc), .inl rfl, .refl _⟩
  · exact ⟨created, gone, harmless, kept, perm⟩

theorem document (h : Adds lossy ns ms) : Adds lossy [.document ns] [.document ms] := by
  intro sound
  obtain ⟨sound', added⟩ := h (tidy_document.mp sound)
  rw [keptScripts_document, keptScripts_document]
  exact ⟨tidy_document.mpr sound', added⟩

end Adds

theorem Replaced.not_isText {p : Tag → Bool} {t : Tag} {cs new ns ms : List Node}
    (h : Replaced p (.element t cs) new ns ms) : ¬ ns.all Node.isText := by
  induction h with
  | here => simp [Node.isText]
  | inside _ _ _ => simp [Node.isText]
  | document _ _ => simp [Node.isText]
  | next _ ih =>
      rw [List.all_cons, Bool.and_eq_true]
      exact fun h => ih h.2

section

variable {lossy : Prop} {p : Tag → Bool} {ns : List Node} {path : Path}

/-- A change of one element adds what it adds there: in a script there is no
element to be changed. -/
theorem adds_replaced {t : Tag} {cs new ms : List Node}
    (h : Replaced p (.element t cs) new ns ms) (here : Adds lossy [.element t cs] new) :
    Adds lossy ns ms := by
  induction h with
  | here => exact here.append (.refl _)
  | @inside u ds es ns _ below ih =>
      have whole : Adds lossy [.element u ds] [.element u es] := by
        by_cases script : u.name = "script"
        · -- a script holds text, so the change cannot be inside it
          refine .of_sound fun sound => ?_
          exact absurd ((tidy_element.mp sound).2.1 script) (Replaced.not_isText below)
        · exact ih.element script
      exact whole.append (.refl _)
  | document _ ih => exact ih.document.append (.refl _)
  | @next n _ _ _ ih => exact (Adds.refl [n]).append ih

theorem adds_replaceAt {f : Node → List Node} (hpath : findPath? p ns = some path)
    (here : ∀ t cs, p t → Adds lossy [.element t cs] (f (.element t cs))) :
    Adds lossy ns (replaceAt f path ns) := by
  obtain ⟨t, cs, rest, ht, -, -, replaced⟩ := replaced_found (f := f) ns path hpath
  exact adds_replaced replaced (here t cs ht)

/-- The same where what an element holds is changed. -/
theorem adds_mapChildren {g : List Node → List Node} (hpath : findPath? p ns = some path)
    (other : ∀ t, p t → t.name ≠ "script") (below : ∀ cs, Adds lossy cs (g cs)) :
    Adds lossy ns (modifyAt (Node.mapChildren g) path ns) :=
  adds_replaceAt hpath fun t cs ht => (below cs).element (other t ht)

end

/-! ## Created nodes -/

/-- Nodes that may be added anywhere. -/
structure Quiet (ns : List Node) : Prop where
  sound : Sound ns
  scripts : ∀ code ∈ keptScripts ns, closesScript code.toList = false

theorem quiet_script (attributes : List Attribute) {code : String}
    (h : closesScript code.toList = false) : Quiet [.script attributes code] := by
  have target : isTarget { name := "script", attributes } = false := rfl
  refine ⟨tidy_element.mpr ⟨rfl, fun _ => rfl, rfl, rfl⟩, ?_⟩
  rw [Node.script, keptScripts_element target]
  have text : textOf (.element { name := "script", attributes } (strip [.text code])) = code := by
    apply String.toList_injective
    simp [textOf, strip, Node.strip, Node.children, String.join]
  rw [text]
  intro code' hc
  obtain rfl : code' = code := by simpa [keptScripts, strip, Node.strip, scriptTexts,
    Node.scriptTexts] using hc
  exact h

theorem Quiet.append {ns ms : List Node} (h : Quiet ns) (h' : Quiet ms) : Quiet (ns ++ ms) := by
  refine ⟨tidy_append.mpr ⟨h.sound, h'.sound⟩, ?_⟩
  rw [keptScripts_append]
  exact List.forall_mem_append.mpr ⟨h.scripts, h'.scripts⟩

theorem quiet_functions {codes : List String} (h : ∀ c ∈ codes, Harmless c) :
    Quiet (codes.map functionScript) := by
  induction codes with
  | nil => exact ⟨.nil, fun code hc => by (cases hc)⟩
  | cons code codes ih =>
      rw [List.forall_mem_cons] at h
      exact (quiet_script _ h.1.closesScript_eq_false).append (ih h.2)

theorem Quiet.element {t : Tag} {cs : List Node} (tag : isSound t) (other : t.name ≠ "script")
    (h : Quiet cs) : Quiet [.element t cs] := by
  refine ⟨tidy_element.mpr ⟨tag, fun script => absurd script other, h.sound⟩, ?_⟩
  rw [keptScripts_other other]
  split
  · exact fun code hc => by (cases hc)
  · exact h.scripts

section

variable {lossy : Prop} {ns ms : List Node}

theorem Quiet.adds (h : Quiet ms) : Adds lossy [] ms :=
  fun _ => ⟨h.sound, keptScripts ms, [], h.scripts, .inl rfl, by rw [List.append_nil]; rfl⟩

theorem Quiet.adds_behind (h : Quiet ms) : Adds lossy ns (ns ++ ms) := by
  have whole : Adds lossy (ns ++ []) (ns ++ ms) := (Adds.refl ns).append h.adds
  rwa [List.append_nil] at whole

theorem Quiet.adds_insertBeforeElement {n : Node} (h : Quiet [n]) :
    Adds lossy ns (insertBeforeElement n ns) := by
  induction ns with
  | nil => exact h.adds
  | cons c cs ih =>
      rw [insertBeforeElement]
      split
      · exact h.adds.append (.refl _)
      · exact (Adds.refl [c]).append ih

end

/-! ## Steps -/

section

variable {lossy : Prop}

theorem ne_of_isNamed {name other : String} (h : name ≠ other) (t : Tag)
    (ht : Tag.isNamed name t) : t.name ≠ other := by
  rw [Tag.isNamed, beq_iff_eq] at ht
  rwa [ht]

theorem adds_place {codes : List String} (h : ∀ c ∈ codes, Harmless c) (doc : Document) :
    Adds lossy doc (place codes doc) := by
  have functions := quiet_functions h
  have head : Quiet [newHead (codes.map functionScript)] :=
    functions.element (by decide) (by decide)
  refine place_cases codes doc ?nothing ?head ?html ?bare
  case nothing => exact fun _ => .refl _
  case head =>
    exact fun path found =>
      adds_mapChildren found (ne_of_isNamed (by decide)) fun _ => functions.adds_behind
  case html =>
    exact fun _ path found =>
      adds_mapChildren found (ne_of_isNamed (by decide)) fun _ => head.adds_insertBeforeElement
  case bare => exact fun _ => head.adds_insertBeforeElement

theorem quiet_writeScript {code : String} (h : Harmless code) : Quiet [writeScript code] :=
  quiet_script _ (h.between (by decide) (by decide)).closesScript_eq_false

theorem adds_replaceFirst {code? : Option String} (h : ∀ code ∈ code?, Harmless code)
    (p : Progress) : Adds lossy p.doc (replaceFirst code? p).doc := by
  unfold replaceFirst
  split
  · exact .refl _
  · rename_i path hpath
    refine adds_replaceAt hpath fun t cs ht => ?_
    -- what stood in the element is not kept, so nothing is lost
    have gone : Adds lossy [.element t cs] [] :=
      .of_eq fun _ => ⟨.nil, (keptScripts_target ht cs).symm⟩
    cases code? with
    | none => exact gone
    | some code => exact gone.trans (quiet_writeScript (h code rfl)).adds

theorem adds_appendToBody {n : Node} (h : Quiet [n]) (doc : Document) :
    Adds lossy doc (appendToBody n doc) := by
  unfold appendToBody
  split
  · rename_i path hpath
    exact adds_mapChildren hpath (ne_of_isNamed (by decide)) fun _ => h.adds_behind
  · exact .refl _

theorem adds_markBody (doc : Document) : Adds lossy doc (markBody doc) :=
  adds_appendToBody (quiet_script _ (by decide +kernel)) doc

/-! ## Readying a document -/

theorem pullOut_of_isText {p : Tag → Bool} {cs : List Node} (h : cs.all Node.isText) :
    pullOut p cs = (cs, []) := by
  induction cs with
  | nil => rfl
  | cons c cs ih =>
      rw [List.all_cons, Bool.and_eq_true] at h
      rw [pullOut_cons, ih h.2]
      cases c with
      | text s => rfl
      | element _ _ | document _ | comment _ | doctype _ | markup _ => cases h.1

mutual

theorem Node.tidy_pullOut {p q : Tag → Bool} : ∀ n : Node, Tidy q [n] →
    Tidy q (n.pullOut p).1 ∧ Tidy q (n.pullOut p).2
  | .element t cs, h => by
      obtain ⟨tag, text, below⟩ := tidy_element.mp h
      obtain ⟨kept, pulled⟩ := tidy_pullOut (p := p) cs below
      have whole : Tidy q [.element t (pullOut p cs).1] := by
        refine tidy_element.mpr ⟨tag, fun script => ?_, kept⟩
        rw [pullOut_of_isText (text script)]
        exact text script
      rw [pullOut_element]
      split
      · exact ⟨.nil, tidy_cons.mpr ⟨whole, pulled⟩⟩
      · exact ⟨whole, pulled⟩
  | .document cs, h => by
      obtain ⟨kept, pulled⟩ := tidy_pullOut (p := p) cs (tidy_document.mp h)
      rw [pullOut_document]
      exact ⟨tidy_document.mpr kept, pulled⟩
  | .text _, h | .comment _, h | .doctype _, h | .markup _, h => ⟨h, .nil⟩

/-- What is pulled out and what is left satisfy the conditions that the whole
satisfies. -/
theorem tidy_pullOut {p q : Tag → Bool} : ∀ ns : List Node, Tidy q ns →
    Tidy q (pullOut p ns).1 ∧ Tidy q (pullOut p ns).2
  | [], _ => ⟨.nil, .nil⟩
  | n :: ns, h => by
      rw [tidy_cons] at h
      obtain ⟨kept, pulled⟩ := Node.tidy_pullOut (p := p) n h.1
      obtain ⟨kept', pulled'⟩ := tidy_pullOut (p := p) ns h.2
      rw [pullOut_cons]
      exact ⟨tidy_append.mpr ⟨kept, kept'⟩, tidy_append.mpr ⟨pulled, pulled'⟩⟩

end

theorem adds_moveDirectives {name : String} (hname : name ≠ "script") (doc : Document) :
    Adds lossy doc (moveDirectives name doc) := by
  have targets : ∀ t : Tag, (t.name == name && t.isDirective) → isTarget t := by
    intro t ht
    simp only [Bool.and_eq_true, beq_iff_eq] at ht
    simp [isTarget, ht, hname]
  unfold moveDirectives moveToEndOfHead
  split
  · exact .refl _
  · rename_i path hpath
    refine adds_mapChildren hpath (ne_of_isNamed (by decide)) fun cs => .of_eq fun sound => ?_
    dsimp only
    obtain ⟨kept, pulled⟩ := tidy_pullOut cs sound
    refine ⟨tidy_append.mpr ⟨kept, pulled⟩, ?_⟩
    obtain ⟨kept', pulled'⟩ := strip_pullOut targets cs
    rw [keptScripts, strip_append, kept', pulled', List.append_nil]
    rfl

theorem page_join (t : Tag) : (join t).page = t.page := page_set t "yst" (some "ignore")

theorem isSound_join {t : Tag} (h : isSound t) : isSound (join t) := by
  have id : (join t).value "id" = t.value "id" :=
    value_set_of_ne (by decide) t (some "ignore")
  have word : ((DirectiveKind.ofWord? "ignore").any fun kind =>
      ((join t).directiveOf kind).hoists) = false := rfl
  simp only [isSound, Bool.and_eq_true, isSoundId, Tag.hoists, Bool.or_eq_true] at h ⊢
  rw [name_join, page_join, directiveWord_join, id, word]
  refine ⟨⟨h.1.1, ?_⟩, h.2⟩
  rcases h.1.2 with quiet | id
  · left
    simp only [Bool.not_eq_true', Bool.or_eq_false_iff] at quiet
    rw [quiet.1, Bool.and_false]
    rfl
  · exact .inr id

/-- A branch of a choice is compiled, or else it is a script, which keeps its
text. -/
theorem keptScripts_join {n : Node} (branch : n.isCompapply) :
    keptScripts [n.mapTag join] = keptScripts [n] := by
  cases n with
  | element t cs =>
      refine keptScripts_retag (name_join t) ?_ cs
      by_cases script : t.name = "script"
      · simp [isTarget, name_join, script]
      · obtain ⟨before, after⟩ := isTarget_of_branch (by simp [isNoScriptBranch, script]) branch
        rw [before, after]
  | document _ | text _ | comment _ | doctype _ | markup _ => rfl

mutual

theorem Node.keptScripts_group : ∀ n : Node, keptScripts [Node.group n] = keptScripts [n]
  | .element t cs => by
      rw [Node.group]
      split
      · rfl
      · rename_i script
        have other : t.name ≠ "script" := by simpa using script
        rw [keptScripts_other other, keptScripts_other other, keptScripts_group false cs]
  | .document _ | .text _ | .comment _ | .doctype _ | .markup _ => rfl

theorem keptScripts_group : ∀ opened cs, keptScripts (group opened cs) = keptScripts cs
  | _, [] => rfl
  | opened, c :: cs => by
      obtain ⟨f, opened', hf, hg⟩ := group_cons opened c cs
      have here : keptScripts [f (Node.group c)] = keptScripts [c] := by
        rw [← Node.keptScripts_group c]
        rcases hf with rfl | ⟨rfl, branch⟩
        · rfl
        · rw [← Node.isCompapply_group] at branch
          exact keptScripts_join branch
      rw [hg, keptScripts_cons, keptScripts_cons c, here, keptScripts_group opened' cs]

end

theorem adds_prepare (doc : Document) : Adds lossy doc (prepare doc) := by
  have titles : Adds lossy doc (moveDirectives "title" doc) :=
    adds_moveDirectives (by decide) doc
  have metas : Adds lossy doc (moveDirectives "meta" (moveDirectives "title" doc)) :=
    titles.trans (adds_moveDirectives (by decide) _)
  refine metas.trans (.of_eq fun sound => ⟨?_, keptScripts_group false _⟩)
  exact ⟨allTags_group (p := isSound) (fun _ _ => isSound_join) false _ sound.tags,
    plainScripts_group false _ sound.scripts⟩

/-! ## Compiling -/

theorem Tidy.siblingsAt {q : Tag → Bool} {ns : List Node} (h : Tidy q ns) (path : Path) :
    Tidy q (siblingsAt path ns) :=
  ⟨(isDeep_allTags q).siblingsAt path h.tags, isDeep_plainScripts.siblingsAt path h.scripts⟩

theorem codeAt_adds {o : Options} {path : Path} {p p' : Progress} {code? : Option String}
    (hpath : findPath? isTarget p.doc = some path)
    (h : codeAt o false false path p = .ok (code?, p')) (sound : Sound p.doc) :
    (∀ code ∈ code?, Harmless code) ∧ Adds lossy p.doc p'.doc := by
  obtain ⟨codes, hrun, rfl⟩ := codeAt_eq_ok h
  obtain ⟨t, cs, rest, ht, found, -⟩ := replaced_found (f := fun _ => []) p.doc path hpath
  have there := sound.siblingsAt path
  rw [found] at there hrun
  have other : t.name ≠ "script" := by
    rintro script
    simp [isTarget, script] at ht
  obtain ⟨code, functions⟩ := firstCode_keeps o _ false false there.tags there.scripts other
    [] (fun c hc => by cases hc) _ _ hrun
  exact ⟨code, adds_place functions p.doc⟩

theorem compileTargets_adds {o : Options} {n : Nat} {p p' : Progress}
    (h : compileTargets o n p = .ok p') : Adds lossy p.doc p'.doc := by
  replace h := targetRun_of_ok h
  induction h with
  | stop p => exact .refl _
  | @step _ p₁ _ _ _ found coded _ ih =>
      -- the functions of the element are added first, then its code replaces it
      refine .of_sound fun sound => ?_
      obtain ⟨code, functions⟩ := codeAt_adds found coded sound
      exact (functions.trans (adds_replaceFirst code p₁)).trans ih

theorem compileAll_done {o : Options} {p p' : Progress} (h : compileAll o p = .ok p') :
    findPath? isTarget p'.doc = none := by
  have start : GrownOnce isTarget (strip p.doc) p.doc :=
    ⟨0, Nat.zero_le 1, grown_strip p.doc, fun _ => rfl⟩
  exact (compileTargets_grown h start).2 (Nat.le_refl _)

/-- Compiling a document in place adds harmless scripts, and leaves nothing to be
compiled. -/
theorem inline_adds {o : Options} {doc : Document} {r : Progress} (h : inline o doc = .ok r) :
    Adds lossy doc r.doc ∧ findPath? isTarget r.doc = none := by
  obtain ⟨p, hp, rfl⟩ := inline_eq_ok h
  have compiled : Adds lossy doc p.doc := (adds_prepare doc).trans (compileTargets_adds hp)
  split
  · exact ⟨compiled, compileAll_done hp⟩
  · exact ⟨compiled.trans (adds_markBody p.doc), findPath?_markBody (compileAll_done hp)⟩

end

end PageTemplates.Compile
