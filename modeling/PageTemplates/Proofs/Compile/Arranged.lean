import PageTemplates.Proofs.Compile.Extracting
import PageTemplates.Proofs.Compile.Framed

/-!
# Pages that keep their frame apart

Functions reach the page only if the head, or the element in which a head is made,
is not compiled away. This is so where no part of the frame of a page is inside a
head, a body or an element with a directive. The main facts:

* `everywhere q ns`: a condition on an element and what it holds, at all elements;
* `isArranged`: nothing of the frame is inside an element that is replaced or kept
  apart, and neither `<html>` nor a head has a directive;
* `isReady content`: the same, where the body that is marked is as `content` asks
  for;
* `ready_place`, `ready_moveDirectives`, `ready_group`, `ready_replaceFirst`,
  `ready_markPage`, `ready_declarePage`: the steps of compiling keep this.
-/

namespace PageTemplates.Compile

open Markup

/-! ## Conditions on elements and what they hold -/

mutual

/-- Whether every element at and below a node satisfies `q` with its children. -/
def Node.everywhere (q : Tag → List Node → Bool) : Node → Bool
  | .element t cs => q t cs && everywhere q cs
  | .document cs => everywhere q cs
  | _ => true

/-- Whether every element in a list of siblings, and below, satisfies `q` with its
children. -/
def everywhere (q : Tag → List Node → Bool) : List Node → Bool
  | [] => true
  | c :: cs => Node.everywhere q c && everywhere q cs

end

section

variable {q : Tag → List Node → Bool} {p : Tag → Bool} {f : Node → List Node} {ns ms : List Node}

theorem everywhere_element {t : Tag} {cs : List Node} :
    Node.everywhere q (.element t cs) ↔ q t cs ∧ everywhere q cs := by
  rw [Node.everywhere, Bool.and_eq_true]

theorem everywhere_cons {n : Node} :
    everywhere q (n :: ns) ↔ Node.everywhere q n ∧ everywhere q ns := by
  rw [everywhere, Bool.and_eq_true]

theorem everywhere_append : everywhere q (ns ++ ms) ↔ everywhere q ns ∧ everywhere q ms := by
  induction ns with
  | nil => exact ⟨fun h => ⟨rfl, h⟩, And.right⟩
  | cons n ns ih => rw [List.cons_append, everywhere_cons, everywhere_cons, ih, and_assoc]

theorem isDeep_everywhere (q : Tag → List Node → Bool) :
    IsDeep (fun n => Node.everywhere q n) fun cs => everywhere q cs := by
  refine ⟨fun cs => ?_, fun n h => ?_⟩
  · induction cs with
    | nil => simp [everywhere]
    | cons c cs ih => simp [everywhere, ih]
  · cases n with
    | element t cs => exact (everywhere_element.mp h).2
    | document cs => exact h
    | text _ | comment _ | doctype _ | markup _ => rfl

mutual

theorem Node.everywhere_imp {p q r : Tag → List Node → Bool}
    (h : ∀ t cs, p t cs → q t cs → r t cs) : ∀ n : Node,
      Node.everywhere p n → Node.everywhere q n → Node.everywhere r n
  | .element t cs, hp, hq => by
      rw [everywhere_element] at hp hq ⊢
      exact ⟨h t cs hp.1 hq.1, everywhere_imp h cs hp.2 hq.2⟩
  | .document cs, hp, hq => everywhere_imp h cs hp hq
  | .text _, _, _ | .comment _, _, _ | .doctype _, _, _ | .markup _, _, _ => rfl

/-- What follows from two conditions at each element. -/
theorem everywhere_imp {p q r : Tag → List Node → Bool} (h : ∀ t cs, p t cs → q t cs → r t cs) :
    ∀ ns : List Node, everywhere p ns → everywhere q ns → everywhere r ns
  | [], _, _ => rfl
  | n :: ns, hp, hq => by
      rw [everywhere_cons] at hp hq ⊢
      exact ⟨Node.everywhere_imp h n hp.1 hq.1, everywhere_imp h ns hp.2 hq.2⟩

end

mutual

theorem Node.everywhere_of_forall (h : ∀ t cs, q t cs) : ∀ n : Node, Node.everywhere q n
  | .element t cs => everywhere_element.mpr ⟨h t cs, everywhere_of_forall h cs⟩
  | .document cs => everywhere_of_forall h cs
  | .text _ | .comment _ | .doctype _ | .markup _ => rfl

theorem everywhere_of_forall (h : ∀ t cs, q t cs) : ∀ ns : List Node, everywhere q ns
  | [] => rfl
  | n :: ns => everywhere_cons.mpr ⟨Node.everywhere_of_forall h n, everywhere_of_forall h ns⟩

end

mutual

theorem Node.everywhere_tags (p : Tag → Bool) : ∀ n : Node,
    Node.everywhere (fun t _ => p t) n = Node.allTags p n
  | .element t cs => by rw [Node.everywhere, Node.allTags, everywhere_tags p cs]
  | .document cs => everywhere_tags p cs
  | .text _ | .comment _ | .doctype _ | .markup _ => rfl

/-- A condition on tags alone. -/
theorem everywhere_tags (p : Tag → Bool) : ∀ ns : List Node,
    everywhere (fun t _ => p t) ns = allTags p ns
  | [] => rfl
  | n :: ns => by rw [everywhere, allTags, Node.everywhere_tags p n, everywhere_tags p ns]

end

/-- A change keeps a condition, if what an element is replaced by satisfies it and
the elements around it still do. -/
theorem everywhere_of_changed (h : Changed p f ns ms)
    (here : ∀ t cs, p t → q t cs → everywhere q cs → everywhere q (f (.element t cs)))
    (above : ∀ u ds es, Changed p f ds es → q u ds → everywhere q ds → q u es)
    (all : everywhere q ns) : everywhere q ms := by
  induction h with
  | here hp =>
      rw [everywhere_cons, everywhere_element] at all
      exact everywhere_append.mpr ⟨here _ _ hp all.1.1 all.1.2, all.2⟩
  | inside _ below ih =>
      rw [everywhere_cons, everywhere_element] at all ⊢
      exact ⟨⟨above _ _ _ below all.1.1 all.1.2, ih all.1.2⟩, all.2⟩
  | document _ ih =>
      rw [everywhere_cons] at all ⊢
      exact ⟨ih all.1, all.2⟩
  | next _ ih =>
      rw [everywhere_cons] at all ⊢
      exact ⟨all.1, ih all.2⟩

theorem everywhere_mapTag (joined : ∀ t cs, t.isCompapply → q t cs → q (join t) cs) {n : Node}
    (branch : n.isCompapply) (h : Node.everywhere q n) : Node.everywhere q (n.mapTag join) := by
  cases n with
  | element t cs =>
      rw [everywhere_element] at h
      exact everywhere_element.mpr ⟨joined t cs branch h.1, h.2⟩
  | document _ | text _ | comment _ | doctype _ | markup _ => exact h

mutual

theorem Node.everywhere_group (grouped : ∀ t cs, q t cs → q t (group false cs))
    (joined : ∀ t cs, t.isCompapply → q t cs → q (join t) cs) : ∀ n : Node,
      Node.everywhere q n → Node.everywhere q (Node.group n)
  | .element t cs, h => by
      rw [Node.group]
      split
      · exact h
      · rw [everywhere_element] at h ⊢
        exact ⟨grouped t cs h.1, everywhere_group grouped joined false cs h.2⟩
  | .document _, h | .text _, h | .comment _, h | .doctype _, h | .markup _, h => h

theorem everywhere_group (grouped : ∀ t cs, q t cs → q t (group false cs))
    (joined : ∀ t cs, t.isCompapply → q t cs → q (join t) cs) : ∀ opened cs,
      everywhere q cs → everywhere q (group opened cs)
  | _, [], _ => rfl
  | opened, c :: cs, h => by
      rw [everywhere_cons] at h
      have here := Node.everywhere_group grouped joined c h.1
      obtain ⟨f, opened', hf, same⟩ := group_cons opened c cs
      rw [same]
      refine everywhere_cons.mpr ⟨?_, everywhere_group grouped joined opened' cs h.2⟩
      rcases hf with rfl | ⟨rfl, branch⟩
      · exact here
      · rw [← Node.isCompapply_group] at branch
        exact everywhere_mapTag joined branch here

end

end

/-! ## Where the frame stands -/

/-- Whether nothing of a frame may stand in an element: it is a head, it is a body,
which is split off with all that it holds, or it has a directive. -/
def isEnclosing (t : Tag) : Bool := t.name == "head" || t.name == "body" || isTarget t

/-- Whether an element holds nothing of a frame if it may not, and has no directive
if it is an `<html>` or a head. -/
def isArranged (t : Tag) (cs : List Node) : Bool :=
  (!isEnclosing t || (findPath? isFrameTag cs).isNone) &&
    !(["html", "head"].contains t.name && isTarget t)

/-- The same; and only a body is marked, and it is as `content` asks for. -/
def isReady (content : Tag → List Node → Bool) (t : Tag) (cs : List Node) : Bool :=
  isArranged t cs && (!t.page || t.name == "body" && content t cs)

section

variable {content : Tag → List Node → Bool} {t : Tag} {cs ds es ns ms : List Node} {p : Tag → Bool}
  {f : Node → List Node}

theorem isReady_iff : isReady content t cs ↔
    (isEnclosing t → findPath? isFrameTag cs = none) ∧
    (t.name = "html" ∨ t.name = "head" → isTarget t = false) ∧
    (t.page → t.name = "body" ∧ content t cs) := by
  unfold isReady isArranged
  simp only [Bool.and_eq_true, Bool.or_eq_true, Bool.not_eq_true', Option.isNone_iff_eq_none,
    List.contains_eq_mem, List.mem_cons, List.not_mem_nil, or_false, Bool.and_eq_false_iff,
    decide_eq_false_iff_not, beq_iff_eq, and_assoc, Decidable.imp_iff_not_or, Bool.not_eq_true]

/-- The children of a node that nothing of a frame may stand in. -/
theorem no_frame (ready : isReady content t cs) (enclosing : isEnclosing t) :
    findPath? isFrameTag cs = none :=
  (isReady_iff.mp ready).1 enclosing

theorem isEnclosing_of_page (ready : isReady content t cs) (page : t.page) : isEnclosing t := by
  have name := ((isReady_iff.mp ready).2.2 page).1
  simp [isEnclosing, name]

theorem isEnclosing_of_name (name : t.name = "head" ∨ t.name = "body") : isEnclosing t := by
  rcases name with name | name <;> simp [isEnclosing, name]

/-- Where nothing is part of a frame, the frame is apart. -/
theorem isReady_of_isFrameless (tag : isFrameless t) (below : allTags isFrameless cs) :
    isReady content t cs := by
  have frame : findPath? isFrameTag cs = none :=
    findPath?_of_allTags (fun t ht => (isFrameless_iff.mp ht).1) below
  obtain ⟨name, page⟩ := isFrameless_iff.mp tag
  simp only [isFrameTag, List.contains_eq_mem, decide_eq_false_iff_not, List.mem_cons,
    not_or] at name
  refine isReady_iff.mpr ⟨fun _ => frame, fun outer => ?_, fun marked => ?_⟩
  · exact absurd outer (by simp [name])
  · rw [page] at marked
    cases marked

mutual

theorem Node.ready_of_frameless : ∀ n : Node, Node.allTags isFrameless n →
    Node.everywhere (isReady content) n
  | .element t cs, h => by
      rw [allTags_element] at h
      exact everywhere_element.mpr ⟨isReady_of_isFrameless h.1 h.2, ready_of_frameless cs h.2⟩
  | .document cs, h => ready_of_frameless cs h
  | .text _, _ | .comment _, _ | .doctype _, _ | .markup _, _ => rfl

theorem ready_of_frameless : ∀ ns : List Node, allTags isFrameless ns →
    everywhere (isReady content) ns
  | [], _ => rfl
  | n :: ns, h => by
      rw [allTags_cons] at h
      exact everywhere_cons.mpr ⟨Node.ready_of_frameless n h.1, ready_of_frameless ns h.2⟩

end

/-- Only a body is marked, so where nothing of a frame is found, nothing is
marked. -/
theorem frameless_of_ready (ready : everywhere (isReady content) ns)
    (none : findPath? isFrameTag ns = none) : allTags isFrameless ns := by
  rw [findPath?_eq_none_iff, ← everywhere_tags] at none
  rw [← everywhere_tags]
  refine everywhere_imp (fun t cs hr hn => ?_) ns ready none
  rw [Bool.not_eq_true'] at hn
  refine isFrameless_iff.mpr ⟨hn, Bool.eq_false_iff.mpr fun page => ?_⟩
  rw [isFrameTag, ((isReady_iff.mp hr).2.2 page).1] at hn
  exact absurd hn (by decide)

/-- Nothing of a frame is changed inside an element that encloses nothing of it. -/
theorem not_isEnclosing (frame : ∀ t, p t → isFrameTag t ∨ t.page) (h : Changed p f ds es)
    (ready : isReady content t ds) (below : everywhere (isReady content) ds) :
    isEnclosing t = false := by
  refine Bool.eq_false_iff.mpr fun enclosing => ?_
  refine h.findPath?_ne_none (findPath?_of_allTags (q := isFrameless) (fun u hu => ?_)
    (frameless_of_ready below (no_frame ready enclosing)))
  obtain ⟨name, page⟩ := isFrameless_iff.mp hu
  refine Bool.eq_false_iff.mpr fun hp => ?_
  rcases frame u hp with part | part
  · rw [name] at part
    cases part
  · rw [page] at part
    cases part

/-- A change of a part of the frame. -/
theorem ready_of_changed (frame : ∀ t, p t → isFrameTag t ∨ t.page) (h : Changed p f ns ms)
    (here : ∀ t cs, p t → isReady content t cs → everywhere (isReady content) cs →
      everywhere (isReady content) (f (.element t cs)))
    (ready : everywhere (isReady content) ns) : everywhere (isReady content) ms := by
  refine everywhere_of_changed h here (fun u ds es below hu all => ?_) ready
  have open' := not_isEnclosing frame below hu all
  have page : u.page = false := Bool.eq_false_iff.mpr fun page => by
    rw [isEnclosing_of_page hu page] at open'
    cases open'
  refine isReady_iff.mpr ⟨fun enclosing => ?_, (isReady_iff.mp hu).2.1, fun marked => ?_⟩
  · rw [open'] at enclosing
    cases enclosing
  · rw [page] at marked
    cases marked

end

/-! ## Adding functions -/

section

variable {content : Tag → List Node → Bool} {doc : Document}

theorem frameless_functions (codes : List String) :
    allTags isFrameless (codes.map functionScript) :=
  allTags_functions (fun t name page => isFrameless_iff.mpr ⟨by simp [isFrameTag, name], page⟩)
    codes

theorem everywhere_insertBeforeElement {q : Tag → List Node → Bool} {n : Node} {ns : List Node}
    (new : Node.everywhere q n) (h : everywhere q ns) :
    everywhere q (insertBeforeElement n ns) := by
  induction ns with
  | nil => exact everywhere_cons.mpr ⟨new, rfl⟩
  | cons c cs ih =>
      rw [everywhere_cons] at h
      rw [insertBeforeElement]
      split
      · exact everywhere_cons.mpr ⟨new, everywhere_cons.mpr h⟩
      · exact everywhere_cons.mpr ⟨h.1, ih h.2⟩

/-- An element without a directive may be part of a frame if what it holds is not. -/
theorem ready_plain {t : Tag} {cs : List Node} (plain : isTarget t = false)
    (unmarked : t.page = false) (below : allTags isFrameless cs) :
    Node.everywhere (isReady content) (.element t cs) := by
  refine everywhere_element.mpr ⟨isReady_iff.mpr ⟨fun _ => ?_, fun _ => plain, fun page => ?_⟩,
    ready_of_frameless cs below⟩
  · exact findPath?_of_allTags (fun t ht => (isFrameless_iff.mp ht).1) below
  · rw [unmarked] at page
    cases page

theorem not_page_of_head {t : Tag} {cs : List Node} (ready : isReady content t cs)
    (name : t.name ≠ "body") : t.page = false :=
  Bool.eq_false_iff.mpr fun page => name ((isReady_iff.mp ready).2.2 page).1

/-- What the head holds may be changed as long as it is not part of a frame. -/
theorem ready_mapHead {g : List Node → List Node} {path : Path}
    (hg : ∀ cs, allTags isFrameless cs → allTags isFrameless (g cs))
    (found : findPath? (Tag.isNamed "head") doc = some path)
    (ready : everywhere (isReady content) doc) :
    everywhere (isReady content) (modifyAt (Node.mapChildren g) path doc) := by
  refine ready_of_changed (fun t ht => .inl (isFrameTag_of_isNamed (by decide) ht))
    (changed_replaceAt doc path found) (fun t cs ht here below => ?_) ready
  rw [Tag.isNamed, beq_iff_eq] at ht
  have frameless := frameless_of_ready below (no_frame here (isEnclosing_of_name (.inl ht)))
  exact everywhere_cons.mpr ⟨ready_plain ((isReady_iff.mp here).2.1 (.inr ht))
    (not_page_of_head here (by rw [ht]; decide)) (hg cs frameless), rfl⟩

/-- Functions are added to the head, or to one that is made for them. -/
theorem ready_place (codes : List String) (ready : everywhere (isReady content) doc) :
    everywhere (isReady content) (place codes doc) := by
  have functions := frameless_functions codes
  have new : Node.everywhere (isReady content) (newHead (codes.map functionScript)) :=
    ready_plain (by decide +kernel) rfl functions
  refine place_cases codes doc ?nothing ?head ?html ?bare
  case nothing => exact fun _ => ready
  case head =>
    refine fun path found => ready_mapHead (fun cs below => ?_) found ready
    rw [allTags_append, below, functions]
    rfl
  case html =>
    intro _ path found
    refine ready_of_changed (fun t ht => .inl (isFrameTag_of_isNamed (by decide) ht))
      (changed_replaceAt doc path found) (fun t cs ht here below => ?_) ready
    rw [Tag.isNamed, beq_iff_eq] at ht
    have plain := (isReady_iff.mp here).2.1 (.inl ht)
    have unmarked := not_page_of_head here (by rw [ht]; decide)
    refine everywhere_cons.mpr ⟨everywhere_element.mpr ⟨isReady_iff.mpr ⟨fun enclosing => ?_,
      fun _ => plain, fun page => ?_⟩, everywhere_insertBeforeElement new below⟩, rfl⟩
    · simp [isEnclosing, ht, plain] at enclosing
    · rw [unmarked] at page
      cases page
  case bare => exact fun _ => everywhere_insertBeforeElement new ready

/-! ## Readying a page -/

theorem ready_moveDirectives (name : String) (ready : everywhere (isReady content) doc) :
    everywhere (isReady content) (moveDirectives name doc) := by
  unfold Markup.moveDirectives moveToEndOfHead
  split
  · exact ready
  · rename_i path found
    refine ready_mapHead (fun cs below => ?_) found ready
    obtain ⟨kept, pulled⟩ :=
      allTags_pullOut (p := fun t => t.name == name && t.isDirective) cs below
    rw [allTags_append, kept, pulled]
    rfl

theorem isTarget_join {t : Tag} (branch : t.isCompapply) : isTarget (join t) = isTarget t := by
  by_cases script : t.name = "script"
  · simp [isTarget, name_join, script]
  · have own : isNoScriptBranch t := by simp [isNoScriptBranch, script]
    obtain ⟨before, after⟩ := isTarget_of_branch own branch
    rw [before, after]

theorem isReady_join {t : Tag} {cs : List Node} (joined : content t cs → content (join t) cs)
    (branch : t.isCompapply) (ready : isReady content t cs) : isReady content (join t) cs := by
  rw [isReady_iff] at ready ⊢
  rw [isEnclosing, name_join, isTarget_join branch, page_join, ← isEnclosing]
  exact ⟨ready.1, ready.2.1, fun marked => (ready.2.2 marked).imp_right joined⟩

/-- What is asked for of the body goes on to hold of it once a page is grouped. -/
structure IsGroupable (content : Tag → List Node → Bool) : Prop where
  grouped : ∀ t cs, content t cs → content t (group false cs)
  joined : ∀ t cs, content t cs → content (join t) cs

theorem ready_group (stays : IsGroupable content) (opened : Bool)
    (ready : everywhere (isReady content) doc) :
    everywhere (isReady content) (group opened doc) := by
  refine everywhere_group (q := isReady content) (fun t cs h => ?_)
    (fun t cs => isReady_join (stays.joined t cs)) opened doc ready
  obtain ⟨frame, plain, page⟩ := isReady_iff.mp h
  refine isReady_iff.mpr
    ⟨fun enclosing => ?_, plain, fun marked => (page marked).imp_right (stays.grouped t cs)⟩
  have none := frame enclosing
  rw [findPath?_eq_none_iff] at none ⊢
  refine allTags_group (p := fun t => !isFrameTag t) (fun t _ ht => ?_) false cs none
  rw [isFrameTag, name_join]
  exact ht

theorem ready_prepare (stays : IsGroupable content) (ready : everywhere (isReady content) doc) :
    everywhere (isReady content) (prepare doc) :=
  ready_group stays false (ready_moveDirectives "meta" (ready_moveDirectives "title" ready))

/-! ## Compiling -/

/-- Nothing is asked for of the marked body. -/
abbrev isAnything (_ : Tag) (_ : List Node) : Bool := true

theorem ready_mono {content' : Tag → List Node → Bool}
    (weaker : ∀ t cs, content t cs → content' t cs) (ready : everywhere (isReady content) doc) :
    everywhere (isReady content') doc := by
  refine everywhere_imp (fun t cs h _ => ?_) doc ready ready
  obtain ⟨frame, plain, page⟩ := isReady_iff.mp h
  exact isReady_iff.mpr ⟨frame, plain, fun marked => (page marked).imp_right (weaker t cs)⟩

theorem ready_replaceFirst (code? : Option String) {p : Progress}
    (ready : everywhere (isReady isAnything) p.doc) :
    everywhere (isReady isAnything) (replaceFirst code? p).doc := by
  have new : allTags isFrameless (code?.map writeScript).toList := by
    cases code? <;> rfl
  unfold replaceFirst
  split
  · exact ready
  · rename_i path found
    have changed := changed_replaceAt (f := fun _ => (code?.map writeScript).toList) p.doc path
      found
    refine everywhere_of_changed changed (fun _ _ _ _ _ => ready_of_frameless _ new)
      (fun u ds es below hu _ => ?_) ready
    obtain ⟨frame, plain, page⟩ := isReady_iff.mp hu
    refine isReady_iff.mpr ⟨fun enclosing => ?_, plain, page⟩
    -- what an element with a directive is replaced by is not part of a frame
    have none := frame enclosing
    rw [findPath?_eq_none_iff] at none ⊢
    exact allTags_of_changed below (fun _ _ _ _ => allTags_mono
      (fun t ht => by rw [(isFrameless_iff.mp ht).1]; rfl) _ new) none

/-! ## The body -/

/-- A page in which nothing is marked. -/
theorem ready_of_unmarked (arranged : everywhere isArranged doc)
    (unmarked : findPath? (·.page) doc = none) : everywhere (isReady content) doc := by
  rw [findPath?_eq_none_iff, ← everywhere_tags] at unmarked
  refine everywhere_imp (fun t cs h page => ?_) doc arranged unmarked
  rw [isReady, h, page]
  rfl

/-- The first body is marked, and is otherwise as it was. -/
theorem ready_markPage {path : Path} {t : Tag} {cs rest : List Node}
    (arranged : everywhere isArranged doc) (unmarked : findPath? (·.page) doc = none)
    (found : findPath? (Tag.isNamed "body") doc = some path)
    (here : siblingsAt path doc = .element t cs :: rest)
    (inside : content { t with page := true } cs) :
    everywhere (isReady content) (markPage path doc) := by
  have ready : everywhere (isReady content) doc := ready_of_unmarked arranged unmarked
  obtain ⟨u, ds, rest', named, here', -, replaced⟩ :=
    replaced_found (f := fun n => [n.mapTag fun t => { t with page := true }]) doc path found
  obtain ⟨⟨rfl, rfl⟩, -⟩ : (t = u ∧ cs = ds) ∧ rest = rest' := by
    simpa using here.symm.trans here'
  have there := (isDeep_everywhere (isReady content)).siblingsAt path ready
  rw [here] at there
  obtain ⟨own, below⟩ := everywhere_element.mp (everywhere_cons.mp there).1
  obtain ⟨frame, plain, -⟩ := isReady_iff.mp own
  have name : t.name = "body" := by simpa [Tag.isNamed] using named
  refine ready_of_changed (fun t ht => .inl (isFrameTag_of_isNamed (by decide) ht))
    (replaced.changed (f := fun _ => [.element { t with page := true } cs]) named)
    (fun _ _ _ _ _ => ?_) ready
  exact everywhere_cons.mpr ⟨everywhere_element.mpr
    ⟨isReady_iff.mpr ⟨frame, plain, fun _ => ⟨name, inside⟩⟩, below⟩, rfl⟩

/-- The marked body, and what it holds. -/
theorem ready_page {path : Path} (ready : everywhere (isReady content) doc)
    (found : pageBody? doc = some path) :
    ∃ t cs rest, siblingsAt path doc = .element t cs :: rest ∧ t.name = "body" ∧ content t cs ∧
      allTags isFrameless cs := by
  obtain ⟨t, cs, rest, page, here, -⟩ := replaced_found (f := fun _ => []) doc path found
  have there := (isDeep_everywhere (isReady content)).siblingsAt path ready
  rw [here] at there
  obtain ⟨own, below⟩ := everywhere_element.mp (everywhere_cons.mp there).1
  obtain ⟨name, inside⟩ := (isReady_iff.mp own).2.2 page
  exact ⟨t, cs, rest, here, name, inside,
    frameless_of_ready below (no_frame own (isEnclosing_of_page own page))⟩

/-- A change of the marked body that leaves a body there. -/
theorem ready_mapPage {f : Node → Node} {path : Path} (ready : everywhere (isReady content) doc)
    (found : pageBody? doc = some path)
    (hf : ∀ t cs, t.name = "body" → content t cs → allTags isFrameless cs →
      ∃ u ds, f (.element t cs) = .element u ds ∧ u.name = "body" ∧ content u ds ∧
        allTags isFrameless ds) :
    everywhere (isReady content) (modifyAt f path doc) := by
  refine ready_of_changed (fun t ht => .inr ht) (changed_replaceAt doc path found)
    (fun t cs page own below => ?_) ready
  obtain ⟨name, inside⟩ := (isReady_iff.mp own).2.2 page
  obtain ⟨u, ds, same, name', inside', below'⟩ := hf t cs name inside
    (frameless_of_ready below (no_frame own (isEnclosing_of_page own page)))
  rw [same]
  refine everywhere_cons.mpr ⟨everywhere_element.mpr ⟨isReady_iff.mpr ⟨fun _ => ?_, fun outer => ?_,
    fun _ => ⟨name', inside'⟩⟩, ready_of_frameless ds below'⟩, rfl⟩
  · exact findPath?_of_allTags (fun t ht => (isFrameless_iff.mp ht).1) below'
  · rw [name'] at outer
    exact absurd outer (by decide)

end

end PageTemplates.Compile
