import PageTemplates.Proofs.Compile.Lossless
import PageTemplates.Proofs.Compile.Reporting

/-!
# The functions in the head

Where neither `<html>` nor a head has a directive or is inside an element that has one,
the functions of a document that is compiled in place are collected in its head. The main
facts:

* `isClear`: an element with a directive is not, and does not hold, a part of the document
  that functions are added in;
* `clear_prepare`, `clear_place`, `clear_replaceFirst`: the steps of compiling keep this;
* `HeadHolds codes doc`: the functions of the document are `codes`, and all are in its only
  head;
* `HeadHolds.place`, `HeadHolds.replaceFirst`: functions that are added come behind the
  others, and an element that is compiled takes none away.
-/

namespace PageTemplates.Compile

open Markup

/-! ## Directives apart from the head -/

/-- Whether an element is no head and no `<html>` and holds none, if it has a directive or is
joined to one that has. -/
def isClear (t : Tag) (cs : List Node) : Bool :=
  !(t.isDirective || t.joined) || ((Node.element t cs).findPath? takesFunctions).isNone

section

variable {t : Tag} {cs ns ms : List Node} {p : Tag → Bool} {f : Node → List Node}

theorem isClear_iff : isClear t cs ↔
    (t.isDirective ∨ t.joined → (Node.element t cs).findPath? takesFunctions = none) := by
  rw [isClear, Bool.or_eq_true, Bool.not_eq_true', Option.isNone_iff_eq_none, ← Bool.or_eq_true]
  cases t.isDirective || t.joined <;> simp

theorem isClear_of_none (none : (Node.element t cs).findPath? takesFunctions = none) :
    isClear t cs := isClear_iff.mpr fun _ => none

/-- An element that functions are added in has no directive, whatever it holds. -/
theorem isClear_of_taken (taken : takesFunctions t) (h : isClear t cs) (ds : List Node) :
    isClear t ds := by
  refine isClear_iff.mpr fun directive => ?_
  have none := isClear_iff.mp h directive
  rw [findPath?_element_eq_none, taken] at none
  cases none.1

/-- What is below an element matters only as far as functions are added there. -/
theorem isClear_congr {ds : List Node}
    (same : findPath? takesFunctions cs = none → findPath? takesFunctions ds = none)
    (h : isClear t cs) : isClear t ds := by
  refine isClear_iff.mpr fun directive => ?_
  have none := isClear_iff.mp h directive
  rw [findPath?_element_eq_none] at none ⊢
  exact ⟨none.1, same none.2⟩

mutual

theorem Node.clear_of_none : ∀ n : Node, n.findPath? takesFunctions = none →
    Node.everywhere isClear n
  | .element t cs, absent => by
      have inner := (findPath?_element_eq_none.mp absent).2
      exact everywhere_element.mpr ⟨isClear_of_none absent, clear_of_none cs inner⟩
  | .document cs, absent => clear_of_none cs absent
  | .text _, _ | .comment _, _ | .doctype _, _ | .markup _, _ => rfl

theorem clear_of_none : ∀ ns : List Node, findPath? takesFunctions ns = none →
    everywhere isClear ns
  | [], _ => rfl
  | n :: ns, absent => by
      rw [findPath?_cons_eq_none] at absent
      exact everywhere_cons.mpr ⟨Node.clear_of_none n absent.1, clear_of_none ns absent.2⟩

end

theorem findPath?_of_changed (frames : ∀ t, p t → takesFunctions t) (h : Changed p f ns ms) :
    findPath? takesFunctions ns ≠ none := fun none =>
  h.findPath?_ne_none (findPath?_of_frames frames none)

/-- A change in elements that functions are added in. -/
theorem clear_mapChildren {g : List Node → List Node} (frames : ∀ t, p t → takesFunctions t)
    (h : Changed p (fun n => [n.mapChildren g]) ns ms)
    (below : ∀ cs, everywhere isClear cs → everywhere isClear (g cs))
    (clear : everywhere isClear ns) : everywhere isClear ms := by
  refine everywhere_of_changed h (fun t cs ht own inner => ?_) (fun u ds es changed own _ => ?_)
    clear
  · exact everywhere_cons.mpr ⟨everywhere_element.mpr
      ⟨isClear_of_taken (frames t ht) own _, below cs inner⟩, rfl⟩
  · exact isClear_congr (fun none => absurd none (findPath?_of_changed frames changed)) own

end

theorem takesFunctions_of_isNamed {name : String} (frame : name = "head" ∨ name = "html") (t : Tag)
    (ht : Tag.isNamed name t) : takesFunctions t := by
  rw [Tag.isNamed, beq_iff_eq] at ht
  rcases frame with rfl | rfl <;> simp [takesFunctions, ht]

/-! ## Readying a document -/

section

variable {q : Tag → List Node → Bool} {p : Tag → Bool} {doc : Document}

mutual

theorem Node.everywhere_pullOut (stays : ∀ t cs, q t cs → q t (pullOut p cs).1) : ∀ n : Node,
    Node.everywhere q n →
      everywhere q (n.pullOut p).1 ∧ everywhere q (n.pullOut p).2
  | .element t cs, h => by
      rw [everywhere_element] at h
      obtain ⟨kept, pulled⟩ := everywhere_pullOut stays cs h.2
      have whole : Node.everywhere q (.element t (pullOut p cs).1) :=
        everywhere_element.mpr ⟨stays t cs h.1, kept⟩
      rw [pullOut_element]
      split
      · exact ⟨rfl, everywhere_cons.mpr ⟨whole, pulled⟩⟩
      · exact ⟨everywhere_cons.mpr ⟨whole, rfl⟩, pulled⟩
  | .document cs, h => by
      obtain ⟨kept, pulled⟩ := everywhere_pullOut stays cs h
      rw [pullOut_document]
      exact ⟨everywhere_cons.mpr ⟨kept, rfl⟩, pulled⟩
  | .text _, _ | .comment _, _ | .doctype _, _ | .markup _, _ => ⟨rfl, rfl⟩

/-- What is pulled out and what is left satisfy a condition that elements go on to satisfy
when something is pulled out of them. -/
theorem everywhere_pullOut (stays : ∀ t cs, q t cs → q t (pullOut p cs).1) : ∀ ns : List Node,
    everywhere q ns → everywhere q (pullOut p ns).1 ∧ everywhere q (pullOut p ns).2
  | [], _ => ⟨rfl, rfl⟩
  | n :: ns, h => by
      rw [everywhere_cons] at h
      obtain ⟨kept, pulled⟩ := Node.everywhere_pullOut stays n h.1
      obtain ⟨kept', pulled'⟩ := everywhere_pullOut stays ns h.2
      rw [pullOut_cons]
      exact ⟨everywhere_append.mpr ⟨kept, kept'⟩, everywhere_append.mpr ⟨pulled, pulled'⟩⟩

end

theorem clear_moveDirectives (name : String) (clear : everywhere isClear doc) :
    everywhere isClear (moveDirectives name doc) := by
  unfold Markup.moveDirectives moveToEndOfHead
  split
  · exact clear
  · rename_i path found
    refine clear_mapChildren (takesFunctions_of_isNamed (.inl rfl))
      (changed_replaceAt doc path found) (fun cs below => ?_) clear
    refine everywhere_append.mpr
      (everywhere_pullOut (q := isClear) (fun t cs own => isClear_congr (fun none => ?_) own) cs
        below)
    rw [findPath?_eq_none_iff] at none ⊢
    exact (allTags_pullOut cs none).1

theorem clear_group (opened : Bool) (clear : everywhere isClear doc) :
    everywhere isClear (group opened doc) := by
  refine everywhere_group (q := isClear) (fun t cs own => isClear_congr (fun none => ?_) own)
    (fun t cs branch own => ?_) opened doc clear
  · rw [findPath?_eq_none_iff] at none ⊢
    refine allTags_group (p := fun t => !takesFunctions t) (fun t _ ht => ?_) false cs none
    rwa [takesFunctions, name_join]
  · have directive : t.isDirective := by
      by_contra plain
      rw [not_isCompapply (by simpa using plain)] at branch
      cases branch
    have none := isClear_iff.mp own (.inl directive)
    rw [findPath?_element_eq_none, takesFunctions] at none
    refine isClear_of_none ?_
    rwa [findPath?_element_eq_none, takesFunctions, name_join]

theorem clear_prepare (clear : everywhere isClear doc) : everywhere isClear (prepare doc) :=
  clear_group false (clear_moveDirectives "meta" (clear_moveDirectives "title" clear))

end

/-! ## Adding functions -/

section

variable {doc : Document}

theorem none_functions (codes : List String) :
    findPath? takesFunctions (codes.map functionScript) = none :=
  findPath?_functions (fun t name => by simp [takesFunctions, name]) codes

theorem clear_newHead (codes : List String) :
    Node.everywhere isClear (newHead (codes.map functionScript)) := by
  have plain : ({ name := "head" } : Tag).isDirective = false := by decide +kernel
  refine everywhere_element.mpr ⟨isClear_iff.mpr fun directive => ?_,
    clear_of_none _ (none_functions codes)⟩
  rw [plain] at directive
  simp at directive

theorem clear_place (codes : List String) (clear : everywhere isClear doc) :
    everywhere isClear (place codes doc) := by
  refine place_cases codes doc ?nothing ?head ?html ?bare
  case nothing => exact fun _ => clear
  case head =>
    exact fun path found => clear_mapChildren (takesFunctions_of_isNamed (.inl rfl))
      (changed_replaceAt doc path found)
      (fun cs below => everywhere_append.mpr ⟨below, clear_of_none _ (none_functions codes)⟩) clear
  case html =>
    exact fun _ path found => clear_mapChildren (takesFunctions_of_isNamed (.inr rfl))
      (changed_replaceAt doc path found)
      (fun cs => everywhere_insertBeforeElement (clear_newHead codes)) clear
  case bare => exact fun _ => everywhere_insertBeforeElement (clear_newHead codes) clear

theorem clear_replaceFirst (code? : Option String) {p : Progress}
    (clear : everywhere isClear p.doc) : everywhere isClear (replaceFirst code? p).doc := by
  have new : findPath? takesFunctions (code?.map writeScript).toList = none := by
    cases code? <;> rfl
  unfold replaceFirst
  split
  · exact clear
  · rename_i path found
    refine everywhere_of_changed (changed_replaceAt p.doc path found)
      (fun _ _ _ _ _ => clear_of_none _ new)
      (fun u ds es below own _ => isClear_congr (fun none => ?_) own) clear
    rw [findPath?_eq_none_iff] at none new ⊢
    exact allTags_of_changed below (fun _ _ _ _ => new) none

end

/-! ## Heads -/

section

variable {q p : Tag → Bool} {doc : Document}

mutual

theorem Node.length_findPaths_pullOut : ∀ n : Node,
    (findPaths q (n.pullOut p).1).length + (findPaths q (n.pullOut p).2).length
      = (n.findPaths q).length
  | .element t cs => by
      have below := length_findPaths_pullOut cs
      rw [pullOut_element]
      split
      · rw [length_findPaths_nil, length_findPaths_cons, length_findPaths_element,
          length_findPaths_element]
        omega
      · rw [length_findPaths_cons, length_findPaths_element, length_findPaths_element,
          length_findPaths_nil]
        dsimp only
        omega
  | .document cs => by
      have below := length_findPaths_pullOut cs
      rw [pullOut_document, length_findPaths_cons, length_findPaths_nil, Node.findPaths,
        Node.findPaths]
      omega
  | .text _ | .comment _ | .doctype _ | .markup _ => rfl

/-- Elements that are pulled out are not lost. -/
theorem length_findPaths_pullOut : ∀ ns : List Node,
    (findPaths q (pullOut p ns).1).length + (findPaths q (pullOut p ns).2).length
      = (findPaths q ns).length
  | [] => rfl
  | n :: ns => by
      have here := Node.length_findPaths_pullOut n
      have rest := length_findPaths_pullOut ns
      rw [pullOut_cons, length_findPaths_append, length_findPaths_append, length_findPaths_cons]
      omega

end

theorem length_findPaths_moveDirectives (name : String) :
    (findPaths q (moveDirectives name doc)).length ≤ (findPaths q doc).length := by
  unfold Markup.moveDirectives moveToEndOfHead
  split
  · exact Nat.le_refl _
  · rename_i path found
    refine length_findPaths_mapChildren 0 (fun cs => Nat.le_of_eq ?_)
      (changed_replaceAt doc path found)
    rw [length_findPaths_append, length_findPaths_pullOut, Nat.add_zero]

mutual

theorem Node.length_findPaths_group (name : String) : ∀ n : Node,
    ((Node.group n).findPaths (Tag.isNamed name)).length
      = (n.findPaths (Tag.isNamed name)).length
  | .element t cs => by
      rw [Node.group]
      split
      · rfl
      · rw [length_findPaths_element, length_findPaths_element,
          length_findPaths_group name false cs]
  | .document _ | .text _ | .comment _ | .doctype _ | .markup _ => rfl

theorem length_findPaths_group (name : String) : ∀ opened cs,
    (findPaths (Tag.isNamed name) (group opened cs)).length
      = (findPaths (Tag.isNamed name) cs).length
  | _, [] => rfl
  | opened, c :: cs => by
      obtain ⟨f, opened', hf, same⟩ := group_cons opened c cs
      have here : ((f (Node.group c)).findPaths (Tag.isNamed name)).length
          = (c.findPaths (Tag.isNamed name)).length := by
        rw [← Node.length_findPaths_group name c]
        rcases hf with rfl | ⟨rfl, -⟩
        · rfl
        · cases Node.group c with
          | element t ds =>
              rw [Node.mapTag, length_findPaths_element, length_findPaths_element, Tag.isNamed,
                Tag.isNamed, name_join]
          | document _ | text _ | comment _ | doctype _ | markup _ => rfl
      rw [same, length_findPaths_cons, length_findPaths_cons, here,
        length_findPaths_group name opened' cs]

end

/-- Readying a document adds no head. -/
theorem length_heads_prepare (doc : Document) :
    (findPaths (Tag.isNamed "head") (prepare doc)).length
      ≤ (findPaths (Tag.isNamed "head") doc).length := by
  rw [prepare, length_findPaths_group]
  exact Nat.le_trans (length_findPaths_moveDirectives "meta")
    (length_findPaths_moveDirectives "title")

theorem length_heads_functions (codes : List String) :
    (findPaths (Tag.isNamed "head") (codes.map functionScript)).length = 0 := by
  rw [length_findPaths_eq_zero]
  exact findPath?_functions (fun t name => by simp [Tag.isNamed, name]) codes

/-- A head is made for functions only if there is none. -/
theorem length_heads_place (codes : List String)
    (single : (findPaths (Tag.isNamed "head") doc).length ≤ 1) :
    (findPaths (Tag.isNamed "head") (place codes doc)).length ≤ 1 := by
  have new : ((newHead (codes.map functionScript)).findPaths (Tag.isNamed "head")).length = 1 := by
    rw [newHead, length_findPaths_element, length_heads_functions]
    rfl
  have inserted (cs : List Node) :
      (findPaths (Tag.isNamed "head")
        (insertBeforeElement (newHead (codes.map functionScript)) cs)).length
        ≤ (findPaths (Tag.isNamed "head") cs).length + 1 :=
    Nat.le_of_eq (by rw [length_findPaths_insertBeforeElement, new, Nat.add_comm])
  refine place_cases codes doc ?nothing ?head ?html ?bare
  case nothing => exact fun _ => single
  case head =>
    intro path found
    refine Nat.le_trans (length_findPaths_mapChildren 0 (fun cs => Nat.le_of_eq ?_)
      (changed_replaceAt doc path found)) single
    rw [length_findPaths_append, length_heads_functions]
  case html =>
    -- a head is made only where there was none
    intro absent path found
    have one := length_findPaths_mapChildren 1 inserted (changed_replaceAt doc path found)
    rwa [(length_findPaths_eq_zero doc).mpr absent] at one
  case bare =>
    intro absent
    have one := inserted doc
    rwa [(length_findPaths_eq_zero doc).mpr absent] at one

theorem length_heads_replaceFirst (code? : Option String) {p : Progress} :
    (findPaths (Tag.isNamed "head") (replaceFirst code? p).doc).length
      ≤ (findPaths (Tag.isNamed "head") p.doc).length := by
  unfold replaceFirst
  split
  · exact Nat.le_refl _
  · rename_i path found
    refine (changed_replaceAt p.doc path found).length_findPaths (k := 0) (l := 0) fun t cs _ => ?_
    cases code? <;> exact Nat.zero_le _

end

/-! ## Functions of the head -/

section

variable {hidden p : Tag → Bool} {f : Node → List Node} {q : Tag → List Node → Bool}
  {codes : List String} {ns ms : List Node}

/-- Where there were no functions, there are those that a change adds. -/
theorem functionTexts_of_changed_nil (h : Changed p f ns ms)
    (elements : ∀ t cs, p t → (f (.element t cs)).all Node.isElement)
    (here : ∀ t cs, p t → q t cs → functionTexts hidden [.element t cs] = [] →
      functionTexts hidden (f (.element t cs)) = codes)
    (shown : ∀ u ds, hidden u → q u ds → findPath? p ds = none) (all : everywhere q ns)
    (none : functionTexts hidden ns = []) : functionTexts hidden ms = codes := by
  induction h with
  | @here t cs ns hp =>
      rw [everywhere_cons, everywhere_element] at all
      rw [functionTexts_cons, List.append_eq_nil_iff] at none
      rw [functionTexts_append, here t cs hp all.1.1 none.1, none.2, List.append_nil]
  | @inside u ds es ns _ below ih =>
      rw [everywhere_cons, everywhere_element] at all
      rw [functionTexts_cons, List.append_eq_nil_iff] at none
      -- a hidden element around the change would have to be without its place
      have open' : hidden u = false := Bool.eq_false_iff.mpr fun hu =>
        below.findPath?_ne_none (shown u ds hu all.1.1)
      rw [functionTexts_shown open', List.append_eq_nil_iff] at none
      rw [functionTexts_cons, functionTexts_shown open', textOf_of_changed elements below,
        none.1.1, ih all.1.2 none.1.2, none.2, List.nil_append, List.append_nil]
  | @document ds es ns below ih =>
      rw [everywhere_cons] at all
      rw [functionTexts_cons, functionTexts_document, List.append_eq_nil_iff] at none
      rw [functionTexts_cons, functionTexts_document, ih all.1 none.1, none.2, List.append_nil]
  | @next n ns ms _ ih =>
      rw [everywhere_cons] at all
      rw [functionTexts_cons, List.append_eq_nil_iff] at none
      rw [functionTexts_cons n ms, none.1, ih all.2 none.2, List.nil_append]

end

/-- Whether functions in an element do not count as outside of heads. -/
def isAway (t : Tag) : Bool := isTarget t || Tag.isNamed "head" t

section

variable {codes : List String} {t : Tag} {cs ns ms : List Node}

/-- An element that functions are added in is not compiled away. -/
theorem not_isTarget_of_clear (clear : isClear t cs)
    (taken : takesFunctions t ∨ findPath? takesFunctions cs ≠ none) : isTarget t = false := by
  refine Bool.eq_false_iff.mpr fun target => ?_
  rw [isTarget, Bool.and_eq_true] at target
  have none := isClear_iff.mp clear (.inl target.2)
  rw [findPath?_element_eq_none] at none
  rcases taken with taken | some
  · rw [taken] at none
    cases none.1
  · exact some none.2

theorem functionTexts_away (none : findPath? (Tag.isNamed "head") ns = none) :
    functionTexts isTarget ns = functionTexts isAway ns := by
  rw [findPath?_eq_none_iff] at none
  refine functionTexts_congr ns (allTags_mono (fun t ht => ?_) ns none)
  rw [Bool.not_eq_true'] at ht
  rw [isAway, ht, Bool.or_false, beq_iff_eq]

/-- Where all functions are in the only head, those that are added to it come last. -/
theorem functionTexts_of_head
    (h : Changed (Tag.isNamed "head") (fun n => [n.mapChildren (· ++ codes.map functionScript)])
      ns ms)
    (clear : everywhere isClear ns) (single : (findPaths (Tag.isNamed "head") ns).length ≤ 1)
    (apart : functionTexts isAway ns = []) :
    functionTexts isTarget ms = functionTexts isTarget ns ++ codes := by
  -- there is only one head, so no functions stand behind it, nor in front of it
  have rest {ns : List Node} (none : (findPaths (Tag.isNamed "head") ns).length = 0)
      (apart : functionTexts isAway ns = []) : functionTexts isTarget ns = [] := by
    rw [functionTexts_away ((length_findPaths_eq_zero ns).mp none), apart]
  induction h with
  | @here t cs ns head =>
      rw [everywhere_cons, everywhere_element] at clear
      rw [functionTexts_cons, List.append_eq_nil_iff] at apart
      rw [length_findPaths_cons, length_findPaths_element, if_pos head] at single
      have plain := not_isTarget_of_clear clear.1.1
        (.inl (takesFunctions_of_isNamed (.inl rfl) t head))
      have other : t.name ≠ "script" := ne_of_isNamed (by decide) t head
      have functions : functionTexts isTarget (codes.map functionScript) = codes :=
        functionTexts_functions (fun t name => by simp [isTarget, name]) codes
      rw [functionTexts_append, functionTexts_cons (.element t cs), rest (by omega) apart.2,
        Node.mapChildren, functionTexts_other plain other, functionTexts_other plain other,
        functionTexts_append, functions, List.append_nil, List.append_nil]
  | @inside u ds es ns other below ih =>
      rw [everywhere_cons, everywhere_element] at clear
      rw [functionTexts_cons, List.append_eq_nil_iff] at apart
      rw [length_findPaths_cons, length_findPaths_element, other] at single
      have some : (findPaths (Tag.isNamed "head") ds).length ≠ 0 := fun none =>
        below.findPath?_ne_none ((length_findPaths_eq_zero ds).mp none)
      have plain := not_isTarget_of_clear clear.1.1
        (.inr (findPath?_of_changed (takesFunctions_of_isNamed (.inl rfl)) below))
      have shown : isAway u = false := by rw [isAway, plain, other]; rfl
      rw [functionTexts_shown shown, List.append_eq_nil_iff] at apart
      rw [functionTexts_cons, functionTexts_cons (.element u ds), rest (by omega) apart.2,
        functionTexts_shown plain, functionTexts_shown plain,
        textOf_of_changed (fun _ _ _ => rfl) below, apart.1.1,
        ih clear.1.2 (by simp only [Bool.false_eq_true, if_false] at single; omega) apart.1.2,
        List.nil_append, List.nil_append, List.append_nil, List.append_nil]
  | @document ds es ns below ih =>
      rw [everywhere_cons] at clear
      rw [functionTexts_cons, functionTexts_document, List.append_eq_nil_iff] at apart
      rw [length_findPaths_cons, Node.findPaths] at single
      have some : (findPaths (Tag.isNamed "head") ds).length ≠ 0 := fun none =>
        below.findPath?_ne_none ((length_findPaths_eq_zero ds).mp none)
      rw [functionTexts_cons, functionTexts_cons (.document ds), rest (by omega) apart.2,
        functionTexts_document, functionTexts_document, ih clear.1 (by omega) apart.1,
        List.append_nil, List.append_nil]
  | @next n ns ms later ih =>
      rw [everywhere_cons] at clear
      rw [functionTexts_cons, List.append_eq_nil_iff] at apart
      rw [length_findPaths_cons] at single
      have some : (findPaths (Tag.isNamed "head") ns).length ≠ 0 := fun none =>
        later.findPath?_ne_none ((length_findPaths_eq_zero ns).mp none)
      rw [functionTexts_cons n ms, functionTexts_cons n ns, ih clear.2 (by omega) apart.2,
        List.append_assoc]

/-- The functions of a document that is being compiled. -/
structure HeadHolds (codes : List String) (doc : Document) : Prop where
  /-- Directives are apart from where functions are added. -/
  clear : everywhere isClear doc
  /-- There is at most one head. -/
  single : (findPaths (Tag.isNamed "head") doc).length ≤ 1
  /-- No function is outside of it. -/
  apart : functionTexts isAway doc = []
  /-- The functions outside of elements with directives. -/
  texts : functionTexts isTarget doc = codes

theorem isAway_script {t : Tag} (name : t.name = "script") : isAway t = false := by
  simp [isAway, isTarget, Tag.isNamed, name]

theorem isTarget_script {t : Tag} (name : t.name = "script") : isTarget t = false := by
  simp [isTarget, name]

/-- The order does not matter if only one of the parts has functions. -/
theorem functionTexts_insertBeforeElement_eq {hidden : Tag → Bool} {n : Node} {ns : List Node}
    (none : functionTexts hidden ns = [] ∨ functionTexts hidden [n] = []) :
    functionTexts hidden (insertBeforeElement n ns)
      = functionTexts hidden ns ++ functionTexts hidden [n] := by
  induction ns with
  | nil => rfl
  | cons c cs ih =>
      rw [insertBeforeElement]
      split
      · rw [functionTexts_cons]
        rcases none with none | none
        · rw [none, List.append_nil, List.nil_append]
        · rw [none, List.nil_append, List.append_nil]
      · rw [functionTexts_cons, List.append_eq_nil_iff] at none
        rw [functionTexts_cons, functionTexts_cons c cs, ih (none.imp_left And.right),
          List.append_assoc]

section

variable {doc : Document}

/-- Functions are added nowhere but in a head. -/
theorem functionTexts_away_place (codes : List String) (clear : everywhere isClear doc) :
    functionTexts isAway (place codes doc) = functionTexts isAway doc := by
  have new : functionTexts isAway [newHead (codes.map functionScript)] = [] :=
    functionTexts_hidden (by decide +kernel) _
  refine place_cases codes doc ?nothing ?head ?html ?bare
  case nothing => exact fun _ => rfl
  case head =>
    intro path found
    refine functionTexts_of_changed_eq (changed_replaceAt doc path found) (fun _ _ _ => rfl)
      (fun t cs head _ _ => ?_) clear
    have inHead : isAway t := by rw [isAway, head, Bool.or_true]
    rw [Node.mapChildren, functionTexts_hidden inHead, functionTexts_hidden inHead]
  case html =>
    intro _ path found
    refine functionTexts_of_changed_eq (changed_replaceAt doc path found) (fun _ _ _ => rfl)
      (fun t cs html own _ => ?_) clear
    have plain := not_isTarget_of_clear own (.inl (takesFunctions_of_isNamed (.inr rfl) t html))
    have shown : isAway t = false := by
      rw [isAway, plain, Tag.isNamed, beq_iff_eq.mp html]
      rfl
    have other : t.name ≠ "script" := ne_of_isNamed (by decide) t html
    rw [Node.mapChildren, functionTexts_other shown other, functionTexts_other shown other,
      functionTexts_insertBeforeElement_eq (.inr new), new, List.append_nil]
  case bare =>
    intro _
    rw [functionTexts_insertBeforeElement_eq (.inr new), new, List.append_nil]

/-- A document without functions has those that are added to it. -/
theorem functionTexts_place_nil (codes : List String) (clear : everywhere isClear doc)
    (absent : findPath? (Tag.isNamed "head") doc = none)
    (none : functionTexts isTarget doc = []) :
    functionTexts isTarget (place codes doc) = codes := by
  have functions : functionTexts isTarget (codes.map functionScript) = codes :=
    functionTexts_functions (fun t => isTarget_script) codes
  have new : functionTexts isTarget [newHead (codes.map functionScript)] = codes := by
    rw [newHead, functionTexts_other (by decide +kernel) (by decide), functions]
  refine place_cases codes doc ?nothing ?head ?html ?bare
  case nothing =>
    rintro rfl
    rw [none]
  case head =>
    intro path found
    rw [absent] at found
    cases found
  case html =>
    intro _ path found
    refine functionTexts_of_changed_nil (changed_replaceAt doc path found) (fun _ _ _ => rfl)
      (fun t cs html own none => ?_) (fun u ds target own => ?_) clear none
    · have plain := not_isTarget_of_clear own (.inl (takesFunctions_of_isNamed (.inr rfl) t html))
      have other : t.name ≠ "script" := ne_of_isNamed (by decide) t html
      rw [functionTexts_other plain other] at none
      rw [Node.mapChildren, functionTexts_other plain other,
        functionTexts_insertBeforeElement_eq (.inl none), none, new]
      rfl
    -- a target around the place would hold functions, which a clear one does not
    · by_contra some
      have plain := not_isTarget_of_clear own (.inr fun none =>
        some (findPath?_of_frames (takesFunctions_of_isNamed (.inr rfl)) none))
      rw [plain] at target
      cases target
  case bare =>
    intro _
    rw [functionTexts_insertBeforeElement_eq (.inl none), none, new]
    rfl

end

namespace HeadHolds

variable {old codes : List String} {doc : Document}

/-- Functions that are added come behind the others. -/
theorem place (h : HeadHolds old doc) (codes : List String) :
    HeadHolds (old ++ codes) (Compile.place codes doc) := by
  obtain ⟨clear, single, apart, rfl⟩ := h
  refine ⟨clear_place codes clear, length_heads_place codes single, ?_, ?_⟩
  · rw [functionTexts_away_place codes clear, apart]
  have new (absent : findPath? (Tag.isNamed "head") doc = none) :
      functionTexts isTarget (Compile.place codes doc) = functionTexts isTarget doc ++ codes := by
    have none : functionTexts isTarget doc = [] := by rw [functionTexts_away absent, apart]
    rw [none, functionTexts_place_nil codes clear absent none, List.nil_append]
  cases found : findPath? (Tag.isNamed "head") doc with
  | none => exact new found
  | some path =>
      refine place_cases codes doc ?nothing ?head ?html ?bare
      case nothing =>
        rintro rfl
        rw [List.append_nil]
      case head =>
        exact fun path found =>
          functionTexts_of_head (changed_replaceAt doc path found) clear single apart
      case html => exact fun absent => by rw [absent] at found; cases found
      case bare => exact fun absent => by rw [absent] at found; cases found

theorem replaceFirst {p : Progress} (h : HeadHolds codes p.doc) (code? : Option String) :
    HeadHolds codes (Compile.replaceFirst code? p).doc where
  clear := clear_replaceFirst code? h.clear
  single := Nat.le_trans (length_heads_replaceFirst code?) h.single
  apart := by
    rw [functionTexts_replaceFirst (fun t target => by rw [isAway, target]; rfl)
      (fun t => isAway_script), h.apart]
  texts := by
    rw [functionTexts_replaceFirst (fun t target => target) (fun t => isTarget_script), h.texts]

end HeadHolds

end

end PageTemplates.Compile
