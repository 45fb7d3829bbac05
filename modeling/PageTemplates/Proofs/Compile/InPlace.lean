import PageTemplates.Proofs.Compile.Grouping
import PageTemplates.Proofs.Compile.Growth
import PageTemplates.Proofs.Compile.Outcome

/-!
# What compiling in place leaves alone

A document that is compiled in place loses its elements with directives, and
what it gets instead are additions of a few kinds only. The main facts:

* `strip`: a document without its elements with directives;
* `strip_prepare`: readying a document changes nothing else;
* `compileTargets_grown`: compiling adds to a document, and leaves no element
  with a directive;
* `inline_keeps`: what is left of a document, and that one without directives
  remains as it is.
-/

namespace PageTemplates.Compile

open Markup

/-! ## Documents without directives -/

mutual

/-- What is left of a node without the elements that are compiled. -/
def Node.strip : Node → List Node
  | .element t cs => if isTarget t then [] else [.element t (strip cs)]
  | .document cs => [.document (strip cs)]
  | n => [n]

/-- What is left of siblings without the elements that are compiled. -/
def strip : List Node → List Node
  | [] => []
  | c :: cs => Node.strip c ++ strip cs

end

theorem strip_append (cs ds : List Node) : strip (cs ++ ds) = strip cs ++ strip ds := by
  induction cs with
  | nil => rfl
  | cons c cs ih => rw [List.cons_append, strip, strip, ih, List.append_assoc]

theorem Node.strip_target {t : Tag} (h : isTarget t) (cs : List Node) :
    Node.strip (.element t cs) = [] := by
  rw [Node.strip, if_pos h]

mutual

theorem Node.grown_strip : ∀ (n : Node) {es ds : List Node}, Grown isTarget 0 es ds →
    Grown isTarget 0 (Node.strip n ++ es) (n :: ds)
  | .element t cs, es, ds, h => by
      rw [Node.strip]
      split
      · rename_i ht
        exact .target ht h
      · rename_i ht
        have whole : Grown isTarget _ _ (.element t (cs ++ [].map functionScript) :: ds) :=
          .element (by simpa using ht) (.inl rfl) (grown_strip cs) h
        rw [List.map_nil, List.append_nil] at whole
        exact whole
  | .document cs, es, ds, h => by
      rw [Node.strip]
      exact .document (grown_strip cs) h
  | .text _, es, ds, h | .comment _, es, ds, h | .doctype _, es, ds, h | .markup _, es, ds, h =>
      .leaf rfl h

/-- A document is what is left of it together with the elements that are
compiled. -/
theorem grown_strip : ∀ ns, Grown isTarget 0 (strip ns) ns
  | [] => .nil
  | n :: ns => by
      rw [strip]
      exact Node.grown_strip n (grown_strip ns)

end

mutual

theorem Node.strip_eq_self : ∀ n : Node, Node.allTags (fun t => !isTarget t) n → Node.strip n = [n]
  | .element t cs, h => by
      rw [allTags_element] at h
      rw [Node.strip, if_neg (by simpa using h.1), strip_eq_self cs h.2]
  | .document cs, h => by rw [Node.strip, strip_eq_self cs h]
  | .text _, _ | .comment _, _ | .doctype _, _ | .markup _, _ => rfl

theorem strip_eq_self : ∀ ns, allTags (fun t => !isTarget t) ns → strip ns = ns
  | [], _ => rfl
  | n :: ns, h => by
      rw [allTags_cons] at h
      rw [strip, Node.strip_eq_self n h.1, strip_eq_self ns h.2, List.singleton_append]

end

/-! ## Readying a document -/

mutual

theorem Node.strip_pullOut {p : Tag → Bool} (targets : ∀ t, p t → isTarget t) : ∀ n : Node,
    strip (n.pullOut p).1 = Node.strip n ∧ strip (n.pullOut p).2 = []
  | .element t cs => by
      obtain ⟨kept, pulled⟩ := strip_pullOut targets cs
      rw [pullOut_element]
      split
      · rename_i ht
        have gone := Node.strip_target (targets t ht)
        rw [strip, strip, gone, gone, pulled]
        exact ⟨rfl, rfl⟩
      · refine ⟨?_, pulled⟩
        rw [strip, Node.strip, Node.strip, kept, strip, List.append_nil]
  | .document cs => by
      obtain ⟨kept, pulled⟩ := strip_pullOut targets cs
      rw [pullOut_document]
      refine ⟨?_, pulled⟩
      rw [strip, Node.strip, Node.strip, kept, strip, List.append_nil]
  | .text _ | .comment _ | .doctype _ | .markup _ => ⟨rfl, rfl⟩

/-- Elements that are compiled anyway may be moved. -/
theorem strip_pullOut {p : Tag → Bool} (targets : ∀ t, p t → isTarget t) : ∀ ns : List Node,
    strip (pullOut p ns).1 = strip ns ∧ strip (pullOut p ns).2 = []
  | [] => ⟨rfl, rfl⟩
  | n :: ns => by
      obtain ⟨kept, pulled⟩ := Node.strip_pullOut targets n
      obtain ⟨kept', pulled'⟩ := strip_pullOut targets ns
      rw [pullOut_cons, strip_append, strip_append, kept, kept', pulled, pulled', strip]
      exact ⟨rfl, rfl⟩

end

theorem allTags_append (q : Tag → Bool) (cs ds : List Node) :
    allTags q (cs ++ ds) = (allTags q cs && allTags q ds) := by
  induction cs with
  | nil => rfl
  | cons c cs ih => rw [List.cons_append, allTags, allTags, ih, Bool.and_assoc]

mutual

theorem Node.allTags_pullOut {p q : Tag → Bool} : ∀ n : Node, Node.allTags q n →
    allTags q (n.pullOut p).1 ∧ allTags q (n.pullOut p).2
  | .element t cs, h => by
      rw [allTags_element] at h
      obtain ⟨kept, pulled⟩ := allTags_pullOut (p := p) cs h.2
      have whole : Node.allTags q (.element t (pullOut p cs).1) := by
        rw [Node.allTags, h.1, kept]
        rfl
      rw [pullOut_element]
      split
      · refine ⟨rfl, ?_⟩
        rw [allTags, whole, pulled]
        rfl
      · refine ⟨?_, pulled⟩
        rw [allTags, whole]
        rfl
  | .document cs, h => by
      obtain ⟨kept, pulled⟩ := allTags_pullOut (p := p) cs h
      rw [pullOut_document]
      refine ⟨?_, pulled⟩
      rw [allTags, Node.allTags, kept]
      rfl
  | .text _, _ | .comment _, _ | .doctype _, _ | .markup _, _ => ⟨rfl, rfl⟩

theorem allTags_pullOut {p q : Tag → Bool} : ∀ ns : List Node, allTags q ns →
    allTags q (pullOut p ns).1 ∧ allTags q (pullOut p ns).2
  | [], _ => ⟨rfl, rfl⟩
  | n :: ns, h => by
      rw [allTags_cons] at h
      obtain ⟨kept, pulled⟩ := Node.allTags_pullOut (p := p) n h.1
      obtain ⟨kept', pulled'⟩ := allTags_pullOut (p := p) ns h.2
      rw [pullOut_cons, allTags_append, allTags_append, kept, kept', pulled, pulled']
      exact ⟨rfl, rfl⟩

end

/-- What is left of a document is kept by a change that keeps what is left below
the changed element. -/
theorem strip_changed {p : Tag → Bool} {g : List Node → List Node}
    (hg : ∀ cs, strip (g cs) = strip cs) {ns ms : List Node}
    (h : Changed p (fun n => [n.mapChildren g]) ns ms) : strip ms = strip ns := by
  induction h with
  | here _ =>
      rw [Node.mapChildren, List.singleton_append, strip, strip, Node.strip, Node.strip, hg]
  | inside _ _ ih => rw [strip, strip, Node.strip, Node.strip, ih]
  | document _ ih => rw [strip, strip, Node.strip, Node.strip, ih]
  | next _ ih => rw [strip, strip, ih]

theorem allTags_changed {p q : Tag → Bool} {g : List Node → List Node}
    (hg : ∀ cs, allTags q cs → allTags q (g cs)) {ns ms : List Node}
    (h : Changed p (fun n => [n.mapChildren g]) ns ms) : allTags q ns → allTags q ms := by
  induction h with
  | here _ =>
      rw [Node.mapChildren, List.singleton_append, allTags, allTags, Node.allTags, Node.allTags]
      simp only [Bool.and_eq_true]
      exact fun h => ⟨⟨h.1.1, hg _ h.1.2⟩, h.2⟩
  | inside _ _ ih =>
      rw [allTags, allTags, Node.allTags, Node.allTags]
      simp only [Bool.and_eq_true]
      exact fun h => ⟨⟨h.1.1, ih h.1.2⟩, h.2⟩
  | document _ ih =>
      rw [allTags, allTags, Node.allTags, Node.allTags]
      simp only [Bool.and_eq_true]
      exact fun h => ⟨ih h.1, h.2⟩
  | next _ ih =>
      rw [allTags, allTags]
      simp only [Bool.and_eq_true]
      exact fun h => ⟨h.1, ih h.2⟩

/-- Titles and metas with directives are compiled, so moving them changes
nothing else. -/
theorem strip_moveDirectives {name : String} (hname : name ≠ "script") (doc : Document) :
    strip (moveDirectives name doc) = strip doc := by
  have targets : ∀ t : Tag, (t.name == name && t.isDirective) → isTarget t := by
    intro t ht
    simp only [Bool.and_eq_true, beq_iff_eq] at ht
    simp [isTarget, ht, hname]
  unfold moveDirectives moveToEndOfHead
  split
  · rfl
  · rename_i path hpath
    refine strip_changed (fun cs => ?_) (changed_replaceAt doc path hpath)
    obtain ⟨kept, pulled⟩ := strip_pullOut targets cs
    dsimp only
    rw [strip_append, kept, pulled, List.append_nil]

theorem allTags_moveDirectives {q : Tag → Bool} (name : String) {doc : Document}
    (h : allTags q doc) : allTags q (moveDirectives name doc) := by
  unfold moveDirectives moveToEndOfHead
  split
  · exact h
  · rename_i path hpath
    refine allTags_changed (fun cs hcs => ?_) (changed_replaceAt doc path hpath) h
    obtain ⟨kept, pulled⟩ := allTags_pullOut cs hcs
    dsimp only
    rw [allTags_append, kept, pulled]
    rfl

/-- A tag that does not make a script the branch of a choice. -/
def isNoScriptBranch (t : Tag) : Bool := !(t.name == "script" && t.isCompapply)

theorem isTarget_of_branch {t : Tag} (h : isNoScriptBranch t) (branch : t.isCompapply) :
    isTarget t ∧ isTarget (join t) := by
  have name : t.name ≠ "script" := by
    intro hn
    rw [isNoScriptBranch, hn, branch] at h
    cases h
  have directive : t.isDirective := by
    unfold Tag.isDirective
    unfold Tag.isCompapply at branch
    by_cases hw : t.directiveWord = ""
    · rw [hw] at branch
      cases branch
    · simpa using hw
  have directive' : (join t).isDirective := by
    unfold Tag.isDirective
    rw [directiveWord_join]
    rfl
  simp [isTarget, name_join, name, directive, directive']

mutual

theorem Node.strip_group : ∀ n, Node.allTags isNoScriptBranch n →
    Node.strip (Node.group n) = Node.strip n
  | .element t cs, h => by
      rw [allTags_element] at h
      rw [Node.group]
      split
      · rfl
      · rw [Node.strip, Node.strip, strip_group false cs h.2]
  | .document _, _ | .text _, _ | .comment _, _ | .doctype _, _ | .markup _, _ => rfl

/-- The branches of choices are compiled, so grouping them changes nothing
else. -/
theorem strip_group : ∀ opened cs, allTags isNoScriptBranch cs →
    strip (group opened cs) = strip cs
  | _, [], _ => rfl
  | opened, c :: cs, h => by
      rw [allTags_cons] at h
      obtain ⟨f, opened', hf, hg⟩ := group_cons opened c cs
      rw [hg, strip, strip, strip_group opened' cs h.2]
      rcases hf with rfl | ⟨rfl, branch⟩
      · rw [id, Node.strip_group c h.1]
      · -- a branch is compiled, before it is joined and after
        cases c with
        | element t cs' =>
            have tag := h.1
            rw [allTags_element] at tag
            obtain ⟨before, after⟩ := isTarget_of_branch tag.1 branch
            rw [Node.group, Node.strip_target before]
            split <;> rw [Node.mapTag, Node.strip_target after]
        | document _ | text _ | comment _ | doctype _ | markup _ => cases branch

end

theorem strip_prepare {doc : Document} (h : allTags isNoScriptBranch doc) :
    strip (prepare doc) = strip doc := by
  unfold prepare
  rw [strip_group _ _ (allTags_moveDirectives _ (allTags_moveDirectives _ h)),
    strip_moveDirectives (by decide), strip_moveDirectives (by decide)]

theorem allTags_prepare {q : Tag → Bool} (hq : ∀ t, t.isCompapply → q t → q (join t))
    {doc : Document} (h : allTags q doc) : allTags q (prepare doc) :=
  allTags_group hq _ _ (allTags_moveDirectives _ (allTags_moveDirectives _ h))

mutual

theorem Node.findPath?_eq_none_iff {p : Tag → Bool} : ∀ n : Node,
    n.findPath? p = none ↔ Node.allTags (fun t => !p t) n
  | .element t cs => by
      rw [findPath?_element_eq_none, findPath?_eq_none_iff cs, allTags_element, Bool.not_eq_true']
  | .document cs => findPath?_eq_none_iff cs
  | .text _ | .comment _ | .doctype _ | .markup _ => ⟨fun _ => rfl, fun _ => rfl⟩

theorem findPath?_eq_none_iff {p : Tag → Bool} : ∀ ns : List Node,
    findPath? p ns = none ↔ allTags (fun t => !p t) ns
  | [] => ⟨fun _ => rfl, fun _ => rfl⟩
  | n :: ns => by
      rw [findPath?_cons_eq_none, Node.findPath?_eq_none_iff n, findPath?_eq_none_iff ns, allTags,
        Bool.and_eq_true]

end

mutual

theorem Node.allTags_and (p q : Tag → Bool) : ∀ n : Node,
    Node.allTags (fun t => p t && q t) n = (Node.allTags p n && Node.allTags q n)
  | .element t cs => by
      rw [Node.allTags, Node.allTags, Node.allTags, allTags_and p q cs]
      ac_rfl
  | .document cs => allTags_and p q cs
  | .text _ | .comment _ | .doctype _ | .markup _ => rfl

theorem allTags_and (p q : Tag → Bool) : ∀ ns : List Node,
    allTags (fun t => p t && q t) ns = (allTags p ns && allTags q ns)
  | [] => rfl
  | n :: ns => by
      rw [allTags, allTags, allTags, Node.allTags_and p q n, allTags_and p q ns]
      ac_rfl

end

/-- A document without directives is ready. -/
theorem prepare_eq_self {doc : Document} (h : allTags isNoScriptBranch doc)
    (none : findPath? isTarget doc = none) : prepare doc = doc := by
  rw [findPath?_eq_none_iff] at none
  have both : allTags (fun t => isNoScriptBranch t && !isTarget t) (prepare doc) := by
    refine allTags_prepare (fun t branch ht => ?_) (by rw [allTags_and, h, none]; rfl)
    -- a branch of a choice would be compiled, so none is there to be joined
    rw [Bool.and_eq_true] at ht
    rw [(isTarget_of_branch ht.1 branch).1] at ht
    cases ht.2
  rw [allTags_and, Bool.and_eq_true] at both
  calc prepare doc = strip (prepare doc) := (strip_eq_self _ both.2).symm
    _ = strip doc := strip_prepare h
    _ = doc := strip_eq_self doc none

/-! ## Counting elements with directives -/

theorem length_findPaths_functions (codes : List String) :
    (findPaths isTarget (codes.map functionScript)).length = 0 := by
  rw [length_findPaths_eq_zero]
  exact findPath?_functions (fun t ht => by simp [isTarget, ht]) codes

theorem length_findPaths_insertBeforeElement (q : Tag → Bool) (n : Node) (ns : List Node) :
    (findPaths q (insertBeforeElement n ns)).length
      = (n.findPaths q).length + (findPaths q ns).length := by
  induction ns with
  | nil => rw [insertBeforeElement, length_findPaths_cons]
  | cons c cs ih =>
      rw [insertBeforeElement]
      split
      · rw [length_findPaths_cons]
      · rw [length_findPaths_cons, ih, length_findPaths_cons]
        omega

theorem length_findPaths_newHead (codes : List String) :
    ((newHead (codes.map functionScript)).findPaths isTarget).length = 0 := by
  rw [newHead, length_findPaths_element, length_findPaths_functions]
  rfl

/-- A change below an element that adds at most `l` elements of a kind there. -/
theorem length_findPaths_mapChildren {p q : Tag → Bool} {g : List Node → List Node} (l : Nat)
    (hg : ∀ cs, (findPaths q (g cs)).length ≤ (findPaths q cs).length + l) {ns ms : List Node}
    (h : Changed p (fun n => [n.mapChildren g]) ns ms) :
    (findPaths q ms).length ≤ (findPaths q ns).length + l := by
  refine h.length_findPaths (k := 0) fun t cs _ => ?_
  have := hg cs
  rw [Node.mapChildren, length_findPaths_cons, length_findPaths_element, length_findPaths_element,
    length_findPaths_nil]
  omega

/-- A run that compiles elements with directives, the first one at each step. -/
inductive TargetRun (o : Options) : Progress → Progress → Prop
  | stop (p : Progress) : TargetRun o p p
  | step {p p₁ r : Progress} {path : Path} {code? : Option String}
      (found : findPath? isTarget p.doc = some path)
      (coded : codeAt o false false path p = .ok (code?, p₁))
      (rest : TargetRun o (replaceFirst code? p₁) r) : TargetRun o p r

theorem targetRun_of_ok {o : Options} {n : Nat} {p r : Progress}
    (h : compileTargets o n p = .ok r) : TargetRun o p r := by
  induction n generalizing p with
  | zero =>
      cases h
      exact .stop _
  | succ n ih =>
      rw [compileTargets] at h
      split at h
      · cases h
        exact .stop _
      · rename_i path found
        obtain ⟨⟨code?, p₁⟩, coded, h⟩ := bind_eq_ok h
        exact .step found coded (ih h)

/-- Functions are no elements with directives. -/
theorem length_findPaths_place (codes : List String) (doc : Document) :
    (findPaths isTarget (place codes doc)).length ≤ (findPaths isTarget doc).length := by
  have inserted (cs : List Node) :
      (findPaths isTarget (insertBeforeElement (newHead (codes.map functionScript)) cs)).length =
        (findPaths isTarget cs).length := by
    rw [length_findPaths_insertBeforeElement, length_findPaths_newHead, Nat.zero_add]
  refine place_cases codes doc ?nothing ?head ?html ?bare
  case nothing => exact fun _ => Nat.le_refl _
  case head =>
    intro path found
    refine length_findPaths_mapChildren 0 (fun cs => Nat.le_of_eq ?_)
      (changed_replaceAt doc path found)
    rw [length_findPaths_append, length_findPaths_functions, Nat.add_zero]
  case html =>
    exact fun _ path found => length_findPaths_mapChildren 0
      (fun cs => Nat.le_of_eq (inserted cs)) (changed_replaceAt doc path found)
  case bare => exact fun _ => Nat.le_of_eq (inserted doc)

/-! ## Compiling -/

/-- One element gives way to its code: the document still is what is left and
additions, and has fewer elements with directives. -/
theorem replaceFirst_grown {es : List Node} (code? : Option String) (p : Progress)
    (h : GrownOnce isTarget es p.doc) :
    GrownOnce isTarget es (replaceFirst code? p).doc ∧
      (findPaths isTarget (replaceFirst code? p).doc).length
        ≤ (findPaths isTarget p.doc).length - 1 := by
  unfold replaceFirst
  split
  · rename_i hnone
    rw [← length_findPaths_eq_zero] at hnone
    exact ⟨h, by omega⟩
  · rename_i path hpath
    have changed := changed_replaceAt (f := fun _ => (code?.map writeScript).toList) p.doc path
      hpath
    obtain ⟨made, one, hg, none⟩ := h
    obtain ⟨made', hle, hg'⟩ := hg.replaceTarget changed
    refine ⟨.of_le hg' hle one none, ?_⟩
    have fewer := changed.length_findPaths (q := isTarget) (k := 1) (l := 0) fun t cs ht => by
      rw [length_findPaths_element, if_pos ht]
      cases code? with
      | none => exact Nat.le_add_right _ _
      | some code => exact Nat.le_add_right _ _
    dsimp only
    omega

/-- Compiling elements adds to a document; with as many steps as there are
elements with directives, none of these is left. -/
theorem compileTargets_grown {o : Options} {n : Nat} {es : List Node} {p p' : Progress}
    (h : compileTargets o n p = .ok p') (hg : GrownOnce isTarget es p.doc) :
    GrownOnce isTarget es p'.doc ∧
      ((findPaths isTarget p.doc).length ≤ n → findPath? isTarget p'.doc = none) := by
  induction n generalizing p with
  | zero =>
      cases h
      refine ⟨hg, fun hn => ?_⟩
      rw [← length_findPaths_eq_zero]
      omega
  | succ n ih =>
      rw [compileTargets] at h
      split at h
      · rename_i hnone
        cases h
        exact ⟨hg, fun _ => hnone⟩
      · rename_i path hpath
        obtain ⟨⟨code?, p₁⟩, hcode, h⟩ := bind_eq_ok h
        obtain ⟨codes, -, rfl⟩ := codeAt_eq_ok hcode
        -- the functions of the element first, then the element itself
        have fewer := length_findPaths_place codes p.doc
        obtain ⟨hg', fewer'⟩ := replaceFirst_grown code?
          { doc := place codes p.doc, generated := p.generated + codes.length } (hg.place codes)
        dsimp only at fewer'
        obtain ⟨hend, hdone⟩ := ih h hg'
        exact ⟨hend, fun hn => hdone (by omega)⟩

/-- The script that starts the processing is no element with a directive. -/
theorem findPath?_markBody {doc : Document} (h : findPath? isTarget doc = none) :
    findPath? isTarget (markBody doc) = none := by
  unfold markBody appendToBody
  split
  · rename_i path hpath
    rw [← length_findPaths_eq_zero] at h ⊢
    have kept : (findPaths isTarget [.script [("type", some "text/javascript")] startCode]).length
        = 0 := rfl
    refine Nat.le_zero.mp (Nat.le_trans (length_findPaths_mapChildren 0 (fun cs => Nat.le_of_eq ?_)
      (changed_replaceAt doc path hpath)) (Nat.le_of_eq h))
    rw [length_findPaths_append, kept, Nat.add_zero]
  · exact h

theorem inline_eq_ok {o : Options} {doc : Document} {r : Progress} (h : inline o doc = .ok r) :
    ∃ p, compileAll o { doc := prepare doc } = .ok p ∧
      r = if p.generated == 0 then p else { p with doc := markBody p.doc } := by
  unfold inline at h
  cases hp : compileAll o { doc := prepare doc } with
  | error e => rw [hp] at h; cases h
  | ok p =>
      rw [hp] at h
      cases h
      exact ⟨p, rfl, rfl⟩

/-- A document that is compiled in place keeps everything but its elements with
directives, none of which is left, and gets only scripts, functions in a head,
which is made at most once and only if there is none, and the script that starts
the processing. A document without elements with directives is kept whole. -/
theorem inline_keeps (o : Options) {doc : Document} (scripts : allTags isNoScriptBranch doc) :
    (∀ r, inline o doc = .ok r → ∃ grown, GrownOnce (fun _ => false) (strip doc) grown ∧
      r.doc = (if r.generated = 0 then grown else markBody grown) ∧
      findPath? isTarget r.doc = none) ∧
    (findPath? isTarget doc = none → inline o doc = .ok { doc }) := by
  refine ⟨fun r hr => ?_, fun none => ?_⟩
  · obtain ⟨p, hp, rfl⟩ := inline_eq_ok hr
    have start : GrownOnce isTarget (strip doc) (prepare doc) := by
      refine ⟨0, Nat.zero_le 1, ?_, fun _ => rfl⟩
      rw [← strip_prepare scripts]
      exact grown_strip (prepare doc)
    -- there are as many steps as elements with directives
    obtain ⟨⟨made, one, hg, none⟩, hdone⟩ := compileTargets_grown hp start
    have done := hdone (Nat.le_refl _)
    refine ⟨p.doc, ⟨made, one, hg.settle done, none⟩, ?_, ?_⟩
    · by_cases hz : p.generated = 0 <;> simp [hz]
    · by_cases hz : p.generated = 0
      · simpa [hz] using done
      · simpa [hz] using findPath?_markBody done
  · have quiet : compileAll o { doc } = .ok { doc } := by
      rw [← length_findPaths_eq_zero] at none
      rw [compileAll, none, compileTargets]
    unfold inline
    rw [prepare_eq_self scripts none, quiet]
    rfl

/-- A page without a head, with a live element that needs one. -/
def livePage : Document :=
  [.element { name := "html" }
    [.element { name := "body" }
      [.text "a",
       .element { name := "p", attributes := [("yst", some "live"), ("id", some "f")] } [.text "b"],
       .comment "c"]]]

theorem inline_keeps_livePage :
    allTags isNoScriptBranch livePage ∧ ∃ r grown, inline {} livePage = .ok r ∧
      GrownOnce (fun _ => false)
        [.element { name := "html" } [.element { name := "body" } [.text "a", .comment "c"]]]
        grown ∧
      r.doc = markBody grown ∧ findPath? isTarget r.doc = none := by
  have scripts : allTags isNoScriptBranch livePage := by decide +kernel
  have left : strip livePage
      = [.element { name := "html" } [.element { name := "body" } [.text "a", .comment "c"]]] := rfl
  have succeeds : (inline {} livePage).toOption.any (·.generated != 0) := by decide +kernel
  have keeps := (inline_keeps {} scripts).1
  rw [left] at keeps
  generalize inline {} livePage = result at succeeds keeps
  cases result with
  | error e => cases succeeds
  | ok r =>
      have generated : r.generated ≠ 0 := bne_iff_ne.mp succeeds
      obtain ⟨grown, hg, hr, done⟩ := keeps r rfl
      rw [if_neg generated] at hr
      exact ⟨scripts, r, grown, rfl, hg, hr, done⟩

end PageTemplates.Compile
