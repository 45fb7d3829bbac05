import PageTemplates.Proofs.Compile.Followed
import PageTemplates.Proofs.Compile.Scripts

/-!
# What a step of compiling leaves to be met

A step of compiling deals with the first element with a directive. It adds functions
to the head and then puts a script, or nothing, in place of the element. The main facts:

* `walks_place`: functions that are added do not change what is met, except that the
  elements they are added in hold them;
* `walks_found`: what is met at the first element with a directive comes first, and the
  rest is what is met once that element is replaced;
* `tidy_prepare`, `tidy_place`, `tidy_replaceFirst`: scripts go on to hold only text;
* `step_meets`: what a step deals with, and what it leaves to be met.
-/

namespace PageTemplates.Compile

open Markup

/-! ## Elements that functions are added in -/

theorem isStill_refl (n : Node) : IsStill n n := .inl rfl

theorem forall₂_isStill_refl (ns : List Node) : List.Forall₂ IsStill ns ns :=
  List.forall₂_same.mpr fun n _ => isStill_refl n

theorem isUnknown_of_isStill {n m : Node} (h : IsStill n m) :
    Node.isUnknown m = Node.isUnknown n := by
  rcases h with rfl | ⟨-, t, cs, ds, rfl, rfl⟩
  · rfl
  · rfl

/-- What is met at an element, when functions are added in it or in the branches that
are joined to it. -/
theorem metAt_isStill {t : Tag} {cs ds inside inside' others others' : List Node}
    (own : IsStill (.element t cs) (.element t ds))
    (hi : List.Forall₂ IsStill inside inside') (ho : List.Forall₂ IsStill others others') :
    List.Forall₂ IsStill (metAt t cs inside others) (metAt t ds inside' others') := by
  have self (b : Bool) : List.Forall₂ IsStill (if b then [.element t cs] else [])
      (if b then [.element t ds] else []) := by
    cases b with
    | true => exact .cons own .nil
    | false => exact .nil
  unfold metAt
  refine List.rel_append (self _) (List.rel_append ?_ (self _))
  split
  · exact .nil
  · refine List.rel_append hi ?_
    split
    · exact ho
    · exact .nil

/-- Two states of a node at which the same is met, up to what is added meanwhile. -/
structure MeetsSame (n m : Node) : Prop where
  joined : isJoined m = isJoined n
  gap : isGap m = isGap n
  inside : List.Forall₂ IsStill (Node.inside n) (Node.inside m)
  walks : ∀ others others', List.Forall₂ IsStill others others' →
    List.Forall₂ (List.Forall₂ IsStill) (Node.walks others n) (Node.walks others' m)

namespace MeetsSame

variable {t : Tag} {n m : Node} {cs ds ns ms : List Node}

theorem element (own : IsStill (.element t cs) (.element t ds))
    (below : List.Forall₂ (List.Forall₂ IsStill) (Compile.walks cs) (Compile.walks ds)) :
    MeetsSame (.element t cs) (.element t ds) where
  joined := rfl
  gap := rfl
  inside := List.rel_flatten below
  walks others others' h := by
    rw [Node.walks, Node.walks]
    split
    · exact .cons (metAt_isStill own (List.rel_flatten below) h) .nil
    · exact below

theorem document
    (below : List.Forall₂ (List.Forall₂ IsStill) (Compile.walks cs) (Compile.walks ds)) :
    MeetsSame (.document cs) (.document ds) where
  joined := rfl
  gap := rfl
  inside := List.rel_flatten below
  walks _ _ _ := below

theorem refl (n : Node) : MeetsSame n n := by
  have below (cs : List Node) :
      List.Forall₂ (List.Forall₂ IsStill) (Compile.walks cs) (Compile.walks cs) :=
    List.forall₂_same.mpr fun ns _ => forall₂_isStill_refl ns
  cases n with
  | element t cs => exact .element (isStill_refl _) (below cs)
  | document cs => exact .document (below cs)
  | text _ | comment _ | doctype _ | markup _ => exact ⟨rfl, rfl, .nil, fun _ _ _ => .nil⟩

/-- Where the same is met at a node and at its siblings, it is at all of them. -/
theorem cons (h : MeetsSame n m)
    (rest : List.Forall₂ (List.Forall₂ IsStill) (Compile.walks ns) (Compile.walks ms))
    (behind : List.Forall₂ IsStill (others ns) (others ms)) :
    List.Forall₂ (List.Forall₂ IsStill) (Compile.walks (n :: ns)) (Compile.walks (m :: ms)) ∧
      List.Forall₂ IsStill (others (n :: ns)) (others (m :: ms)) := by
  refine ⟨List.rel_append (h.walks _ _ behind) rest, ?_⟩
  rw [others, others, h.joined, h.gap]
  split
  · exact List.rel_append h.inside behind
  split
  · exact behind
  · exact .nil

end MeetsSame

/-- Where functions are added nowhere, there is neither a head nor `<html>`. -/
theorem findPath?_of_frames {p : Tag → Bool} (frames : ∀ t, p t → takesFunctions t)
    {ns : List Node} (none : findPath? takesFunctions ns = none) : findPath? p ns = .none := by
  rw [findPath?_eq_none_iff] at none
  refine findPath?_of_allTags (fun t ht => ?_) none
  rw [Bool.not_eq_true'] at ht
  exact Bool.eq_false_iff.mpr fun hp => by
    rw [frames t hp] at ht
    cases ht

/-- A change in elements that functions are added in. -/
theorem walks_of_changed {p : Tag → Bool} {g : List Node → List Node} {ns ms : List Node}
    (h : Changed p (fun n => [n.mapChildren g]) ns ms) (taken : ∀ t, p t → takesFunctions t)
    (same : ∀ cs, walks (g cs) = walks cs) :
    List.Forall₂ (List.Forall₂ IsStill) (walks ns) (walks ms) ∧
      List.Forall₂ IsStill (others ns) (others ms) := by
  have rest (ns : List Node) : List.Forall₂ (List.Forall₂ IsStill) (walks ns) (walks ns) :=
    List.forall₂_same.mpr fun ns _ => forall₂_isStill_refl ns
  induction h with
  | @here t cs ns ht =>
      have own : IsStill (.element t cs) (.element t (g cs)) := by
        refine .inr ⟨?_, t, cs, g cs, rfl, rfl⟩
        rw [Node.findPath?, if_pos (taken t ht)]
        rfl
      refine (MeetsSame.element own ?_).cons (rest ns) (forall₂_isStill_refl _)
      rw [same]
      exact rest cs
  | @inside t cs ds ns _ below ih =>
      -- the element holds the one that is changed
      have own : IsStill (.element t cs) (.element t ds) := by
        refine .inr ⟨?_, t, cs, ds, rfl, rfl⟩
        rw [Option.isSome_iff_ne_none]
        intro none
        rw [findPath?_element_eq_none] at none
        exact below.findPath?_ne_none (findPath?_of_frames taken none.2)
      exact (MeetsSame.element own ih.1).cons (rest ns) (forall₂_isStill_refl _)
  | document _ ih => exact (MeetsSame.document ih.1).cons (rest _) (forall₂_isStill_refl _)
  | next _ ih => exact (MeetsSame.refl _).cons ih.1 ih.2

/-! ## Adding functions -/

/-- Scripts that hold text are met as nothing, and nothing is joined to one. -/
theorem walks_append_functions (cs : List Node) (codes : List String) :
    walks (cs ++ codes.map functionScript) = walks cs ∧
      others (cs ++ codes.map functionScript) = others cs := by
  induction cs with
  | nil =>
      induction codes with
      | nil => exact ⟨rfl, rfl⟩
      | cons code codes ih =>
          rw [List.nil_append] at ih
          exact ⟨ih.1, rfl⟩
  | cons c cs ih =>
      rw [List.cons_append, walks, walks, others, others, ih.1, ih.2]
      exact ⟨rfl, rfl⟩

/-- A head in front of the first element leaves what is met. -/
theorem walks_insertBeforeElement (codes : List String) (cs : List Node) :
    walks (insertBeforeElement (newHead (codes.map functionScript)) cs) = walks cs := by
  have new (others : List Node) :
      Node.walks others (newHead (codes.map functionScript)) = [] := by
    have plain : isTarget { name := "head" } = false := by decide +kernel
    rw [newHead, Node.walks, plain, if_neg Bool.false_ne_true]
    exact (walks_append_functions [] codes).1
  induction cs with
  | nil => exact congrArg (· ++ []) (new [])
  | cons c cs ih =>
      rw [insertBeforeElement]
      split
      · rw [walks, new]
        rfl
      · rename_i other
        have alone (others others' : List Node) : Node.walks others c = Node.walks others' c := by
          cases c with
          | element t ds => exact absurd rfl other
          | document _ | text _ | comment _ | doctype _ | markup _ => rfl
        rw [walks, walks, ih, alone]

/-- Functions that are added do not change what is met. -/
theorem walks_place (codes : List String) (doc : Document) :
    List.Forall₂ (List.Forall₂ IsStill) (walks doc) (walks (place codes doc)) := by
  have same (ns : List Node) : List.Forall₂ (List.Forall₂ IsStill) (walks ns) (walks ns) :=
    List.forall₂_same.mpr fun ns _ => forall₂_isStill_refl ns
  refine place_cases codes doc ?nothing ?head ?html ?bare
  case nothing => exact fun _ => same doc
  case head =>
    exact fun path found => (walks_of_changed (changed_replaceAt doc path found)
      (fun t ht => by rw [takesFunctions, Bool.or_eq_true]; exact .inl ht)
      fun cs => (walks_append_functions cs codes).1).1
  case html =>
    exact fun _ path found => (walks_of_changed (changed_replaceAt doc path found)
      (fun t ht => by rw [takesFunctions, Bool.or_eq_true]; exact .inr ht)
      (walks_insertBeforeElement codes)).1
  case bare =>
    intro _
    rw [walks_insertBeforeElement]
    exact same doc

/-! ## Replacing an element -/

mutual

theorem Node.walks_of_none : ∀ n : Node, n.findPath? isTarget = none → ∀ others,
    Node.walks others n = []
  | .element t cs, absent, others => by
      rw [findPath?_element_eq_none] at absent
      rw [Node.walks, absent.1, if_neg Bool.false_ne_true, walks_of_none cs absent.2]
  | .document cs, absent, _ => walks_of_none cs absent
  | .text _, _, _ | .comment _, _, _ | .doctype _, _, _ | .markup _, _, _ => rfl

/-- Without directives nothing is met. -/
theorem walks_of_none : ∀ cs : List Node, findPath? isTarget cs = none → walks cs = []
  | [], _ => rfl
  | c :: cs, absent => by
      rw [findPath?_cons_eq_none] at absent
      rw [walks, Node.walks_of_none c absent.1, walks_of_none cs absent.2]
      rfl

end

section

variable {code? : Option String}

/-- What an element is replaced by is met as nothing. -/
theorem walks_writeScript (ns : List Node) :
    walks ((code?.map writeScript).toList ++ ns) = walks ns := by
  cases code? <;> rfl

mutual

theorem Node.walks_found : ∀ (n : Node) (path : Path) (ns : List Node),
    n.findPath? isTarget = some path → ∃ t cs rest, isTarget t ∧
      siblingsAt (0 :: path) (n :: ns) = .element t cs :: rest ∧
      walks (n :: ns) = metAt t cs (walks cs).flatten (others rest) ::
        walks (replaceAt (fun _ => (code?.map writeScript).toList) (0 :: path) (n :: ns))
  | .element t cs, path, ns, h => by
      -- the element itself is found, or one in it, and then the rest of the walk stays
      rw [Node.findPath?] at h
      split at h
      · rename_i target
        cases h
        refine ⟨t, cs, ns, target, rfl, ?_⟩
        have whole : replaceAt (fun _ => (code?.map writeScript).toList) [0]
            (Node.element t cs :: ns) = (code?.map writeScript).toList ++ ns := by
          simp [replaceAt]
        rw [whole, walks_writeScript, walks, Node.walks, if_pos target]
        rfl
      · rename_i target
        have inner := findPath?_ne_nil h
        obtain ⟨u, ds, rest, hu, found, met⟩ := walks_found cs path h
        refine ⟨u, ds, rest, hu, ?_, ?_⟩
        · rw [siblingsAt_first _ _ inner]
          exact found
        · rw [replaceAt_first _ _ inner, Node.mapChildren, walks, walks, Node.walks, Node.walks,
            if_neg target, if_neg target, met]
          rfl
  | .document cs, path, ns, h => by
      rw [Node.findPath?] at h
      have inner := findPath?_ne_nil h
      obtain ⟨u, ds, rest, hu, found, met⟩ := walks_found cs path h
      refine ⟨u, ds, rest, hu, ?_, ?_⟩
      · rw [siblingsAt_first _ _ inner]
        exact found
      · rw [replaceAt_first _ _ inner, Node.mapChildren, walks, walks, Node.walks, Node.walks, met]
        rfl
  | .text _, _, _, h | .comment _, _, _, h | .doctype _, _, _, h | .markup _, _, _, h => by
      cases h

/-- What is met at the first element with a directive comes first, and the rest is what
is met once the element has given way to its code. -/
theorem walks_found : ∀ (ns : List Node) (path : Path), findPath? isTarget ns = some path →
    ∃ t cs rest, isTarget t ∧ siblingsAt path ns = .element t cs :: rest ∧
      walks ns = metAt t cs (walks cs).flatten (others rest) ::
        walks (replaceAt (fun _ => (code?.map writeScript).toList) path ns)
  | [], _, h => by cases h
  | n :: ns, path, h => by
      rw [findPath?] at h
      split at h
      · rename_i path' hn
        cases h
        exact Node.walks_found n path' ns hn
      · -- in front of the first one nothing is met
        rename_i none
        obtain ⟨path', hpath, rfl⟩ := Option.map_eq_some_iff.mp h
        have inner := findPath?_ne_nil hpath
        obtain ⟨t, cs, rest, ht, found, met⟩ := walks_found ns path' hpath
        refine ⟨t, cs, rest, ht, ?_, ?_⟩
        · rw [siblingsAt_shift n ns inner]
          exact found
        · rw [replaceAt_shift n ns inner, walks, walks, Node.walks_of_none n none,
            Node.walks_of_none n none, List.nil_append, List.nil_append, met]

end

end

/-! ## Scripts hold text -/

section

variable {q p : Tag → Bool} {f : Node → List Node} {ns ms : List Node} {doc : Document}

theorem not_isText_of_changed (h : Changed p f ns ms) : ¬ ns.all Node.isText := by
  induction h with
  | here _ | inside _ _ _ | document _ _ => simp [Node.isText]
  | next _ ih =>
      rw [List.all_cons, Bool.and_eq_true]
      exact fun h => ih h.2

/-- A change keeps what is asked for of tags and scripts if it is kept at the element. -/
theorem tidy_of_changed (h : Changed p f ns ms)
    (here : ∀ t cs, p t → Tidy q [.element t cs] → Tidy q (f (.element t cs)))
    (tidy : Tidy q ns) : Tidy q ms := by
  induction h with
  | here hp =>
      rw [tidy_cons] at tidy
      exact tidy_append.mpr ⟨here _ _ hp tidy.1, tidy.2⟩
  | inside _ below ih =>
      rw [tidy_cons, tidy_element] at tidy
      rw [tidy_cons, tidy_element]
      obtain ⟨⟨tag, text, inner⟩, rest⟩ := tidy
      -- a script holds text, so the change is not inside one
      refine ⟨⟨tag, fun script => ?_, ih inner⟩, rest⟩
      exact absurd (text script) (not_isText_of_changed below)
  | document _ ih =>
      rw [tidy_cons, tidy_document] at tidy ⊢
      exact ⟨ih tidy.1, tidy.2⟩
  | next _ ih =>
      rw [tidy_cons] at tidy ⊢
      exact ⟨tidy.1, ih tidy.2⟩

theorem tidy_mapChildren {g : List Node → List Node} {name : String} {path : Path}
    (found : findPath? (Tag.isNamed name) doc = some path) (other : name ≠ "script")
    (below : ∀ cs, Tidy q cs → Tidy q (g cs)) (tidy : Tidy q doc) :
    Tidy q (modifyAt (Node.mapChildren g) path doc) := by
  refine tidy_of_changed (changed_replaceAt doc path found) (fun t cs ht own => ?_) tidy
  rw [tidy_element] at own
  exact tidy_element.mpr
    ⟨own.1, fun script => absurd script (ne_of_isNamed other t ht), below cs own.2.2⟩

theorem tidy_moveDirectives (name : String) (tidy : Tidy q doc) :
    Tidy q (moveDirectives name doc) := by
  unfold Markup.moveDirectives moveToEndOfHead
  split
  · exact tidy
  · rename_i path found
    refine tidy_mapChildren found (by decide) (fun cs below => ?_) tidy
    exact tidy_append.mpr (tidy_pullOut cs below)

theorem tidy_prepare (joined : ∀ t, t.isCompapply → q t → q (join t)) (tidy : Tidy q doc) :
    Tidy q (prepare doc) := by
  have moved := tidy_moveDirectives "meta" (tidy_moveDirectives "title" tidy)
  exact ⟨allTags_group (p := q) joined false _ moved.tags, plainScripts_group false _ moved.scripts⟩

theorem tidy_functions (scripts : ∀ t : Tag, t.name = "script" → q t) (codes : List String) :
    Tidy q (codes.map functionScript) := by
  induction codes with
  | nil => exact .nil
  | cons code codes ih =>
      rw [List.map_cons, tidy_cons]
      exact ⟨tidy_element.mpr ⟨scripts _ rfl, fun _ => rfl, rfl, rfl⟩, ih⟩

theorem tidy_insertBeforeElement {n : Node} (new : Tidy q [n]) (tidy : Tidy q ns) :
    Tidy q (insertBeforeElement n ns) := by
  induction ns with
  | nil => exact new
  | cons c cs ih =>
      rw [insertBeforeElement]
      split
      · exact tidy_cons.mpr ⟨new, tidy⟩
      · rw [tidy_cons] at tidy ⊢
        exact ⟨tidy.1, ih tidy.2⟩

theorem tidy_place (created : ∀ t : Tag, t.name = "script" ∨ t.name = "head" → q t)
    (codes : List String) (tidy : Tidy q doc) : Tidy q (place codes doc) := by
  have functions := tidy_functions (fun t name => created t (.inl name)) codes
  have head : Tidy q [newHead (codes.map functionScript)] :=
    tidy_element.mpr ⟨created _ (.inr rfl), fun script => absurd script (by decide), functions⟩
  refine place_cases codes doc ?nothing ?head ?html ?bare
  case nothing => exact fun _ => tidy
  case head =>
    exact fun path found => tidy_mapChildren found (by decide)
      (fun cs below => tidy_append.mpr ⟨below, functions⟩) tidy
  case html =>
    exact fun _ path found => tidy_mapChildren found (by decide)
      (fun cs => tidy_insertBeforeElement head) tidy
  case bare => exact fun _ => tidy_insertBeforeElement head tidy

theorem tidy_replaceFirst (scripts : ∀ t : Tag, t.name = "script" → q t) (code? : Option String)
    {p : Progress} (tidy : Tidy q p.doc) : Tidy q (replaceFirst code? p).doc := by
  unfold replaceFirst
  split
  · exact tidy
  · rename_i path found
    refine tidy_of_changed (changed_replaceAt p.doc path found) (fun t cs _ _ => ?_) tidy
    cases code? with
    | none => exact .nil
    | some code => exact tidy_element.mpr ⟨scripts _ rfl, fun _ => rfl, rfl, rfl⟩

end

/-! ## One step -/

/-- An element with a directive is still found when functions are added. -/
theorem findPath?_place {doc : Document} {path : Path} (codes : List String)
    (found : findPath? isTarget doc = some path) :
    ∃ path', findPath? isTarget (place codes doc) = some path' := by
  obtain ⟨t, cs, behind, target, here, met⟩ := @walks_found none doc path found
  have placed := walks_place codes doc
  cases h : findPath? isTarget (place codes doc) with
  | none =>
      rw [met, walks_of_none _ h] at placed
      cases placed
  | some path' => exact ⟨path', rfl⟩

/-- A step leaves fewer elements with directives. -/
theorem length_findPaths_step (code? : Option String) (codes : List String) (doc : Document)
    (generated : Nat) :
    (findPaths isTarget (replaceFirst code? { doc := place codes doc, generated }).doc).length
      ≤ (findPaths isTarget doc).length - 1 := by
  have start : GrownOnce isTarget (strip doc) doc :=
    ⟨0, Nat.zero_le 1, grown_strip doc, fun _ => rfl⟩
  have placed := length_findPaths_place codes doc
  have replaced :=
    (replaceFirst_grown code? { doc := place codes doc, generated } (start.place codes)).2
  dsimp only at replaced
  omega

/-- Of what is met in a document, the code of the first element with a directive deals
with the first part, and the rest is what is met when the step is done. -/
theorem step_meets {o : Options} (split : o.split = false) {p : Progress}
    (plain : plainScripts p.doc) {path : Path} (found : findPath? isTarget p.doc = some path) :
    ∃ t cs behind rest, siblingsAt path p.doc = .element t cs :: behind ∧ isTarget t ∧
      walks p.doc = metAt t cs (walks cs).flatten (others behind) :: rest ∧
      Follows o ((Node.element t cs).findPath? takesFunctions = none ∧
          ∀ n ∈ behind, isJoined n → n.findPath? takesFunctions = none)
        (metAt t cs (walks cs).flatten (others behind))
        (firstCode o ((Site.ofDocument p.doc).mapPath (seenFrom path)) false false
          (siblingsAt path p.doc)) ∧
      ∀ code? codes generated, List.Forall₂ (List.Forall₂ IsStill) rest
        (walks (replaceFirst code? { doc := place codes p.doc, generated }).doc) := by
  obtain ⟨t, cs, behind, target, here, met⟩ := @walks_found none p.doc path found
  refine ⟨t, cs, behind, _, here, target, met, firstCode_follows split plain here target,
    fun code? codes generated => ?_⟩
  have placed := walks_place codes p.doc
  rw [met] at placed
  obtain ⟨path', found'⟩ := findPath?_place codes found
  obtain ⟨_, _, _, _, _, met'⟩ := @walks_found code? (place codes p.doc) path' found'
  unfold replaceFirst
  rw [found']
  rw [met'] at placed
  cases placed with
  | cons _ rest => exact rest

end PageTemplates.Compile
