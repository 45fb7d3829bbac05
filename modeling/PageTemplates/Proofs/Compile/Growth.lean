import PageTemplates.Compile.Inline
import PageTemplates.Proofs.Markup.Change

/-!
# What compiling adds to a document

Compiling in place takes elements with directives away and puts scripts in
their place, adds functions to the end of a head, and makes a head if there is
none. The main facts:

* `Grown pending made es ds`: `ds` are the nodes `es` with such additions, among
  them `made` heads, and with elements that are still `pending`;
* `Grown.change`: a change of one element keeps this, if it does so where the
  element stands;
* `place_cases`: where functions go that are added to a document;
* `GrownOnce.place`, `Grown.replaceTarget`: the two steps of compiling an
  element.
-/

namespace PageTemplates.Compile

open Markup

/-- Whether a node has no nodes below it by its kind. -/
def Node.isLeaf : Node → Bool
  | .document _ | .element _ _ => false
  | _ => true

/-- The nodes `ds` are the nodes `es`, in the same order and with the same tags,
and what compiling adds: scripts that write, functions at the end of heads, and
heads that hold only functions. The number is how many heads were added.
Elements whose tags are `pending` may stand anywhere in `ds`, and are not among
`es`. -/
inductive Grown (pending : Tag → Bool) : Nat → List Node → List Node → Prop where
  | nil : Grown pending 0 [] []
  | leaf {made : Nat} {n : Node} {es ds : List Node} (h : Node.isLeaf n)
      (rest : Grown pending made es ds) : Grown pending made (n :: es) (n :: ds)
  | element {made made' : Nat} {t : Tag} {codes : List String} {es ds es' ds' : List Node}
      (kept : pending t = false) (functions : codes = [] ∨ t.name = "head")
      (below : Grown pending made es' ds') (rest : Grown pending made' es ds) :
      Grown pending (made + made') (.element t es' :: es)
        (.element t (ds' ++ codes.map functionScript) :: ds)
  | document {made made' : Nat} {es ds es' ds' : List Node} (below : Grown pending made es' ds')
      (rest : Grown pending made' es ds) :
      Grown pending (made + made') (.document es' :: es) (.document ds' :: ds)
  | target {made : Nat} {t : Tag} {es ds ds' : List Node} (h : pending t)
      (rest : Grown pending made es ds) : Grown pending made es (.element t ds' :: ds)
  | write {made : Nat} {es ds : List Node} (code : String) (rest : Grown pending made es ds) :
      Grown pending made es (writeScript code :: ds)
  | head {made : Nat} {es ds : List Node} (codes : List String) (rest : Grown pending made es ds) :
      Grown pending (made + 1) es (newHead (codes.map functionScript) :: ds)

/-- Nothing is found in functions that is not found in a script. -/
theorem findPath?_functions {p : Tag → Bool} (scripts : ∀ t : Tag, t.name = "script" → p t = false)
    (codes : List String) : findPath? p (codes.map functionScript) = none := by
  induction codes with
  | nil => rfl
  | cons code codes ih =>
      rw [List.map_cons, findPath?_cons_eq_none]
      refine ⟨?_, ih⟩
      rw [functionScript, Node.script, findPath?_element_eq_none]
      exact ⟨scripts _ rfl, rfl⟩

namespace Grown

variable {pending p : Tag → Bool} {f : Node → List Node} {made : Nat} {es ns ms : List Node}

/-- A change keeps what was added, if it does so where the changed element
stands. -/
theorem change {k : Nat} (scripts : ∀ t : Tag, t.name = "script" → p t = false)
    (here : ∀ made es t cs ns, p t → Grown pending made es (.element t cs :: ns) →
      ∃ made' ≤ made + k, Grown pending made' es (f (.element t cs) ++ ns))
    (hg : Grown pending made es ns) (hc : Changed p f ns ms) :
    ∃ made' ≤ made + k, Grown pending made' es ms := by
  induction hg generalizing ms with
  | nil => cases hc
  | leaf h rest ih =>
      cases hc with
      | here _ => cases h
      | inside _ _ => cases h
      | document _ => cases h
      | next later =>
          obtain ⟨made', hle, hrest⟩ := ih later
          exact ⟨made', hle, .leaf h hrest⟩
  | element kept functions below rest ihbelow ihrest =>
      cases hc with
      | here ht => exact here _ _ _ _ _ ht (.element kept functions below rest)
      | inside ht inner =>
          -- there is nothing to change in the functions, so it is in front of them
          obtain ⟨ds, hds, rfl⟩ := inner.of_append (findPath?_functions scripts _)
          obtain ⟨made', hle, hbelow⟩ := ihbelow hds
          exact ⟨_, by omega, .element kept functions hbelow rest⟩
      | next later =>
          obtain ⟨made', hle, hrest⟩ := ihrest later
          exact ⟨_, by omega, .element kept functions below hrest⟩
  | document below rest ihbelow ihrest =>
      cases hc with
      | document inner =>
          obtain ⟨made', hle, hbelow⟩ := ihbelow inner
          exact ⟨_, by omega, .document hbelow rest⟩
      | next later =>
          obtain ⟨made', hle, hrest⟩ := ihrest later
          exact ⟨_, by omega, .document below hrest⟩
  | target h rest ih =>
      cases hc with
      | here ht => exact here _ _ _ _ _ ht (.target h rest)
      | inside _ _ =>
          -- a pending element may hold anything
          exact ⟨_, Nat.le_add_right _ _, .target h rest⟩
      | next later =>
          obtain ⟨made', hle, hrest⟩ := ih later
          exact ⟨made', hle, .target h hrest⟩
  | write code rest ih =>
      cases hc with
      | here ht => exact here _ _ _ _ _ ht (.write code rest)
      | inside _ inner => exact absurd rfl inner.findPath?_ne_none
      | next later =>
          obtain ⟨made', hle, hrest⟩ := ih later
          exact ⟨made', hle, .write code hrest⟩
  | head codes rest ih =>
      cases hc with
      | here ht => exact here _ _ _ _ _ ht (.head codes rest)
      | inside _ inner =>
          exact absurd (findPath?_functions scripts codes) inner.findPath?_ne_none
      | next later =>
          obtain ⟨made', hle, hrest⟩ := ih later
          exact ⟨made' + 1, by omega, .head codes hrest⟩

/-! ## Steps -/

/-- An element with a directive gives way to a script, or to nothing. -/
theorem replaceTarget {code? : Option String} (hg : Grown isTarget made es ns)
    (hc : Changed isTarget (fun _ => (code?.map writeScript).toList) ns ms) :
    ∃ made' ≤ made, Grown isTarget made' es ms := by
  refine hg.change (k := 0) (fun t ht => ?_) ?_ hc
  · simp [isTarget, ht]
  · intro made es t cs ns ht hg
    cases hg with
    | leaf h _ => cases h
    | element kept _ _ _ => rw [ht] at kept; cases kept
    | target _ rest =>
        refine ⟨made, Nat.le_refl _, ?_⟩
        cases code? with
        | none => exact rest
        | some code => exact .write code rest
    | write code _ => cases ht
    | head codes _ => cases ht

/-- Functions go to the end of a head. -/
theorem appendFunctions {codes : List String} (hg : Grown pending made es ns)
    (hc : Changed (Tag.isNamed "head")
      (fun n => [n.mapChildren (· ++ codes.map functionScript)]) ns ms) :
    ∃ made' ≤ made, Grown pending made' es ms := by
  refine hg.change (k := 0) (fun t ht => ?_) ?_ hc
  · simp [Tag.isNamed, ht]
  · intro made es t cs ns ht hg
    refine ⟨made, Nat.le_refl _, ?_⟩
    rw [Tag.isNamed, beq_iff_eq] at ht
    cases hg with
    | leaf h _ => cases h
    | @element _ _ _ codes' _ _ _ ds' kept _ below rest =>
        have whole : Grown pending _ _
            (.element t (ds' ++ (codes' ++ codes).map functionScript) :: ns) :=
          .element kept (.inr ht) below rest
        rw [List.map_append, ← List.append_assoc] at whole
        exact whole
    | target h rest => exact .target h rest
    | write code _ => exact absurd ht (by decide)
    | head codes' rest =>
        have whole := Grown.head (codes' ++ codes) rest
        rw [List.map_append] at whole
        exact whole

/-- A head is made in front of the first element. -/
theorem insertHead (codes : List String) (hg : Grown pending made es ns) :
    Grown pending (made + 1) es (insertBeforeElement (newHead (codes.map functionScript)) ns) := by
  induction hg with
  | nil => exact .head codes .nil
  | @leaf _ n _ _ h rest ih =>
      have notElement : n.isElement = false := by
        cases n <;> first | rfl | cases h
      rw [insertBeforeElement, notElement]
      exact .leaf h ih
  | element kept functions below rest _ _ => exact .head codes (.element kept functions below rest)
  | document below _ _ ih =>
      have whole := Grown.document below ih
      exact whole
  | target h rest _ => exact .head codes (.target h rest)
  | write code rest _ => exact .head codes (.write code rest)
  | head codes' rest _ => exact .head codes (.head codes' rest)

/-- The same below an element that is not a head itself. -/
theorem insertHeadBelow {codes : List String} (hg : Grown pending made es ns)
    (hc : Changed (Tag.isNamed "html")
      (fun n => [n.mapChildren (insertBeforeElement (newHead (codes.map functionScript)))]) ns ms) :
    ∃ made' ≤ made + 1, Grown pending made' es ms := by
  refine hg.change (fun t ht => ?_) ?_ hc
  · simp [Tag.isNamed, ht]
  · intro made es t cs ns ht hg
    rw [Tag.isNamed, beq_iff_eq] at ht
    cases hg with
    | leaf h _ => cases h
    | @element _ _ _ codes' _ _ _ ds' kept functions below rest =>
        -- the element is no head, so no functions stand at its end
        obtain rfl : codes' = [] := functions.resolve_right (by rw [ht]; decide)
        have whole := Grown.element kept (.inl rfl) (below.insertHead codes) rest
        rw [List.map_nil, List.append_nil] at whole ⊢
        exact ⟨_, by omega, whole⟩
    | target h rest => exact ⟨_, Nat.le_succ _, .target h rest⟩
    | write code _ => exact absurd ht (by decide)
    | head codes' rest => exact absurd ht (by decide)

/-- Without a head nothing was made, and there was none before. -/
theorem no_head (hg : Grown pending made es ns) (none : findPath? (Tag.isNamed "head") ns = none) :
    made = 0 ∧ findPath? (Tag.isNamed "head") es = .none := by
  induction hg with
  | nil => exact ⟨rfl, rfl⟩
  | leaf h rest ih =>
      rw [findPath?_cons_eq_none] at none ⊢
      exact ⟨(ih none.2).1, none.1, (ih none.2).2⟩
  | element kept functions below rest ihbelow ihrest =>
      rw [findPath?_cons_eq_none, findPath?_element_eq_none, findPath?_append_eq_none] at none
      obtain ⟨⟨ht, hbelow, -⟩, hrest⟩ := none
      rw [findPath?_cons_eq_none, findPath?_element_eq_none, (ihbelow hbelow).1, (ihrest hrest).1]
      exact ⟨rfl, ⟨ht, (ihbelow hbelow).2⟩, (ihrest hrest).2⟩
  | document below rest ihbelow ihrest =>
      rw [findPath?_cons_eq_none, Node.findPath?] at none
      rw [findPath?_cons_eq_none, Node.findPath?, (ihbelow none.1).1, (ihrest none.2).1]
      exact ⟨rfl, (ihbelow none.1).2, (ihrest none.2).2⟩
  | target h rest ih => exact ih (findPath?_cons_eq_none.mp none).2
  | write code rest ih => exact ih (findPath?_cons_eq_none.mp none).2
  | head codes rest _ => cases (findPath?_cons_eq_none.mp none).1

/-- Once nothing is pending, all that stands among the nodes was added. -/
theorem settle (hg : Grown pending made es ns) (none : findPath? pending ns = none) :
    Grown (fun _ => false) made es ns := by
  induction hg with
  | nil => exact .nil
  | leaf h rest ih => exact .leaf h (ih (findPath?_cons_eq_none.mp none).2)
  | element kept functions below rest ihbelow ihrest =>
      rw [findPath?_cons_eq_none, findPath?_element_eq_none, findPath?_append_eq_none] at none
      exact .element rfl functions (ihbelow none.1.2.1) (ihrest none.2)
  | document below rest ihbelow ihrest =>
      rw [findPath?_cons_eq_none, Node.findPath?] at none
      exact .document (ihbelow none.1) (ihrest none.2)
  | target h rest _ =>
      rw [findPath?_cons_eq_none, findPath?_element_eq_none, h] at none
      cases none.1.1
  | write code rest ih => exact .write code (ih (findPath?_cons_eq_none.mp none).2)
  | head codes rest ih => exact .head codes (ih (findPath?_cons_eq_none.mp none).2)

end Grown

/-- A document with added functions is the document itself if there are none; or it has them at
the end of its head; or, without a head, it has a new one that holds them in front of the first
element of `<html>` or of the document. -/
@[elab_as_elim]
theorem place_cases {motive : Document → Prop} (codes : List String) (doc : Document)
    (nothing : codes = [] → motive doc)
    (head : ∀ path, findPath? (Tag.isNamed "head") doc = some path →
      motive (modifyAt (Node.mapChildren (· ++ codes.map functionScript)) path doc))
    (html : findPath? (Tag.isNamed "head") doc = none →
      ∀ path, findPath? (Tag.isNamed "html") doc = some path →
        motive (modifyAt
          (Node.mapChildren (insertBeforeElement (newHead (codes.map functionScript)))) path doc))
    (bare : findPath? (Tag.isNamed "head") doc = none →
      motive (insertBeforeElement (newHead (codes.map functionScript)) doc)) :
    motive (place codes doc) := by
  unfold place
  split
  · exact nothing (List.isEmpty_iff.mp ‹_›)
  unfold appendToHead
  cases absent : findPath? (Tag.isNamed "head") doc with
  | some path => exact head path absent
  | none =>
      dsimp only
      split
      · exact html absent _ ‹_›
      · exact bare absent

/-- The nodes `ds` are the nodes `es` and what compiling adds, where a head is
made only if there is none, and only one. -/
def GrownOnce (pending : Tag → Bool) (es ds : List Node) : Prop :=
  ∃ made ≤ 1, Grown pending made es ds ∧
    ((findPath? (Tag.isNamed "head") es).isSome → made = 0)

namespace GrownOnce

variable {pending : Tag → Bool} {es ns ms : List Node}

theorem of_le {made made' : Nat} (h : Grown pending made' es ms) (hle : made' ≤ made)
    (one : made ≤ 1) (none : (findPath? (Tag.isNamed "head") es).isSome → made = 0) :
    GrownOnce pending es ms :=
  ⟨made', by omega, h, fun hs => by have := none hs; omega⟩

/-- Adding functions, with a head for them if there is none. -/
theorem place (codes : List String) (h : GrownOnce pending es ns) :
    GrownOnce pending es (place codes ns) := by
  obtain ⟨made, one, hg, none⟩ := h
  -- without a head now, none was made before, and this is the only one
  have free (absent : findPath? (Tag.isNamed "head") ns = Option.none) :
      made = 0 ∧ ((findPath? (Tag.isNamed "head") es).isSome → (1 : Nat) = 0) := by
    obtain ⟨rfl, noHead⟩ := hg.no_head absent
    refine ⟨rfl, fun some => ?_⟩
    rw [noHead] at some
    cases some
  refine place_cases codes ns ?nothing ?head ?html ?bare
  case nothing => exact fun _ => ⟨made, one, hg, none⟩
  case head =>
    intro path found
    obtain ⟨made', hle, hg'⟩ := hg.appendFunctions (changed_replaceAt ns path found)
    exact of_le hg' hle one none
  case html =>
    intro absent path found
    obtain ⟨rfl, noHead⟩ := free absent
    obtain ⟨made', hle, hg'⟩ := hg.insertHeadBelow (changed_replaceAt ns path found)
    exact of_le hg' hle (Nat.le_refl 1) noHead
  case bare =>
    intro absent
    obtain ⟨rfl, noHead⟩ := free absent
    exact ⟨1, Nat.le_refl 1, hg.insertHead codes, noHead⟩

end GrownOnce

end PageTemplates.Compile
