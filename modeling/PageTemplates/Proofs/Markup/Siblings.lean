import PageTemplates.Proofs.Markup.Change

/-!
# Places among siblings

Where an element is found that has nothing to be found in front of it, and which
of the siblings a change is about. The main facts:

* `findPath?_append_first`, `findPath?_append_below`: the first place is that of
  the element, or below it;
* `siblingsAt_append`, `replaceAt_append`: what is there, and what it is replaced
  by;
* `Changed.cases_append`: a change is in front of an element, below it, or behind
  it.
-/

namespace PageTemplates.Markup

variable {p : Tag → Bool} {f : Node → List Node} {t : Tag} {cs ns ms : List Node} {path : Path}

theorem findPath?_append_first (none : findPath? p ns = none) (h : p t) :
    findPath? p (ns ++ .element t cs :: ms) = some [ns.length] := by
  induction ns with
  | nil => simp [findPath?, Node.findPath?, h]
  | cons n ns ih =>
      rw [findPath?_cons_eq_none] at none
      rw [List.cons_append, findPath?, none.1, ih none.2]
      rfl

theorem findPath?_append_below (none : findPath? p ns = none) (h : p t = false)
    (below : findPath? p cs = some path) :
    findPath? p (ns ++ .element t cs :: ms) = some (ns.length :: path) := by
  induction ns with
  | nil => simp [findPath?, Node.findPath?, h, below]
  | cons n ns ih =>
      rw [findPath?_cons_eq_none] at none
      rw [List.cons_append, findPath?, none.1, ih none.2]
      rfl

theorem siblingsAt_append (n : Node) (inner : path ≠ []) :
    siblingsAt (ns.length :: path) (ns ++ n :: ms) = siblingsAt path n.children := by
  induction ns with
  | nil => exact siblingsAt_first n ms inner
  | cons m ns ih =>
      rw [← ih, List.cons_append]
      exact siblingsAt_shift m _ (List.cons_ne_nil ns.length path)

theorem replaceAt_append (n : Node) (inner : path ≠ []) :
    replaceAt f (ns.length :: path) (ns ++ n :: ms)
      = ns ++ n.mapChildren (replaceAt f path) :: ms := by
  induction ns with
  | nil => exact replaceAt_first n ms inner
  | cons m ns ih =>
      rw [List.cons_append, List.cons_append, ← ih]
      exact replaceAt_shift m _ (List.cons_ne_nil ns.length path)

theorem replaceAt_length (n : Node) :
    replaceAt f [ns.length] (ns ++ n :: ms) = ns ++ (f n ++ ms) := by
  simp [replaceAt]

/-- A change of siblings is one of the first of them or one of the others. -/
theorem Changed.cases_cons {n : Node} {zs : List Node} (h : Changed p f (n :: ns) zs) :
    (∃ new, Changed p f [n] new ∧ zs = new ++ ns) ∨ ∃ ms, Changed p f ns ms ∧ zs = n :: ms := by
  cases h with
  | here hp => exact .inl ⟨_, .here hp, by rw [List.append_nil]⟩
  | inside hu below => exact .inl ⟨_, .inside hu below, rfl⟩
  | document below => exact .inl ⟨_, .document below, rfl⟩
  | next later => exact .inr ⟨_, later, rfl⟩

theorem Changed.later {n : Node} {zs : List Node} (h : Changed p f (n :: ns) zs)
    (none : n.findPath? p = none) : ∃ ms, Changed p f ns ms ∧ zs = n :: ms := by
  refine h.cases_cons.resolve_left ?_
  rintro ⟨_, first, -⟩
  exact first.findPath?_ne_none (findPath?_cons_eq_none.mpr ⟨none, rfl⟩)

/-- A change is one of the siblings behind a node if there is nothing to be found
before. -/
theorem Changed.behind {n : Node} {zs : List Node} (h : Changed p f (ns ++ n :: ms) zs)
    (none : findPath? p ns = none) (here : n.findPath? p = .none) :
    ∃ ms', Changed p f ms ms' ∧ zs = ns ++ n :: ms' := by
  induction ns generalizing zs with
  | nil => exact h.later here
  | cons m ns ih =>
      rw [findPath?_cons_eq_none] at none
      obtain ⟨zs', h', rfl⟩ := h.later none.1
      obtain ⟨ms', h'', rfl⟩ := ih h' none.2
      exact ⟨ms', h'', rfl⟩

/-- A change of siblings is one in front of an element, below it, or behind
it. -/
theorem Changed.cases_append {zs : List Node} (h : Changed p f (ns ++ .element t cs :: ms) zs)
    (ht : p t = false) :
    (∃ ns', Changed p f ns ns' ∧ zs = ns' ++ .element t cs :: ms) ∨
    (∃ cs', Changed p f cs cs' ∧ zs = ns ++ .element t cs' :: ms) ∨
    (∃ ms', Changed p f ms ms' ∧ zs = ns ++ .element t cs :: ms') := by
  induction ns generalizing zs with
  | nil =>
      cases h with
      | here hp => rw [ht] at hp; cases hp
      | inside _ below => exact .inr (.inl ⟨_, below, rfl⟩)
      | next later => exact .inr (.inr ⟨_, later, rfl⟩)
  | cons n ns ih =>
      rw [List.cons_append] at h
      cases h with
      | here hp => exact .inl ⟨_, .here hp, (List.append_assoc _ _ _).symm⟩
      | inside hu below => exact .inl ⟨_, .inside hu below, rfl⟩
      | document below => exact .inl ⟨_, .document below, rfl⟩
      | next later =>
          rcases ih later with ⟨ns', h', rfl⟩ | ⟨cs', h', rfl⟩ | ⟨ms', h', rfl⟩
          · exact .inl ⟨n :: ns', .next h', rfl⟩
          · exact .inr (.inl ⟨cs', h', rfl⟩)
          · exact .inr (.inr ⟨ms', h', rfl⟩)

end PageTemplates.Markup
