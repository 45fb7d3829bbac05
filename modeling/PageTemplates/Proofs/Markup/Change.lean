import PageTemplates.Markup.Head

/-!
# Changing one element

An element is looked for in document order and replaced where it was found. The
main facts:

* `Changed p f ns ms`: one element of `ns` that satisfies `p`, and is not inside
  another such element, was replaced by what `f` makes of it;
* `replaced_found`: the first element found stands at its place and is the one
  that is replaced;
* `changed_replaceAt`: replacing it is such a change;
* `Changed.length_findPaths`: what a change does to the number of elements of a
  kind.
-/

namespace PageTemplates.Markup

/-- One element that satisfies `p`, outside of others that do, is replaced by
what `f` makes of it. -/
inductive Changed (p : Tag → Bool) (f : Node → List Node) : List Node → List Node → Prop where
  | here {t : Tag} {cs ns : List Node} (h : p t) :
      Changed p f (.element t cs :: ns) (f (.element t cs) ++ ns)
  | inside {t : Tag} {cs ds ns : List Node} (h : p t = false) (below : Changed p f cs ds) :
      Changed p f (.element t cs :: ns) (.element t ds :: ns)
  | document {cs ds ns : List Node} (below : Changed p f cs ds) :
      Changed p f (.document cs :: ns) (.document ds :: ns)
  | next {n : Node} {ns ms : List Node} (later : Changed p f ns ms) :
      Changed p f (n :: ns) (n :: ms)

/-- The node `n` itself, outside of elements that satisfy `p`, is replaced by
the nodes `new`. -/
inductive Replaced (p : Tag → Bool) (n : Node) (new : List Node) :
    List Node → List Node → Prop where
  | here {ns : List Node} : Replaced p n new (n :: ns) (new ++ ns)
  | inside {t : Tag} {cs ds ns : List Node} (h : p t = false) (below : Replaced p n new cs ds) :
      Replaced p n new (.element t cs :: ns) (.element t ds :: ns)
  | document {cs ds ns : List Node} (below : Replaced p n new cs ds) :
      Replaced p n new (.document cs :: ns) (.document ds :: ns)
  | next {m : Node} {ns ms : List Node} (later : Replaced p n new ns ms) :
      Replaced p n new (m :: ns) (m :: ms)

variable {p : Tag → Bool} {f : Node → List Node}

/-! ## Replacing what was found -/

theorem shift_ne_nil {path : Path} (h : path ≠ []) : path.shift ≠ [] := by
  cases path with
  | nil => exact h
  | cons i path => simp [Path.shift]

theorem findPath?_ne_nil {ns : List Node} {path : Path} (h : findPath? p ns = some path) :
    path ≠ [] := by
  induction ns generalizing path with
  | nil => cases h
  | cons n ns ih =>
      rw [findPath?] at h
      split at h
      · cases h
        simp
      · obtain ⟨path', hpath, rfl⟩ := Option.map_eq_some_iff.mp h
        exact shift_ne_nil (ih hpath)

theorem replaceAt_shift (n : Node) (ns : List Node) {path : Path} (h : path ≠ []) :
    replaceAt f path.shift (n :: ns) = n :: replaceAt f path ns := by
  match path, h with
  | [i], _ => simp [Path.shift, replaceAt]
  | i :: j :: path, _ => simp [Path.shift, replaceAt]

theorem replaceAt_first (n : Node) (ns : List Node) {path : Path} (h : path ≠ []) :
    replaceAt f (0 :: path) (n :: ns) = n.mapChildren (replaceAt f path) :: ns := by
  cases path with
  | nil => exact absurd rfl h
  | cons i path => simp [replaceAt]

theorem siblingsAt_shift (n : Node) (ns : List Node) {path : Path} (h : path ≠ []) :
    siblingsAt path.shift (n :: ns) = siblingsAt path ns := by
  match path, h with
  | [i], _ => simp [Path.shift, siblingsAt]
  | i :: j :: path, _ => simp [Path.shift, siblingsAt]

theorem siblingsAt_first (n : Node) (ns : List Node) {path : Path} (h : path ≠ []) :
    siblingsAt (0 :: path) (n :: ns) = siblingsAt path n.children := by
  cases path with
  | nil => exact absurd rfl h
  | cons i path => simp [siblingsAt]

mutual

theorem Node.replaced_found : ∀ (n : Node) (path : Path) (ns : List Node),
    n.findPath? p = some path → ∃ t cs rest, p t ∧
      siblingsAt (0 :: path) (n :: ns) = .element t cs :: rest ∧
      siblingsAt (0 :: path) (replaceAt f (0 :: path) (n :: ns)) = f (.element t cs) ++ rest ∧
      Replaced p (.element t cs) (f (.element t cs)) (n :: ns) (replaceAt f (0 :: path) (n :: ns))
  | .element t cs, path, ns, h => by
      rw [Node.findPath?] at h
      split at h
      · -- the element itself is the first one
        rename_i ht
        cases h
        have whole : replaceAt f [0] (Node.element t cs :: ns) = f (.element t cs) ++ ns := by
          simp [replaceAt]
        rw [whole]
        exact ⟨t, cs, ns, ht, rfl, rfl, .here⟩
      · rename_i ht
        have inner := findPath?_ne_nil h
        obtain ⟨u, ds, rest, hu, found, behind, replaced⟩ := replaced_found cs path h
        rw [siblingsAt_first _ _ inner, replaceAt_first _ _ inner, siblingsAt_first _ _ inner]
        exact ⟨u, ds, rest, hu, found, behind, .inside (by simpa using ht) replaced⟩
  | .document cs, path, ns, h => by
      rw [Node.findPath?] at h
      have inner := findPath?_ne_nil h
      obtain ⟨u, ds, rest, hu, found, behind, replaced⟩ := replaced_found cs path h
      rw [siblingsAt_first _ _ inner, replaceAt_first _ _ inner, siblingsAt_first _ _ inner]
      exact ⟨u, ds, rest, hu, found, behind, .document replaced⟩
  | .text _, _, _, h | .comment _, _, _, h | .doctype _, _, _, h | .markup _, _, _, h => by
      cases h

/-- The first element that was found stands at its place, and what it is replaced
by stands there afterwards. -/
theorem replaced_found : ∀ (ns : List Node) (path : Path), findPath? p ns = some path →
    ∃ t cs rest, p t ∧ siblingsAt path ns = .element t cs :: rest ∧
      siblingsAt path (replaceAt f path ns) = f (.element t cs) ++ rest ∧
      Replaced p (.element t cs) (f (.element t cs)) ns (replaceAt f path ns)
  | [], _, h => by cases h
  | n :: ns, path, h => by
      rw [findPath?] at h
      split at h
      · -- the first one is at or below the first of the siblings
        rename_i path' hn
        cases h
        exact Node.replaced_found n path' ns hn
      · obtain ⟨path', hpath, rfl⟩ := Option.map_eq_some_iff.mp h
        have inner := findPath?_ne_nil hpath
        obtain ⟨t, cs, rest, ht, found, behind, replaced⟩ := replaced_found ns path' hpath
        rw [siblingsAt_shift n ns inner, replaceAt_shift n ns inner,
          siblingsAt_shift n _ inner]
        exact ⟨t, cs, rest, ht, found, behind, .next replaced⟩

end

theorem Replaced.changed {t : Tag} {cs ns ms : List Node}
    (h : Replaced p (.element t cs) (f (.element t cs)) ns ms) (ht : p t) : Changed p f ns ms := by
  induction h with
  | here => exact .here ht
  | inside hu _ ih => exact .inside hu ih
  | document _ ih => exact .document ih
  | next _ ih => exact .next ih

/-- Replacing the first element that was found is a change. -/
theorem changed_replaceAt (ns : List Node) (path : Path) (h : findPath? p ns = some path) :
    Changed p f ns (replaceAt f path ns) := by
  obtain ⟨t, cs, -, ht, -, -, replaced⟩ := replaced_found (f := f) ns path h
  exact replaced.changed ht

/-! ## Finding -/

@[simp] theorem findPath?_nil : findPath? p [] = none := rfl

theorem findPath?_cons_eq_none {n : Node} {ns : List Node} :
    findPath? p (n :: ns) = none ↔ n.findPath? p = none ∧ findPath? p ns = none := by
  rw [findPath?]
  cases n.findPath? p <;> simp

theorem findPath?_append_eq_none {ns ms : List Node} :
    findPath? p (ns ++ ms) = none ↔ findPath? p ns = none ∧ findPath? p ms = none := by
  induction ns with
  | nil => simp
  | cons n ns ih =>
      rw [List.cons_append, findPath?_cons_eq_none, findPath?_cons_eq_none, ih, and_assoc]

theorem findPath?_element_eq_none {t : Tag} {cs : List Node} :
    (Node.element t cs).findPath? p = none ↔ p t = false ∧ findPath? p cs = none := by
  rw [Node.findPath?]
  cases p t <;> simp

/-- Where nothing is found, nothing is changed. -/
theorem Changed.findPath?_ne_none {ns ms : List Node} (h : Changed p f ns ms) :
    findPath? p ns ≠ none := by
  intro none
  induction h with
  | here h =>
      rw [findPath?_cons_eq_none, findPath?_element_eq_none, h] at none
      cases none.1.1
  | inside _ _ ih =>
      rw [findPath?_cons_eq_none, findPath?_element_eq_none] at none
      exact ih none.1.2
  | document _ ih =>
      rw [findPath?_cons_eq_none, Node.findPath?] at none
      exact ih none.1
  | next _ ih =>
      rw [findPath?_cons_eq_none] at none
      exact ih none.2

/-- A change of siblings is one of the first of them if there is nothing to be
found in the others. -/
theorem Changed.of_append {ns ms zs : List Node} (h : Changed p f (ns ++ ms) zs)
    (none : findPath? p ms = none) : ∃ ns', Changed p f ns ns' ∧ zs = ns' ++ ms := by
  induction ns generalizing zs with
  | nil => exact absurd none h.findPath?_ne_none
  | cons n ns ih =>
      rw [List.cons_append] at h
      cases h with
      | here ht => exact ⟨_, .here ht, (List.append_assoc _ _ _).symm⟩
      | inside ht below => exact ⟨_, .inside ht below, rfl⟩
      | document below => exact ⟨_, .document below, rfl⟩
      | next later =>
          obtain ⟨ns', hns, rfl⟩ := ih later
          exact ⟨n :: ns', .next hns, rfl⟩

/-! ## Pulling out -/

theorem pullOut_element (p : Tag → Bool) (t : Tag) (cs : List Node) :
    (Node.element t cs).pullOut p =
      if p t then ([], .element t (pullOut p cs).1 :: (pullOut p cs).2)
      else ([.element t (pullOut p cs).1], (pullOut p cs).2) := by
  rw [Node.pullOut]

theorem pullOut_document (p : Tag → Bool) (cs : List Node) :
    (Node.document cs).pullOut p = ([.document (pullOut p cs).1], (pullOut p cs).2) := by
  rw [Node.pullOut]

theorem pullOut_cons (p : Tag → Bool) (n : Node) (ns : List Node) :
    pullOut p (n :: ns)
      = ((n.pullOut p).1 ++ (pullOut p ns).1, (n.pullOut p).2 ++ (pullOut p ns).2) := by
  rw [pullOut]

/-! ## Counting -/

variable {q : Tag → Bool}

@[simp] theorem length_findPaths_nil : (findPaths q []).length = 0 := rfl

theorem length_findPaths_cons (n : Node) (ns : List Node) :
    (findPaths q (n :: ns)).length = (n.findPaths q).length + (findPaths q ns).length := by
  simp [findPaths]

theorem length_findPaths_append (ns ms : List Node) :
    (findPaths q (ns ++ ms)).length = (findPaths q ns).length + (findPaths q ms).length := by
  induction ns with
  | nil => simp
  | cons n ns ih =>
      rw [List.cons_append, length_findPaths_cons, length_findPaths_cons, ih, Nat.add_assoc]

theorem length_findPaths_element (t : Tag) (cs : List Node) :
    ((Node.element t cs).findPaths q).length
      = (if q t then 1 else 0) + (findPaths q cs).length := by
  rw [Node.findPaths]
  split
  · simp [Nat.add_comm]
  · simp

mutual

theorem Node.length_findPaths_eq_zero : ∀ n : Node,
    (n.findPaths q).length = 0 ↔ n.findPath? q = none
  | .element t cs => by
      rw [length_findPaths_element, findPath?_element_eq_none, Nat.add_eq_zero_iff,
        length_findPaths_eq_zero cs]
      cases q t <;> simp
  | .document cs => length_findPaths_eq_zero cs
  | .text _ | .comment _ | .doctype _ | .markup _ => by simp [Node.findPaths, Node.findPath?]

theorem length_findPaths_eq_zero : ∀ ns : List Node,
    (findPaths q ns).length = 0 ↔ findPath? q ns = none
  | [] => by simp
  | n :: ns => by
      rw [length_findPaths_cons, findPath?_cons_eq_none, Nat.add_eq_zero_iff,
        Node.length_findPaths_eq_zero n, length_findPaths_eq_zero ns]

end

/-- If what an element is replaced by has fewer elements of a kind, or not too many
more, so has the whole. -/
theorem Changed.length_findPaths {ns ms : List Node} (h : Changed p f ns ms) {k l : Nat}
    (here : ∀ t cs, p t →
      (findPaths q (f (.element t cs))).length + k
        ≤ ((Node.element t cs).findPaths q).length + l) :
    (findPaths q ms).length + k ≤ (findPaths q ns).length + l := by
  induction h with
  | @here t cs _ ht =>
      have := here t cs ht
      rw [length_findPaths_append, length_findPaths_cons]
      omega
  | inside _ _ ih =>
      rw [length_findPaths_cons, length_findPaths_cons, length_findPaths_element,
        length_findPaths_element]
      omega
  | document _ ih =>
      rw [length_findPaths_cons, length_findPaths_cons, Node.findPaths, Node.findPaths]
      omega
  | next _ ih =>
      rw [length_findPaths_cons, length_findPaths_cons]
      omega

end PageTemplates.Markup
