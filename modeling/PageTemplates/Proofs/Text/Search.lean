import PageTemplates.Text.Find

/-!
# Where a search ends

A word is found at the first place where it stands, and is not found only if it
stands nowhere. The main facts:

* `find?_eq_some_iff`, `find?_eq_none_iff`: what finding a word says;
* `find?_append_of_some`: what follows does not matter;
* `dropWhile_drop`, `exists_dropWhile_drop`: what is skipped from a place on.
-/

namespace PageTemplates.Text

variable {α : Type}

section

variable [BEq α] [LawfulBEq α]

/-- A word is found at the first place where it stands. -/
theorem find?_eq_some_iff {word xs : List α} {i : Nat} :
    find? word xs = some i ↔ word <+: xs.drop i ∧ ∀ j < i, ¬ word <+: xs.drop j := by
  induction xs generalizing i with
  | nil =>
      cases word with
      | nil =>
          cases i with
          | zero => simp [find?]
          | succ i =>
              constructor
              · intro h
                cases h
              · exact fun h => absurd List.nil_prefix (h.2 0 (Nat.succ_pos i))
      | cons w ws => simp [find?]
  | cons x xs ih =>
      rw [find?]
      -- the word stands here, or it is first found one place further on
      by_cases here : word <+: x :: xs
      · rw [if_pos (List.isPrefixOf_iff_prefix.mpr here)]
        cases i with
        | zero => simp [here]
        | succ i =>
            simp only [Option.some.injEq, Nat.zero_ne_add_one, false_iff, not_and]
            exact fun _ first => first 0 (Nat.succ_pos i) here
      · rw [if_neg (by rwa [List.isPrefixOf_iff_prefix])]
        cases i with
        | zero => simp [here]
        | succ i =>
            rw [Option.map_eq_some_iff]
            constructor
            · rintro ⟨k, found, hk⟩
              obtain rfl : k = i := Nat.succ.inj hk
              obtain ⟨there, first⟩ := ih.mp found
              refine ⟨there, fun j hj => ?_⟩
              cases j with
              | zero => exact here
              | succ j => exact first j (Nat.lt_of_succ_lt_succ hj)
            · rintro ⟨there, first⟩
              exact ⟨i, ih.mpr ⟨there, fun j hj => first (j + 1) (Nat.succ_lt_succ hj)⟩, rfl⟩

/-- A word that is not found stands nowhere. -/
theorem find?_eq_none_iff {word xs : List α} :
    find? word xs = none ↔ ∀ i, ¬ word <+: xs.drop i := by
  induction xs with
  | nil => cases word <;> simp [find?]
  | cons x xs ih =>
      rw [find?]
      by_cases here : word <+: x :: xs
      · rw [if_pos (List.isPrefixOf_iff_prefix.mpr here)]
        simp only [reduceCtorEq, false_iff]
        exact fun nowhere => nowhere 0 here
      · rw [if_neg (by rwa [List.isPrefixOf_iff_prefix]), Option.map_eq_none_iff, ih]
        refine ⟨fun nowhere i => ?_, fun nowhere i => nowhere (i + 1)⟩
        cases i with
        | zero => exact here
        | succ i => exact nowhere i

/-- A word that is found is found there whatever follows. -/
theorem find?_append_of_some {word xs : List α} {i : Nat} (h : find? word xs = some i)
    (rest : List α) : find? word (xs ++ rest) = some i := by
  rw [find?_eq_some_iff] at h ⊢
  obtain ⟨there, first⟩ := h
  have inside : word.length ≤ xs.length - i := by simpa using there.length_le
  by_cases empty : word = []
  · subst empty
    exact ⟨List.nil_prefix, fun j hj => absurd List.nil_prefix (first j hj)⟩
  have filled := List.length_pos_iff.mpr empty
  have room {j : Nat} (hj : j ≤ i) : (xs ++ rest).drop j = xs.drop j ++ rest :=
    List.drop_append_of_le_length (by omega)
  refine ⟨?_, fun j hj begins => first j hj ?_⟩
  · rw [room (Nat.le_refl i)]
    exact there.trans (List.prefix_append _ rest)
  · rw [room (Nat.le_of_lt hj)] at begins
    exact List.prefix_of_prefix_length_le begins (List.prefix_append _ rest)
      (by rw [List.length_drop]; omega)

end

theorem drop_eq_cons_iff {xs ys : List α} {x : α} {i : Nat} :
    xs.drop i = x :: ys ↔ xs[i]? = some x ∧ xs.drop (i + 1) = ys := by
  induction xs generalizing i with
  | nil => simp
  | cons y xs ih =>
      cases i with
      | zero => simp
      | succ i => simpa using ih

/-- Skipping goes over elements of a kind up to the first other one. -/
theorem dropWhile_drop {p : α → Bool} {xs : List α} {i k : Nat} (h : i ≤ k)
    (skipped : ∀ j, i ≤ j → j < k → xs[j]?.any p) (stop : xs[k]?.any fun x => !p x) :
    (xs.drop i).dropWhile p = xs.drop k := by
  obtain ⟨n, rfl⟩ := Nat.exists_eq_add_of_le h
  clear h
  induction n generalizing i with
  | zero =>
      obtain ⟨x, hx, stop⟩ := (Option.any_eq_true _ _).mp stop
      have here : xs.drop i = x :: xs.drop (i + 1) := drop_eq_cons_iff.mpr ⟨hx, rfl⟩
      rw [Nat.add_zero, here, List.dropWhile_cons_of_neg (by simpa using stop)]
  | succ n ih =>
      obtain ⟨x, hx, px⟩ := (Option.any_eq_true _ _).mp (skipped i (Nat.le_refl i) (by omega))
      have next : i + (n + 1) = i + 1 + n := by omega
      rw [next] at skipped stop ⊢
      rw [drop_eq_cons_iff.mpr ⟨hx, rfl⟩, List.dropWhile_cons_of_pos px]
      exact ih (fun j hj => skipped j (by omega)) stop

/-- Where skipping ends, and what was skipped. -/
theorem exists_dropWhile_drop (p : α → Bool) (xs : List α) (i : Nat) :
    ∃ k, (i ≤ k ∧ (xs.drop i).dropWhile p = xs.drop k) ∧
      ∀ j, i ≤ j → j < k → xs[j]?.any p := by
  generalize hys : xs.drop i = ys
  induction ys generalizing i with
  | nil => exact ⟨i, ⟨Nat.le_refl i, hys.symm⟩, fun j _ _ => by omega⟩
  | cons y ys ih =>
      by_cases hy : p y
      · obtain ⟨first, next⟩ := drop_eq_cons_iff.mp hys
        obtain ⟨k, ⟨hk, ends⟩, skipped⟩ := ih (i + 1) next
        refine ⟨k, ⟨by omega, by rw [List.dropWhile_cons_of_pos hy, ends]⟩, fun j hj hjk => ?_⟩
        by_cases here : j = i
        · simpa [here, first] using hy
        · exact skipped j (by omega) hjk
      · exact ⟨i, ⟨Nat.le_refl i, by rw [List.dropWhile_cons_of_neg hy, hys]⟩,
          fun j _ _ => by omega⟩

end PageTemplates.Text
