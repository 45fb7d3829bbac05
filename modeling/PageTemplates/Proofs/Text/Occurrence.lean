import PageTemplates.Proofs.Text.Search

/-!
# Where a word can begin

A sequence made of pieces holds a word only where the pieces allow it. The main
facts:

* `Free word xs rest`: the word begins nowhere in `xs` when `rest` follows;
* `free_append`, `free_of_notMem`, `free_of_absent`: how pieces are shown free;
* `find?_append_of_free`: a search goes over what is free;
* `infix_of_infix_flatMap`: a word in a spelled-out sequence stands in the
  sequence itself.
-/

namespace PageTemplates.Text

variable {α β γ : Type}

/-! ## Pieces that a word does not begin in -/

/-- The word begins nowhere in `xs` when `rest` follows. -/
def Free (word xs rest : List α) : Prop := ∀ i < xs.length, ¬ word <+: (xs ++ rest).drop i

section

variable {word xs ys rest : List α}

theorem free_nil : Free word [] rest := fun i hi => absurd hi (Nat.not_lt_zero i)

theorem free_cons {x : α} :
    Free word (x :: xs) rest ↔ ¬ word <+: x :: (xs ++ rest) ∧ Free word xs rest := by
  constructor
  · intro h
    exact ⟨h 0 (by simp), fun i hi => h (i + 1) (by simpa using hi)⟩
  · rintro ⟨first, later⟩ i hi
    cases i with
    | zero => exact first
    | succ i => exact later i (by simpa using hi)

theorem free_append :
    Free word (xs ++ ys) rest ↔ Free word xs (ys ++ rest) ∧ Free word ys rest := by
  induction xs with
  | nil => simp [free_nil]
  | cons x xs ih => rw [List.cons_append, free_cons, free_cons, ih, List.append_assoc, and_assoc]

/-- A word does not begin where its first letter is missing. -/
theorem free_of_notMem {w : α} {ws : List α} (h : w ∉ xs) : Free (w :: ws) xs rest := by
  induction xs with
  | nil => exact free_nil
  | cons x xs ih =>
      rw [List.mem_cons, not_or] at h
      exact free_cons.mpr ⟨fun begins => h.1 (List.cons_prefix_cons.mp begins).1, ih h.2⟩

/-- A word that cannot go on with what follows ends before it. -/
theorem prefix_of_prefix_append (h : word <+: xs ++ rest) (stops : ∀ x ∈ rest.head?, x ∉ word) :
    word <+: xs := by
  obtain ⟨later, hlater⟩ := h
  rcases List.append_eq_append_iff.mp hlater with ⟨more, whole, -⟩ | ⟨more, hword, hrest⟩
  · exact ⟨more, whole.symm⟩
  · cases more with
    | nil => exact ⟨[], by simp [hword]⟩
    | cons y more => exact absurd (by simp [hword]) (stops y (by simp [hrest]))

/-- A word that does not stand in a piece does not begin there when it cannot go
on with what follows. -/
theorem free_of_absent (h : ¬ word <:+: xs) (stops : ∀ x ∈ rest.head?, x ∉ word.tail) :
    Free word xs rest := by
  intro i hi begins
  have inside : ¬ word <:+: xs.drop i :=
    fun there => h (there.trans (List.drop_suffix i xs).isInfix)
  rw [List.drop_append_of_le_length (Nat.le_of_lt hi)] at begins
  obtain ⟨later, hlater⟩ := begins
  rcases List.append_eq_append_iff.mp hlater with ⟨more, whole, -⟩ | ⟨more, hword, hrest⟩
  · exact inside ⟨[], more, by simp [whole]⟩
  · -- the word goes on behind the piece
    cases more with
    | nil => exact inside ⟨[], [], by simp [hword]⟩
    | cons y more =>
        refine stops y (by simp [hrest]) ?_
        cases hdrop : xs.drop i with
        | nil =>
            have := List.drop_eq_nil_iff.mp hdrop
            omega
        | cons x tail => simp [hword, hdrop]

/-- A word stands behind what is free. -/
theorem infix_of_infix_append (h : Free word xs rest) (there : word <:+: xs ++ rest) :
    word <:+: rest := by
  induction xs with
  | nil => exact there
  | cons x xs ih =>
      obtain ⟨first, later⟩ := free_cons.mp h
      rw [List.cons_append, List.infix_cons_iff] at there
      exact ih later (there.resolve_left first)

/-- A search goes over what is free. -/
theorem find?_append_of_free [BEq α] [LawfulBEq α] (h : Free word xs rest) :
    find? word (xs ++ rest) = (find? word rest).map (· + xs.length) := by
  induction xs with
  | nil => simp
  | cons x xs ih =>
      obtain ⟨first, later⟩ := free_cons.mp h
      rw [List.cons_append, find?, if_neg (by rwa [List.isPrefixOf_iff_prefix]), ih later,
        Option.map_map]
      rfl

/-- A word that is not found stands nowhere. -/
theorem find?_eq_none_iff_absent [BEq α] [LawfulBEq α] :
    find? word xs = none ↔ ¬ word <:+: xs := by
  rw [find?_eq_none_iff]
  constructor
  · rintro nowhere ⟨before, behind, rfl⟩
    refine nowhere before.length ?_
    rw [List.append_assoc, List.drop_left]
    exact List.prefix_append word behind
  · intro absent i begins
    exact absent (begins.isInfix.trans (List.drop_suffix i xs).isInfix)

end

/-! ## Sequences that are spelled out -/

/-- How an element with the letter `k` is spelled, as seen by a word: as this
letter, or as something that the word neither begins in nor goes on with. -/
inductive Spelled (letter : γ → β) (word : List γ) (k : γ) : List β → Prop where
  | itself (only : ∀ x ∈ word, letter x = letter k → x = k) : Spelled letter word k [letter k]
  | other {b : β} {bs : List β} (begins : ∀ x ∈ word, letter x ≠ b)
      (inside : ∀ x ∈ word.head?, letter x ∉ bs) : Spelled letter word k (b :: bs)

section

variable {letter : γ → β} {word : List γ} {key : α → γ} {spell : α → List β}

/-- What a word goes on with in a spelled-out sequence, it goes on with in the
sequence itself. -/
theorem prefix_of_prefix_flatMap {xs : List α} (h : ∀ a ∈ xs, Spelled letter word (key a) (spell a))
    {v : List γ} (hv : v ⊆ word) (begins : v.map letter <+: xs.flatMap spell) :
    v <+: xs.map key := by
  induction v generalizing xs with
  | nil => exact List.nil_prefix
  | cons x v ih =>
      have hx : x ∈ word := hv List.mem_cons_self
      cases xs with
      | nil => simp at begins
      | cons a xs =>
          rw [List.forall_mem_cons] at h
          rw [List.flatMap_cons, List.map_cons] at begins
          have here := h.1
          generalize spell a = bs at here begins
          cases here with
          | itself only =>
              obtain ⟨same, rest⟩ := List.cons_prefix_cons.mp begins
              rw [List.map_cons, only x hx same]
              exact List.cons_prefix_cons.mpr
                ⟨rfl, ih h.2 (fun y hy => hv (List.mem_cons_of_mem _ hy)) rest⟩
          | other other _ =>
              exact absurd (List.cons_prefix_cons.mp begins).1 (other x hx)

/-- A word in a spelled-out sequence stands in the sequence itself. -/
theorem infix_of_infix_flatMap {xs : List α} (h : ∀ a ∈ xs, Spelled letter word (key a) (spell a))
    (there : word.map letter <:+: xs.flatMap spell) : word <:+: xs.map key := by
  cases word with
  | nil => exact ⟨[], xs.map key, rfl⟩
  | cons w ws =>
  induction xs with
  | nil => simp at there
  | cons a xs ih =>
      -- the word begins with this element, or later
      have start := fun begins => (prefix_of_prefix_flatMap h (List.Subset.refl _) begins).isInfix
      rw [List.forall_mem_cons] at h
      rw [List.flatMap_cons] at there start
      have later : (w :: ws).map letter <:+: xs.flatMap spell → w :: ws <:+: (a :: xs).map key := by
        intro there
        exact (ih h.2 there).trans (List.suffix_cons _ _).isInfix
      have here := h.1
      generalize spell a = bs at here there start
      cases here with
      | itself only =>
          rw [List.singleton_append, List.infix_cons_iff] at there
          exact there.elim start later
      | @other b bs begins inside =>
          have absent : letter w ∉ b :: bs := by
            rw [List.mem_cons, not_or]
            exact ⟨begins w List.mem_cons_self, inside w rfl⟩
          exact later (infix_of_infix_append (free_of_notMem absent) there)

end

end PageTemplates.Text
