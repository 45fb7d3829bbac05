import PageTemplates.Text.Find

/-!
# Replacing a word

What replacing a word does to a sequence, piece by piece, and when it does
nothing. The main facts:

* `replaceAll_word_append`, `replaceAll_append_of_notMem`: an occurrence in front
  is replaced, and a piece without the first element of the word is kept;
* `replaceAll_flatMap`: a sequence that is printed element by element can be
  replaced in before it is printed;
* `foldl_replaceAll_eq_self_iff`: replacing words one after the other by shorter
  ones changes nothing just where none of the words occurs.
-/

namespace PageTemplates.Text

variable {α : Type} [BEq α] [LawfulBEq α]

/-! ## Pieces -/

section

variable {a x : α} {w repl xs ys : List α}

omit [LawfulBEq α] in
/-- What is left of an occurrence is passed over. -/
theorem replaceFrom_length_append (word repl xs ys : List α) :
    replaceFrom word repl xs.length (xs ++ ys) = replaceFrom word repl 0 ys := by
  induction xs with
  | nil => rfl
  | cons x xs ih =>
      rw [List.length_cons, List.cons_append, replaceFrom]
      exact ih

theorem replaceAll_word_append (a : α) (w repl ys : List α) :
    replaceAll (a :: w) repl (a :: w ++ ys) = repl ++ replaceAll (a :: w) repl ys := by
  have found : (a :: w).isPrefixOf (a :: (w ++ ys)) = true :=
    List.isPrefixOf_iff_prefix.mpr ⟨ys, rfl⟩
  rw [replaceAll, List.cons_append, replaceFrom, if_pos found, List.length_cons,
    Nat.add_sub_cancel, replaceFrom_length_append]
  rfl

theorem replaceAll_cons_of_absent (h : ¬ w <+: x :: xs) :
    replaceAll w repl (x :: xs) = x :: replaceAll w repl xs := by
  rw [← List.isPrefixOf_iff_prefix] at h
  rw [replaceAll, replaceFrom, if_neg h]
  rfl

theorem replaceAll_cons_of_ne (h : x ≠ a) :
    replaceAll (a :: w) repl (x :: xs) = x :: replaceAll (a :: w) repl xs := by
  refine replaceAll_cons_of_absent fun hp => h ?_
  exact (List.cons_prefix_cons.mp hp).1.symm

theorem replaceAll_append_of_notMem (h : a ∉ xs) :
    replaceAll (a :: w) repl (xs ++ ys) = xs ++ replaceAll (a :: w) repl ys := by
  induction xs with
  | nil => rfl
  | cons x xs ih =>
      rw [List.mem_cons, not_or] at h
      rw [List.cons_append, replaceAll_cons_of_ne (Ne.symm h.1), ih h.2, List.cons_append]

end

/-! ## Printed sequences -/

/-- How an element is printed, before and after the word `a :: w` was replaced by
`repl`: as itself, as the word, or as something else that has no part in an
occurrence of it. -/
inductive PrintedAs (a : α) (w repl : List α) (c : α) : List α → List α → Prop where
  | itself : PrintedAs a w repl c [c] [c]
  | word : PrintedAs a w repl c (a :: w) repl
  | other {y : α} {ys : List α} (begins : y ∉ w) (inside : a ∉ ys)
      (apart : ∀ rest, ¬ a :: w <+: y :: ys ++ rest) : PrintedAs a w repl c (y :: ys) (y :: ys)

section

variable {a : α} {w repl repl' : List α} {p p' : α → List α}

theorem PrintedAs.replaceAll_append {c : α} {xs xs' : List α} (h : PrintedAs a w repl c xs xs')
    (hc : xs = [c] → c ≠ a) (rest : List α) :
    replaceAll (a :: w) repl (xs ++ rest) = xs' ++ replaceAll (a :: w) repl rest := by
  cases h with
  | itself => exact replaceAll_cons_of_ne (hc rfl)
  | word => exact replaceAll_word_append a w repl rest
  | @other y ys begins inside apart =>
      have head : replaceAll (a :: w) repl _ = _ := replaceAll_cons_of_absent (apart rest)
      rw [List.cons_append, List.cons_append, ← replaceAll_append_of_notMem inside]
      exact head

omit [BEq α] [LawfulBEq α] in
theorem PrintedAs.itself_of_eq {c : α} {xs xs' : List α} (h : PrintedAs a w repl c xs xs')
    (long : w ≠ []) (hc : xs = [c]) : xs' = [c] := by
  cases h with
  | itself => rfl
  | word => exact absurd (List.cons.inj hc).2 long
  | other => exact hc

/-- Where the first element of the word is not printed as itself, just the
elements that are printed as the word are replaced. -/
theorem replaceAll_flatMap_of_hidden (printed : ∀ c, PrintedAs a w repl c (p c) (p' c))
    (hidden : ∀ c, p c = [c] → c ≠ a) (s : List α) :
    replaceAll (a :: w) repl (s.flatMap p) = s.flatMap p' := by
  induction s with
  | nil => rfl
  | cons c s ih =>
      rw [List.flatMap_cons, List.flatMap_cons, (printed c).replaceAll_append (hidden c), ih]

omit [BEq α] [LawfulBEq α] in
/-- The rest of an occurrence is never printed as something else. -/
theorem prefix_flatMap_iff (printed : ∀ c, PrintedAs a w repl c (p c) (p' c)) (once : a ∉ w)
    (plain : ∀ c ∈ w, p c = [c]) {v : List α} (hv : v ⊆ w) (s : List α) :
    v <+: s.flatMap p ↔ v <+: s := by
  induction v generalizing s with
  | nil => simp
  | cons x v ih =>
      have hx : x ∈ w := hv List.mem_cons_self
      have hvw : v ⊆ w := fun y hy => hv (List.mem_cons_of_mem _ hy)
      cases s with
      | nil => simp
      | cons c s =>
          -- an element that is not printed as itself differs from `x`
          have differs : ∀ y ys, p c = y :: ys → y ∉ w → ¬ x :: v <+: c :: s := by
            intro y ys hp hy hpre
            obtain ⟨rfl, -⟩ := List.cons_prefix_cons.mp hpre
            rw [plain x hx, List.cons.injEq] at hp
            exact hy (hp.1 ▸ hx)
          rw [List.flatMap_cons]
          have here := printed c
          generalize hp : p c = pc at here
          generalize p' c = pc' at here
          cases here with
          | itself =>
              rw [List.singleton_append, List.cons_prefix_cons, List.cons_prefix_cons, ih hvw]
          | word =>
              refine iff_of_false (fun hpre => ?_) (differs _ _ hp once)
              exact once ((List.cons_prefix_cons.mp hpre).1 ▸ hx)
          | other begins inside apart =>
              refine iff_of_false (fun hpre => ?_) (differs _ _ hp begins)
              exact begins ((List.cons_prefix_cons.mp hpre).1 ▸ hx)

/-- Where all elements of the word are printed as themselves, it is replaced
where it occurs in the sequence, and where an element is printed as it. -/
theorem replaceAll_flatMap (printed : ∀ c, PrintedAs a w repl c (p c) (p' c)) (once : a ∉ w)
    (long : w ≠ []) (plain : ∀ c ∈ a :: w, p c = [c]) (hr : repl'.flatMap p' = repl) (s : List α) :
    replaceAll (a :: w) repl (s.flatMap p) = (replaceAll (a :: w) repl' s).flatMap p' := by
  have plain' : ∀ c ∈ w, p c = [c] := fun c hc => plain c (List.mem_cons_of_mem _ hc)
  -- inside an occurrence all elements are printed as themselves
  suffices h : ∀ k, (∀ c ∈ s.take k, p c = [c]) →
      replaceFrom (a :: w) repl k (s.flatMap p) = (replaceFrom (a :: w) repl' k s).flatMap p' from
    h 0 (by simp)
  induction s with
  | nil => intro k _; cases k <;> rfl
  | cons c s ih =>
      intro k hk
      rw [List.flatMap_cons]
      cases k with
      | succ k =>
          rw [hk c (by simp), List.singleton_append, replaceFrom, replaceFrom]
          exact ih k fun x hx => hk x (by simp [hx])
      | zero =>
          have behind := ih 0 (by simp)
          by_cases itself : p c = [c]
          · have itself' : p' c = [c] := (printed c).itself_of_eq long itself
            have same : (a :: w).isPrefixOf (c :: s.flatMap p) = (a :: w).isPrefixOf (c :: s) := by
              rw [Bool.eq_iff_iff, List.isPrefixOf_iff_prefix, List.isPrefixOf_iff_prefix,
                List.cons_prefix_cons, List.cons_prefix_cons,
                prefix_flatMap_iff printed once plain' (List.Subset.refl w)]
            rw [itself, List.singleton_append, replaceFrom, replaceFrom, same]
            split
            · rename_i found
              have rest := (List.cons_prefix_cons.mp (List.isPrefixOf_iff_prefix.mp found)).2
              rw [List.length_cons, Nat.add_sub_cancel, List.flatMap_append, hr,
                ih w.length fun x hx => plain' x (List.prefix_iff_eq_take.mp rest ▸ hx)]
            · rw [List.flatMap_cons, itself', behind]
              rfl
          · have hc : c ≠ a := fun h => itself (plain c (h ▸ List.mem_cons_self))
            have kept : replaceFrom (a :: w) repl' 0 (c :: s)
                = c :: replaceFrom (a :: w) repl' 0 s := replaceAll_cons_of_ne hc
            rw [kept, List.flatMap_cons, ← behind]
            exact (printed c).replaceAll_append (fun h => absurd h itself) _

end

/-! ## Lengths -/

section

variable {word repl : List α}

theorem length_replaceFrom_le (h : repl.length ≤ word.length) (skip : Nat) (xs : List α) :
    (replaceFrom word repl skip xs).length + min skip xs.length ≤ xs.length := by
  induction xs generalizing skip with
  | nil => cases skip <;> simp [replaceFrom]
  | cons x xs ih =>
      cases skip with
      | succ n =>
          have := ih n
          rw [replaceFrom, List.length_cons]
          omega
      | zero =>
          rw [replaceFrom]
          split
          · rename_i found
            have fits := (List.isPrefixOf_iff_prefix.mp found).length_le
            have := ih (word.length - 1)
            rw [List.length_cons] at fits
            rw [List.length_append, List.length_cons]
            omega
          · have := ih 0
            rw [List.length_cons, List.length_cons]
            omega

theorem length_replaceAll_le (h : repl.length ≤ word.length) (xs : List α) :
    (replaceAll word repl xs).length ≤ xs.length := by
  have := length_replaceFrom_le h 0 xs
  rw [replaceAll]
  omega

theorem replaceAll_eq_self {xs : List α} (h : ¬ word <:+: xs) :
    replaceAll word repl xs = xs := by
  induction xs with
  | nil => rfl
  | cons x xs ih =>
      rw [List.infix_cons_iff, not_or] at h
      rw [replaceAll_cons_of_absent h.1, ih h.2]

/-- A shorter replacement shortens a sequence unless the word does not occur. -/
theorem not_infix_of_length_replaceAll {xs : List α} (h : repl.length < word.length)
    (same : xs.length ≤ (replaceAll word repl xs).length) : ¬ word <:+: xs := by
  induction xs with
  | nil =>
      rw [List.infix_nil]
      rintro rfl
      cases h
  | cons x xs ih =>
      by_cases found : word <+: x :: xs
      · have fits := found.length_le
        have rest := length_replaceFrom_le (Nat.le_of_lt h) (word.length - 1) xs
        rw [replaceAll, replaceFrom, if_pos (List.isPrefixOf_iff_prefix.mpr found),
          List.length_append] at same
        rw [List.length_cons] at fits same
        omega
      · rw [replaceAll_cons_of_absent found, List.length_cons, List.length_cons] at same
        rw [List.infix_cons_iff, not_or]
        exact ⟨found, ih (by omega)⟩

end

/-! ## Several words -/

section

variable {words : List (List α × List α)} {s : List α}

omit [LawfulBEq α] in
theorem mem_replaceAll {word repl xs : List α} {x : α} (h : x ∈ replaceAll word repl xs) :
    x ∈ repl ∨ x ∈ xs := by
  suffices all : ∀ skip, x ∈ replaceFrom word repl skip xs → x ∈ repl ∨ x ∈ xs from all 0 h
  clear h
  induction xs with
  | nil => intro skip h; cases skip <;> cases h
  | cons y xs ih =>
      intro skip h
      cases skip with
      | succ n => exact (ih n h).imp_right (List.mem_cons_of_mem _)
      | zero =>
          rw [replaceFrom] at h
          split at h
          · rcases List.mem_append.mp h with h | h
            · exact .inl h
            · exact (ih _ h).imp_right (List.mem_cons_of_mem _)
          · rcases List.mem_cons.mp h with rfl | h
            · exact .inr List.mem_cons_self
            · exact (ih _ h).imp_right (List.mem_cons_of_mem _)

omit [LawfulBEq α] in
theorem mem_foldl_replaceAll {x : α} (hx : ∀ r ∈ words, x ∉ r.2)
    (h : x ∈ words.foldl (fun s r => replaceAll r.1 r.2 s) s) : x ∈ s := by
  induction words generalizing s with
  | nil => exact h
  | cons r words ih =>
      have rest := ih (fun r' hr => hx r' (List.mem_cons_of_mem _ hr)) h
      exact (mem_replaceAll rest).resolve_left (hx r List.mem_cons_self)

theorem length_foldl_replaceAll_le (h : ∀ r ∈ words, r.2.length < r.1.length) :
    (words.foldl (fun s r => replaceAll r.1 r.2 s) s).length ≤ s.length := by
  induction words generalizing s with
  | nil => exact Nat.le_refl _
  | cons r words ih =>
      have first := length_replaceAll_le (Nat.le_of_lt (h r List.mem_cons_self)) s
      exact Nat.le_trans (ih fun r' hr => h r' (List.mem_cons_of_mem _ hr)) first

theorem foldl_replaceAll_eq_self_iff (h : ∀ r ∈ words, r.2.length < r.1.length) :
    words.foldl (fun s r => replaceAll r.1 r.2 s) s = s ↔ ∀ r ∈ words, ¬ r.1 <:+: s := by
  induction words with
  | nil => simp
  | cons r words ih =>
      have rest := fun r' hr => h r' (List.mem_cons_of_mem r hr)
      rw [List.foldl_cons, List.forall_mem_cons, ← ih rest]
      constructor
      · intro same
        -- no step makes the sequence longer, so none makes it shorter
        have short := length_foldl_replaceAll_le (s := replaceAll r.1 r.2 s) rest
        rw [same] at short
        have absent := not_infix_of_length_replaceAll (h r List.mem_cons_self) short
        rw [replaceAll_eq_self absent] at same
        exact ⟨absent, same⟩
      · rintro ⟨absent, same⟩
        rwa [replaceAll_eq_self absent]

end

end PageTemplates.Text
