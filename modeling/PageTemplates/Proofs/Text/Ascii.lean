import Mathlib.Data.Nat.Digits.Defs
import PageTemplates.Text.Quoted

/-!
# Characters of ASCII

What holds of the characters of ASCII is looked up for each of them, and digits stand for the
number that they were made of. The main facts:

* `of_ascii`, `of_asciiKind`: what holds of all characters of ASCII, or of a kind of them;
* `toNat_of_isAlphanum`: letters and digits are such characters;
* `digitsValue_toDigits`, `digitsValue_hexDigits`: the digits of a number stand for it.
-/

namespace PageTemplates.Text

/-- What holds of all ASCII characters. -/
theorem of_ascii {p : Char → Bool} (h : (List.range 128).all fun n => p (Char.ofNat n)) {c : Char}
    (hc : c.toNat < 128) : p c := by
  have here := List.all_eq_true.mp h c.toNat (List.mem_range.mpr hc)
  rwa [Char.ofNat_toNat] at here

/-- What holds of all ASCII characters of a kind. -/
theorem of_asciiKind {kind p : Char → Bool}
    (h : (List.range 128).all fun n => !kind (Char.ofNat n) || p (Char.ofNat n)) {c : Char}
    (ascii : c.toNat < 128) (hc : kind c) : p c := by
  have here := of_ascii (p := fun c => !kind c || p c) h ascii
  rwa [hc, Bool.not_true, Bool.false_or] at here

/-- Letters and digits lie between `0` and `z`. -/
theorem toNat_of_isAlphanum {c : Char} (h : c.isAlphanum) : 48 ≤ c.toNat ∧ c.toNat ≤ 122 := by
  have between {low high : UInt32} (h : low ≤ c.val ∧ c.val ≤ high) :
      low.toNat ≤ c.toNat ∧ c.toNat ≤ high.toNat :=
    ⟨UInt32.le_iff_toNat_le.mp h.1, UInt32.le_iff_toNat_le.mp h.2⟩
  rcases (Bool.or_eq_true _ _).mp h with letter | digit
  · rcases (Bool.or_eq_true _ _).mp letter with upper | lower
    · obtain ⟨low, high⟩ := between (of_decide_eq_true upper)
      exact ⟨Nat.le_trans (by decide) low, Nat.le_trans high (by decide)⟩
    · have bounds := (Bool.and_eq_true _ _).mp lower
      obtain ⟨low, high⟩ := between ⟨of_decide_eq_true bounds.1, of_decide_eq_true bounds.2⟩
      exact ⟨Nat.le_trans (by decide) low, Nat.le_trans high (by decide)⟩
  · have bounds := (Bool.and_eq_true _ _).mp digit
    obtain ⟨low, high⟩ := between ⟨of_decide_eq_true bounds.1, of_decide_eq_true bounds.2⟩
    exact ⟨Nat.le_trans (by decide) low, Nat.le_trans high (by decide)⟩

theorem toNat_lt_of_isAlphanum {c : Char} (h : c.isAlphanum) : c.toNat < 128 :=
  Nat.lt_of_le_of_lt (toNat_of_isAlphanum h).2 (by decide)

/-! ## Digits -/

theorem hexValue_digitChar : ∀ d < 16, hexValue (Nat.digitChar d) = d := by decide

theorem digitsValue_concat (base : Nat) (ds : List Char) (d : Char) :
    digitsValue base (ds ++ [d]) = base * digitsValue base ds + hexValue d := by
  rw [digitsValue, List.foldl_append]
  rfl

/-- Zeros in front of digits stand for nothing. -/
theorem digitsValue_zeros (base k : Nat) (ds : List Char) :
    digitsValue base (List.replicate k '0' ++ ds) = digitsValue base ds := by
  induction k with
  | zero => rfl
  | succ k ih =>
      have zero : base * 0 + hexValue '0' = 0 := rfl
      rw [List.replicate_succ, List.cons_append, digitsValue, List.foldl_cons, zero]
      exact ih

/-- The digits of a number stand for it. -/
theorem digitsValue_toDigits {base : Nat} (low : 1 < base) (high : base ≤ 16) (n : Nat) :
    digitsValue base (Nat.toDigits base n) = n := by
  induction n using Nat.strongRecOn with
  | ind n ih =>
      rw [Nat.toDigits_eq_if low]
      split
      · rename_i small
        have one := digitsValue_concat base [] (Nat.digitChar n)
        rw [hexValue_digitChar n (Nat.lt_of_lt_of_le small high)] at one
        exact one.trans (Nat.zero_add n)
      · rename_i large
        have less : n / base < n := Nat.div_lt_self (by omega) low
        have digit : n % base < 16 := Nat.lt_of_lt_of_le (Nat.mod_lt n (by omega)) high
        rw [digitsValue_concat, ih _ less, hexValue_digitChar _ digit]
        exact Nat.div_add_mod n base

theorem mem_toDigits {base : Nat} (low : 1 < base) {ch : Char} {n : Nat}
    (h : ch ∈ Nat.toDigits base n) : ∃ d < base, ch = Nat.digitChar d := by
  induction n using Nat.strongRecOn with
  | ind n ih =>
      rw [Nat.toDigits_eq_if low] at h
      split at h
      · rename_i small
        exact ⟨n, small, List.mem_singleton.mp h⟩
      · have less : n / base < n := Nat.div_lt_self (by omega) low
        rcases List.mem_append.mp h with front | last
        · exact ih _ less front
        · exact ⟨n % base, Nat.mod_lt n (by omega), List.mem_singleton.mp last⟩

/-! ## Digits of a fixed width -/

/-- The digits of a number stand for it. -/
theorem digitsValue_hexDigits (width n : Nat) : digitsValue 16 (hexDigits width n) = n := by
  rw [hexDigits, digitsValue_zeros, digitsValue_toDigits (by decide) (by decide)]

/-- There are as many digits as were asked for if these suffice. -/
theorem length_hexDigits {width n : Nat} (positive : 0 < width) (enough : n < 16 ^ width) :
    (hexDigits width n).length = width := by
  have short := Nat.toDigits_length 16 n width positive enough
  rw [hexDigits, List.length_append, List.length_replicate]
  omega

theorem isHexDigit_of_mem_hexDigits {width n : Nat} {ch : Char} (h : ch ∈ hexDigits width n) :
    isHexDigit ch := by
  rcases List.mem_append.mp h with zero | digit
  · rw [List.eq_of_mem_replicate zero]
    decide
  · obtain ⟨d, small, rfl⟩ := mem_toDigits (by decide) digit
    exact (by decide : ∀ d < 16, isHexDigit (Nat.digitChar d)) d small

end PageTemplates.Text
