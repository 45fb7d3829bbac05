import PageTemplates.Charset.Utf8

/-!
# UTF-8 is read back

Text that was written in UTF-8 is read as it was. The main facts:

* `decodeFrom_lead`, `decodeFrom_begun`: what is read of the first byte of a character, and
  of the bytes after it;
* `decodeFrom_encodeChar`: a character is read back whatever follows;
* `decode_encode`: so is a text.
-/

namespace PageTemplates.Utf8

theorem lead_single : ∀ v < 128, lead (UInt8.ofNat v) = .single (Char.ofNat v) := by decide

theorem lead_two : ∀ v < 32, 2 ≤ v →
    lead (UInt8.ofNat (v + 192)) = .begun ⟨1, 0x80, 0xBF, v⟩ := by decide

theorem lead_three : ∀ v < 16, lead (UInt8.ofNat (v + 224)) =
    .begun ⟨2, if v = 0 then 0xA0 else 0x80, if v = 13 then 0x9F else 0xBF, v⟩ := by decide

theorem lead_four : ∀ v < 5, lead (UInt8.ofNat (v + 240)) =
    .begun ⟨3, if v = 0 then 0x90 else 0x80, if v = 4 then 0x8F else 0xBF, v⟩ := by decide

/-- The first byte of a character of several bytes. -/
theorem decodeFrom_lead {b : UInt8} {s : Begun} (h : lead b = .begun s) (rest : Bytes) :
    decodeFrom none (b :: rest) = decodeFrom (some s) rest := by
  rw [decodeFrom, step, h]
  rfl

/-- A byte inside of a character, if it is between the bounds for it. -/
theorem decodeFrom_begun {due code v : Nat} {lo hi : UInt8} (small : v < 64)
    (above : lo.toNat ≤ v + 128) (below : v + 128 ≤ hi.toNat) (rest : Bytes) :
    decodeFrom (some ⟨due, lo, hi, code⟩) (UInt8.ofNat (v + 128) :: rest) =
      if due ≤ 1 then Char.ofNat (code * 64 + v) :: decodeFrom none rest
      else decodeFrom (some ⟨due - 1, 0x80, 0xBF, code * 64 + v⟩) rest := by
  have value : (UInt8.ofNat (v + 128)).toNat = v + 128 := by
    rw [UInt8.toNat_ofNat']
    omega
  have inside : lo ≤ UInt8.ofNat (v + 128) ∧ UInt8.ofNat (v + 128) ≤ hi := by
    simpa only [UInt8.le_iff_toNat_le, value] using ⟨above, below⟩
  rw [decodeFrom, step]
  simp only [inside.1, inside.2, decide_true, Bool.and_true, if_true, value, Nat.add_sub_cancel]
  split <;> rfl

/-- A byte inside of a character that is not its second one. -/
theorem decodeFrom_later {due code v : Nat} (small : v < 64) (rest : Bytes) :
    decodeFrom (some ⟨due, 0x80, 0xBF, code⟩) (UInt8.ofNat (v + 128) :: rest) =
      if due ≤ 1 then Char.ofNat (code * 64 + v) :: decodeFrom none rest
      else decodeFrom (some ⟨due - 1, 0x80, 0xBF, code * 64 + v⟩) rest :=
  decodeFrom_begun small (Nat.le_add_left _ _)
    (Nat.le_trans (Nat.add_le_add_right (Nat.le_of_lt_succ small) 128) (by decide)) rest

/-- A character is read back whatever follows. -/
theorem decodeFrom_encodeChar (c : Char) (rest : Bytes) :
    decodeFrom none (String.utf8EncodeChar c ++ rest) = c :: decodeFrom none rest := by
  have valid : c.val.toNat < 0xD800 ∨ 0xDFFF < c.val.toNat ∧ c.val.toNat < 0x110000 := c.valid
  have back {n : Nat} (h : n = c.val.toNat) : Char.ofNat n = c := by
    rw [h]
    exact Char.ofNat_toNat c
  unfold String.utf8EncodeChar
  generalize c.val.toNat = v at valid back
  dsimp only
  split
  · rename_i small
    rw [List.singleton_append, decodeFrom, step, lead_single v (by omega), back rfl]
    rfl
  rename_i notOne
  split
  · have lead := lead_two (v / 64 % 32) (by omega) (by omega)
    rw [List.cons_append, List.cons_append, List.nil_append, decodeFrom_lead lead,
      decodeFrom_later (by omega), if_pos (Nat.le_refl 1), back (by omega)]
  rename_i notTwo
  split
  · have lead := lead_three (v / 4096 % 16) (by omega)
    simp only [List.cons_append, List.nil_append]
    rw [decodeFrom_lead lead, decodeFrom_begun (by omega), if_neg (by decide),
      decodeFrom_later (by omega), if_pos (by decide), back (by omega)]
    -- the second byte is bounded so that no two sequences stand for one character
    · split
      · exact Nat.le_trans (show (0xA0 : UInt8).toNat ≤ 32 + 128 by decide) (by omega)
      · exact Nat.le_add_left _ _
    · split
      · exact Nat.le_trans (show _ ≤ 31 + 128 by omega) (by decide)
      · exact Nat.le_trans (show _ ≤ 63 + 128 by omega) (by decide)
  · have lead := lead_four (v / 262144 % 8) (by omega)
    simp only [List.cons_append, List.nil_append]
    rw [decodeFrom_lead lead, decodeFrom_begun (by omega), if_neg (by decide),
      decodeFrom_later (by omega), if_neg (by decide), decodeFrom_later (by omega),
      if_pos (by decide), back (by omega)]
    · split
      · exact Nat.le_trans (show (0x90 : UInt8).toNat ≤ 16 + 128 by decide) (by omega)
      · exact Nat.le_add_left _ _
    · split
      · exact Nat.le_trans (show _ ≤ 15 + 128 by omega) (by decide)
      · exact Nat.le_trans (show _ ≤ 63 + 128 by omega) (by decide)

/-- Text that was written is read as it was. -/
theorem decode_encode (cs : List Char) : decode (encode cs) = cs := by
  unfold decode
  induction cs with
  | nil => rfl
  | cons c cs ih =>
      rw [encode, List.flatMap_cons, decodeFrom_encodeChar]
      exact congrArg (c :: ·) ih

end PageTemplates.Utf8
