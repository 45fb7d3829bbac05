import Mathlib.Data.List.Basic
import PageTemplates.Proofs.Charset.Usable
import PageTemplates.Proofs.Charset.Utf8

/-!
# Text that a charset holds

A character that a charset does not hold is written as a reference, which is read as the
characters it is made of. In UTF-8, Latin-1 and ASCII, text is read back as it was written
if, and only if, the charset holds all its characters. The main facts:

* `Codec.holds`: the characters of these charsets;
* `Codec.read_write_iff`, `Charset.keeps_iff`: the text that is read back.
-/

namespace PageTemplates

/-! ## Tables that begin like Unicode -/

namespace SingleByte

/-- A table of the first code points. -/
structure IsInitial (t : SingleByte) (bound : Nat) : Prop where
  special : t.special = []
  undefined : ∀ b, b ∈ t.undefined ↔ bound ≤ b.toNat
  ascii : 128 ≤ bound
  bytes : bound ≤ 256

theorem isInitial_ascii : ascii.IsInitial 128 where
  special := rfl
  undefined b := by
    simp only [ascii, upperHalf, List.mem_map, List.mem_range]
    constructor
    · rintro ⟨n, small, rfl⟩
      rw [UInt8.toNat_ofNat']
      omega
    · intro high
      exact ⟨b.toNat - 128, by have := b.toNat_lt; omega, by
        rw [Nat.sub_add_cancel high, UInt8.ofNat_toNat]⟩
  ascii := Nat.le_refl _
  bytes := by decide

theorem isInitial_latin1 : latin1.IsInitial 256 where
  special := rfl
  undefined b := by simpa [latin1] using b.toNat_lt
  ascii := by decide
  bytes := Nat.le_refl _

variable {t : SingleByte} {bound : Nat}

theorem IsInitial.char? (h : t.IsInitial bound) {c : Char} (small : c.toNat < bound) :
    t.char? (UInt8.ofNat c.toNat) = some c := by
  have value : (UInt8.ofNat c.toNat).toNat = c.toNat := by
    rw [UInt8.toNat_ofNat', Nat.mod_eq_of_lt (Nat.lt_of_lt_of_le small h.bytes)]
  have inside : UInt8.ofNat c.toNat ∉ t.undefined := by
    rw [h.undefined, value]
    omega
  rw [SingleByte.char?, h.special, List.lookup_nil]
  dsimp only
  rw [if_neg (by simpa using inside), value, Char.ofNat_toNat]

theorem IsInitial.byte? (h : t.IsInitial bound) (c : Char) :
    t.byte? c = if c.toNat < bound then some (UInt8.ofNat c.toNat) else none := by
  rw [SingleByte.byte?, h.special, List.find?_nil]
  dsimp only
  by_cases small : c.toNat < bound
  · rw [if_pos small, h.char? small, if_pos]
    simpa using Nat.lt_of_lt_of_le small h.bytes
  · rw [if_neg small, if_neg]
    rw [Bool.and_eq_true, decide_eq_true_eq, beq_iff_eq, not_and]
    intro byte own
    have value : (UInt8.ofNat c.toNat).toNat = c.toNat := by
      rw [UInt8.toNat_ofNat', Nat.mod_eq_of_lt byte]
    rw [SingleByte.char?, h.special, List.lookup_nil] at own
    dsimp only at own
    rw [if_pos] at own
    · cases own
    · rw [List.contains_iff_mem, h.undefined, value]
      omega

end SingleByte

namespace Codec

theorem ascii_of_mem_toDigits {n : Nat} {d : Char} (h : d ∈ Nat.toDigits 10 n) :
    d.toNat < 128 := by
  have digit := Nat.isDigit_of_mem_toDigits (by decide) (by decide) h
  simp only [Char.isDigit, Bool.and_eq_true, decide_eq_true_eq, UInt32.le_iff_toNat_le] at digit
  exact Nat.lt_of_le_of_lt digit.2 (by decide)

/-- A reference is made of ASCII characters. -/
theorem ascii_of_mem_reference {c d : Char} (h : d ∈ reference c) : d.toNat < 128 := by
  simp only [reference, List.cons_append, List.mem_cons, List.mem_append, List.not_mem_nil,
    or_false] at h
  rcases h with rfl | rfl | digit | rfl
  · decide
  · decide
  · exact ascii_of_mem_toDigits digit
  · decide

/-- Text is read as it was written, but for the references to what is not in the table. -/
theorem decode_encodeWith {t : SingleByte} {bound : Nat} (h : t.IsInitial bound)
    (cs : List Char) :
    t.decode (encodeWith t cs)
      = cs.flatMap fun c => if c.toNat < bound then [c] else reference c := by
  have one (c : Char) (small : c.toNat < bound) :
      (t.char? (UInt8.ofNat c.toNat)).getD replacementChar = c := by
    rw [h.char? small]
    rfl
  rw [SingleByte.decode, encodeWith, List.map_flatMap]
  refine List.flatMap_congr fun c _ => ?_
  rw [h.byte? c]
  by_cases small : c.toNat < bound
  · rw [if_pos small, if_pos small, List.map_singleton, one c small]
  · rw [if_neg small, if_neg small]
    dsimp only
    have low (d : Char) (hd : d ∈ reference c) : d.toNat < bound :=
      Nat.lt_of_lt_of_le (ascii_of_mem_reference hd) h.ascii
    rw [List.map_filterMap]
    refine (List.filterMap_congr fun d hd => ?_).trans List.filterMap_some
    rw [h.byte? d, if_pos (low d hd), Option.map_some, one d (low d hd)]

theorem decode_encodeWith_iff {t : SingleByte} {bound : Nat} (h : t.IsInitial bound)
    (cs : List Char) : t.decode (encodeWith t cs) = cs ↔ ∀ c ∈ cs, c.toNat < bound := by
  rw [decode_encodeWith h]
  constructor
  · intro same c hc
    -- all that is read is in the table
    rw [← same, List.mem_flatMap] at hc
    obtain ⟨d, -, hc⟩ := hc
    split at hc
    · rename_i small
      exact List.mem_singleton.mp hc ▸ small
    · exact Nat.lt_of_lt_of_le (ascii_of_mem_reference hc) h.ascii
  · intro all
    refine (List.flatMap_congr fun c hc => if_pos (all c hc)).trans ?_
    exact List.flatMap_singleton' cs

/-! ## UTF-8, Latin-1 and ASCII -/

/-- Whether a charset is UTF-8, Latin-1 or ASCII. -/
def isPlain : Codec → Bool
  | utf8 | latin1 | ascii => true
  | _ => false

/-- Whether a character is one of UTF-8, Latin-1 or ASCII. -/
def holds (c : Codec) (ch : Char) : Bool :=
  match c with
  | latin1 => ch.toNat < 256
  | ascii => ch.toNat < 128
  | _ => true

variable {c : Codec}

theorem isText_of_isPlain (plain : c.isPlain) : c.isText := by
  cases c <;> first | rfl | cases plain

theorem holds_of_ascii (c : Codec) {ch : Char} (h : ch.toNat < 128) : c.holds ch := by
  cases c <;> simp only [holds, decide_eq_true_eq] <;> omega

/-- Text is read back if the charset holds all its characters. -/
theorem read_write_iff (plain : c.isPlain) (cs : List Char) :
    c.read (c.write cs) = cs ↔ ∀ ch ∈ cs, c.holds ch := by
  cases c with
  | utf8 => simp [read, write, holds, Utf8.decode_encode]
  | latin1 => simpa [read, write, holds] using decode_encodeWith_iff SingleByte.isInitial_latin1 cs
  | ascii => simpa [read, write, holds] using decode_encodeWith_iff SingleByte.isInitial_ascii cs
  | _ => cases plain

theorem write_append (plain : c.isPlain) (cs ds : List Char) :
    c.write (cs ++ ds) = c.write cs ++ c.write ds := by
  cases c with
  | utf8 | latin1 | ascii => exact List.flatMap_append
  | _ => cases plain

end Codec

namespace Charset

variable {name : String} {c : Codec}

theorem decode_of_isPlain (known : Codec.named name = .ok c) (plain : c.isPlain) (bs : Bytes) :
    decode name bs = .ok (String.ofList (c.read bs)) := by
  unfold decode decodeWith
  rw [known]
  dsimp only
  split
  · rename_i empty
    obtain rfl := List.isEmpty_iff.mp empty
    cases c with
    | utf8 | latin1 | ascii => rfl
    | _ => cases plain
  · cases c with
    | utf8 | latin1 | ascii => rfl
    | _ => cases plain

/-- Text is read back as it was written. -/
def Keeps (name s : String) : Prop := ∃ bytes, encode name s = .ok bytes ∧ decode name bytes = .ok s

theorem encode_of_isPlain (known : Codec.named name = .ok c) (plain : c.isPlain) (s : String) :
    encode name s = .ok (c.write s.toList) :=
  encode_of_isText known (Codec.isText_of_isPlain plain) s

/-- Text is read back if, and only if, the charset holds all its characters. -/
theorem keeps_iff (known : Codec.named name = .ok c) (plain : c.isPlain) (s : String) :
    Keeps name s ↔ ∀ ch ∈ s.toList, c.holds ch := by
  rw [Keeps, encode_of_isPlain known plain, ← Codec.read_write_iff plain]
  simp only [Except.ok.injEq, exists_eq_left', decode_of_isPlain known plain,
    ← String.toList_inj, String.toList_ofList]

end Charset

end PageTemplates
