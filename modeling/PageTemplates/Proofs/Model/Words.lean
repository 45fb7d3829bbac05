import PageTemplates.Charset.Utf8
import PageTemplates.Proofs.Model.Bounds
import PageTemplates.Proofs.Text.Ascii
import PageTemplates.Proofs.Text.Occurrence

/-!
# ASCII words in bytes

Text is searched in bytes, in lower case. An ASCII word is found there only
where it stands in the text. The main facts:

* `lowered`: text as it is searched;
* `spelled_loweredChar`: a character is one letter of an ASCII word or no part of it;
* `infix_of_infix_lowered`, `lowered_eq_iff`: an ASCII word in the bytes stands in
  the text, in letters of any case.
-/

namespace PageTemplates.Model

open Text (Spelled Free of_ascii)

/-- The bytes of a character, in lower case. -/
def loweredChar (c : Char) : Bytes := Bytes.lower (String.utf8EncodeChar c)

/-- The bytes of text, in lower case. -/
def lowered (cs : List Char) : Bytes := (Utf8.encode cs).lower

theorem lowered_eq_flatMap (cs : List Char) : lowered cs = cs.flatMap loweredChar := by
  rw [lowered, Utf8.encode, Bytes.lower, List.map_flatMap]
  rfl

@[simp] theorem lowered_nil : lowered [] = [] := rfl

@[simp] theorem lowered_append (xs ys : List Char) :
    lowered (xs ++ ys) = lowered xs ++ lowered ys := by
  simp [lowered_eq_flatMap]

theorem length_lowered (cs : List Char) : (lowered cs).length = (Utf8.encode cs).length := by
  simp [lowered]

/-! ## Characters -/

/-- The byte of an ASCII character. -/
def asciiByte (c : Char) : UInt8 := UInt8.ofNat c.toNat

theorem loweredChar_ascii {c : Char} (h : c.toNat < 128) :
    loweredChar c = [asciiByte c.toLower] ∧ c.toLower.toNat < 128 := by
  have all := of_ascii (p := fun c => loweredChar c == [asciiByte c.toLower] &&
    decide (c.toLower.toNat < 128)) (by decide +kernel) h
  simpa using all

/-- The bytes of other characters are not those of ASCII characters. -/
theorem mem_loweredChar {c : Char} (h : 128 ≤ c.toNat) {b : UInt8} (hb : b ∈ loweredChar c) :
    128 ≤ b.toNat := by
  rw [loweredChar, Bytes.lower, List.mem_map] at hb
  obtain ⟨a, ha, rfl⟩ := hb
  have above : 128 ≤ a.toNat := by
    have val : c.val.toNat = c.toNat := rfl
    simp only [String.utf8EncodeChar, val] at ha
    rw [if_neg (by omega)] at ha
    split at ha
    · simp only [List.mem_cons, List.not_mem_nil, or_false] at ha
      rcases ha with rfl | rfl <;> rw [UInt8.toNat_ofNat'] <;> omega
    · split at ha
      · simp only [List.mem_cons, List.not_mem_nil, or_false] at ha
        rcases ha with rfl | rfl | rfl <;> rw [UInt8.toNat_ofNat'] <;> omega
      · simp only [List.mem_cons, List.not_mem_nil, or_false] at ha
        rcases ha with rfl | rfl | rfl | rfl <;> rw [UInt8.toNat_ofNat'] <;> omega
  rw [toNat_lowerByte, if_neg (by omega)]
  exact above

theorem loweredChar_ne_nil (c : Char) : loweredChar c ≠ [] := by
  intro empty
  have length := congrArg List.length empty
  rw [loweredChar, Bytes.length_lower, String.length_utf8EncodeChar] at length
  exact absurd length (Nat.ne_of_gt (Char.utf8Size_pos c))

theorem toNat_asciiByte {c : Char} (h : c.toNat < 128) : (asciiByte c).toNat = c.toNat := by
  rw [asciiByte, UInt8.toNat_ofNat']
  omega

theorem asciiByte_inj {c d : Char} (hc : c.toNat < 128) (hd : d.toNat < 128)
    (h : asciiByte c = asciiByte d) : c = d := by
  have same := congrArg UInt8.toNat h
  rw [toNat_asciiByte hc, toNat_asciiByte hd] at same
  exact Char.toNat_inj.mp same

/-- A character is one letter of an ASCII word, or no part of it. -/
theorem spelled_loweredChar {word : List Char} (h : ∀ x ∈ word, x.toNat < 128) (c : Char) :
    Spelled asciiByte word c.toLower (loweredChar c) := by
  by_cases hc : c.toNat < 128
  · obtain ⟨bytes, small⟩ := loweredChar_ascii hc
    rw [bytes]
    exact .itself fun x hx same => asciiByte_inj (h x hx) small same
  · have foreign : ∀ x ∈ word, ∀ b ∈ loweredChar c, asciiByte x ≠ b := by
      rintro x hx b hb rfl
      have := mem_loweredChar (by omega) hb
      rw [toNat_asciiByte (h x hx)] at this
      have := h x hx
      omega
    cases hbytes : loweredChar c with
    | nil => exact absurd hbytes (loweredChar_ne_nil c)
    | cons b bs =>
        rw [hbytes] at foreign
        refine .other (fun x hx => foreign x hx b List.mem_cons_self) fun x hx inside => ?_
        exact foreign x (List.mem_of_mem_head? hx) _ (List.mem_cons_of_mem _ inside) rfl

/-! ## Words -/

theorem ofAscii_eq_map (word : String) : Bytes.ofAscii word = word.toList.map asciiByte := rfl

/-- An ASCII word in the bytes of text stands in the text, in letters of any
case. -/
theorem infix_of_infix_lowered {word : String} (h : ∀ x ∈ word.toList, x.toNat < 128)
    {cs : List Char} (there : Bytes.ofAscii word <:+: lowered cs) :
    word.toList <:+: cs.map Char.toLower := by
  rw [lowered_eq_flatMap, ofAscii_eq_map] at there
  exact Text.infix_of_infix_flatMap (fun c _ => spelled_loweredChar h c) there

/-- An ASCII character that is no letter is not in the bytes of text without
it. -/
theorem notMem_lowered {x : Char} (hx : x.toNat < 128)
    (sole : (List.range 128).all fun n =>
      asciiByte (Char.ofNat n).toLower != asciiByte x || Char.ofNat n == x)
    {cs : List Char} (h : x ∉ cs) : asciiByte x ∉ lowered cs := by
  rw [lowered_eq_flatMap, List.mem_flatMap]
  rintro ⟨c, hc, there⟩
  by_cases ascii : c.toNat < 128
  · rw [(loweredChar_ascii ascii).1, List.mem_singleton] at there
    have same := of_ascii (p := fun c => asciiByte c.toLower != asciiByte x || c == x) sole ascii
    obtain rfl : c = x := by simpa [← there] using same
    exact h hc
  · have := mem_loweredChar (by omega) there
    rw [toNat_asciiByte hx] at this
    omega

theorem toLower_foreign {c : Char} (h : 128 ≤ c.toNat) : c.toLower = c := by
  unfold Char.toLower
  refine dif_neg fun upper => ?_
  have : c.toNat ≤ 90 := UInt32.le_iff_toNat_le.mp upper.2
  omega

/-- The bytes are those of an ASCII word just when the text is that word, in
letters of any case. -/
theorem lowered_eq_iff {word : String} (h : ∀ x ∈ word.toList, x.toNat < 128) (cs : List Char) :
    lowered cs = Bytes.ofAscii word ↔ cs.map Char.toLower = word.toList := by
  rw [ofAscii_eq_map]
  generalize word.toList = w at h
  induction cs generalizing w with
  | nil => cases w <;> simp
  | cons c cs ih =>
      rw [lowered_eq_flatMap, List.flatMap_cons, ← lowered_eq_flatMap, List.map_cons]
      have here := spelled_loweredChar h c
      cases w with
      | nil =>
          generalize loweredChar c = bs at here
          cases here <;> simp
      | cons x w =>
          rw [List.forall_mem_cons] at h
          by_cases hc : c.toNat < 128
          · obtain ⟨bytes, small⟩ := loweredChar_ascii hc
            have same : asciiByte c.toLower = asciiByte x ↔ c.toLower = x :=
              ⟨asciiByte_inj small h.1, congrArg asciiByte⟩
            rw [bytes]
            simp only [List.singleton_append, List.map_cons, List.cons.injEq, same, ih w h.2]
          · -- such a character is no letter of the word
            refine iff_of_false (fun same => ?_) (fun same => ?_)
            · cases hbytes : loweredChar c with
              | nil => exact loweredChar_ne_nil c hbytes
              | cons b bs =>
                  rw [hbytes, List.cons_append, List.map_cons, List.cons.injEq] at same
                  have := mem_loweredChar (c := c) (b := b) (by omega) (by simp [hbytes])
                  rw [same.1, toNat_asciiByte h.1] at this
                  omega
            · have letter := (List.cons.inj same).1
              rw [toLower_foreign (by omega)] at letter
              rw [letter] at hc
              exact hc h.1

end PageTemplates.Model
