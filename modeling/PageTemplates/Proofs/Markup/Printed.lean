import PageTemplates.Markup.Printer
import PageTemplates.Markup.StartTag
import PageTemplates.Proofs.Text.Ascii

/-!
# Printed tags and text

What is printed for tags and text, as characters. The main facts:

* `isNamePart`: the characters of plain names, with what they are not;
* `toList_print`: a start tag is its name and its attributes, each behind a blank;
* `encode_utf8`: a document as UTF-8;
* `mem_quotedChars`: which characters are never printed inside values.
-/

namespace PageTemplates.Markup

open Text (isBlank)

/-! ## Plain names -/

/-- A character of a plain name: a small letter, a digit or a hyphen. -/
def isNamePart (c : Char) : Bool := c.isLower || c.isDigit || c == '-'

theorem isLower_iff {c : Char} : c.isLower ↔ 97 ≤ c.toNat ∧ c.toNat ≤ 122 :=
  Bool.and_eq_true_iff.trans (and_congr (decide_eq_true_iff.trans UInt32.le_iff_toNat_le)
    (decide_eq_true_iff.trans UInt32.le_iff_toNat_le))

theorem toNat_lt_of_isNamePart {c : Char} (h : isNamePart c) : c.toNat < 128 := by
  simp only [isNamePart, Char.isDigit, Bool.or_eq_true, Bool.and_eq_true, decide_eq_true_eq,
    beq_iff_eq] at h
  rcases h with (h | h) | rfl
  · have := (isLower_iff.mp h).2
    omega
  · have := UInt32.le_iff_toNat_le.mp h.2
    exact Nat.lt_of_le_of_lt this (by decide)
  · decide

/-- What holds of all ASCII characters holds of those of plain names. -/
theorem of_isNamePart {p : Char → Bool}
    (h : (List.range 128).all fun n => !isNamePart (Char.ofNat n) || p (Char.ofNat n)) {c : Char}
    (hc : isNamePart c) : p c :=
  Text.of_asciiKind h (toNat_lt_of_isNamePart hc) hc

/-- The characters that are no part of a plain name. -/
theorem ne_of_isNamePart {c : Char} (h : isNamePart c) :
    c ≠ '<' ∧ c ≠ '>' ∧ c ≠ '/' ∧ c ≠ '=' ∧ c ≠ '"' ∧ isBlank c = false := by
  have all := of_isNamePart (p := fun c => c != '<' && c != '>' && c != '/' && c != '=' &&
    c != '"' && !isBlank c) (by decide +kernel) h
  simpa [and_assoc] using all

/-- The characters of a plain name are those of names of elements and of
attributes as they are read. -/
theorem reads_of_isNamePart {c : Char} (h : isNamePart c) :
    isTagNameChar c ∧ isAttributeStart c ∧ isAttributeChar c ∧ Text.lowerChar c = [c] := by
  have all := of_isNamePart (p := fun c => isTagNameChar c && isAttributeStart c &&
    isAttributeChar c && Text.lowerChar c == [c]) (by decide +kernel) h
  simpa [and_assoc] using all

/-- Plain names are in lower case. -/
theorem lower_eq_self {name : String} (h : name.toList.all isNamePart) :
    Text.lower name = name := by
  have chars : ∀ cs before : List Char, cs.all isNamePart → Text.lowerFrom before cs = cs := by
    intro cs
    induction cs with
    | nil => exact fun _ _ => rfl
    | cons c cs ih =>
        intro before hcs
        rw [List.all_cons, Bool.and_eq_true] at hcs
        have ascii := toNat_lt_of_isNamePart hcs.1
        have noSigma : (c == 'Σ') = false := by
          refine beq_eq_false_iff_ne.mpr ?_
          rintro rfl
          exact absurd ascii (by decide)
        rw [Text.lowerFrom, ih _ hcs.2, noSigma, (reads_of_isNamePart hcs.1).2.2.2]
        rfl
  rw [Text.lower, chars _ _ h, String.ofList_toList]

/-! ## Start tags -/

/-- The characters of a value between double quotes, as they are printed. -/
def quotedChars (s : String) : List Char :=
  s.toList.flatMap fun c => (printValueChar .utf "\"" c).toList

/-- What is printed behind the name of an attribute. -/
def valueChars : Option String → List Char
  | none => []
  | some s => '=' :: '"' :: quotedChars s ++ ['"']

/-- What is printed of an attribute. -/
def attributeChars (a : Attribute) : List Char := ' ' :: a.1.toList ++ valueChars a.2

theorem toList_printAttribute (a : Attribute) :
    (printAttribute .utf a).toList = attributeChars a := by
  obtain ⟨name, value?⟩ := a
  cases value? with
  | none => simp [printAttribute, attributeChars, valueChars]
  | some s => simp [printAttribute, attributeChars, valueChars, printValue, quotedChars]

/-- A start tag is printed as its name and its attributes between brackets. -/
theorem toList_print (t : Tag) : (t.print .utf).toList
    = '<' :: (t.name.toList ++ (t.attributes.flatMap attributeChars ++ ['>'])) := by
  have attributes : (t.attributes.map (printAttribute .utf)).flatMap String.toList
      = t.attributes.flatMap attributeChars := by
    rw [List.flatMap_map]
    exact congrArg (List.flatMap · t.attributes) (funext toList_printAttribute)
  simp [Tag.print, attributes]

/-! ## The charset -/

theorem named_utf8 : Codec.named "utf-8" = .ok .utf8 := by
  have noNul : "utf-8".toList.contains '\x00' = false := by decide
  have found : Codec.ofName? "utf-8" = some .utf8 := by decide +kernel
  simp only [Codec.named, noNul, found]
  rfl

theorem ofName_utf8 : Family.ofName "utf-8" = .ok .utf := by
  simp only [Family.ofName, named_utf8, Family.ofCodec]

/-- A document as UTF-8. -/
theorem encode_utf8 (doc : Document) :
    Document.encode "utf-8" doc = .ok (Utf8.encode (printAll .utf false doc).toList) := by
  simp only [Document.encode, Charset.encode, ofName_utf8, named_utf8, bind, Except.bind]
  rfl

/-! ## Characters that are not printed -/

/-- The characters that are not printed as they are: those of the first four in
text, and all of them in values. -/
def printedOtherwise : List Char := ['<', '>', '&', '\u00a0', '"', '\n']

theorem printChar_plain {c : Char} (h : c ∉ printedOtherwise.take 4) :
    (printChar .utf c).toList = [c] := by
  simp only [printedOtherwise, List.take_succ_cons, List.take_zero, List.mem_cons,
    List.not_mem_nil, or_false, not_or] at h
  have noBreak : (c.toNat == 0xA0) = false :=
    beq_eq_false_iff_ne.mpr fun same => h.2.2.2 (Char.toNat_inj.mp same)
  simp [printChar, h.1, h.2.1, h.2.2.1, noBreak]

theorem printValueChar_plain {c : Char} (h : c ∉ printedOtherwise) :
    (printValueChar .utf "\"" c).toList = [c] := by
  have front : c ∉ printedOtherwise.take 4 := fun hc => h (List.mem_of_mem_take hc)
  simp only [printedOtherwise, List.mem_cons, List.not_mem_nil, or_false, not_or] at h
  have unquoted : ("\"" == String.singleton c) = false := by
    refine beq_eq_false_iff_ne.mpr fun same => h.2.2.2.2.1 ?_
    have chars := congrArg String.toList same
    rw [String.toList_singleton] at chars
    exact (List.cons.inj chars).1.symm
  simp [printValueChar, unquoted, h.2.2.2.2.2, printChar_plain front]

/-- No bracket and no quote is printed inside a value. -/
theorem mem_quotedChars {s : String} {x : Char} (h : x ∈ quotedChars s) :
    x ≠ '<' ∧ x ≠ '>' ∧ x ≠ '"' := by
  rw [quotedChars, List.mem_flatMap] at h
  obtain ⟨c, -, hx⟩ := h
  by_cases hc : c ∈ printedOtherwise
  · have marked : (printedOtherwise.flatMap fun c => (printValueChar .utf "\"" c).toList).all
        fun x => x != '<' && (x != '>' && x != '"') := by decide
    simpa using List.all_eq_true.mp marked x (List.mem_flatMap.mpr ⟨c, hc, hx⟩)
  · rw [printValueChar_plain hc, List.mem_singleton] at hx
    subst hx
    refine ⟨?_, ?_, ?_⟩ <;> rintro rfl <;> exact hc (by decide)

end PageTemplates.Markup
