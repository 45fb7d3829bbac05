import PageTemplates.Markup.Build
import PageTemplates.Proofs.Charset.Held
import PageTemplates.Proofs.Markup.Decoded

/-!
# Text that is read back

What the charset of the output does not hold is printed with references, by the names of HTML 4
where there are any. A reader knows these names too, but takes two of them for other characters.
The main facts:

* `ofNumber_toNat`: the number of an ordinary character is read as the character;
* `readsAs_printed`: ordinary characters are read back for every charset, but for the angle
  brackets, which are read as the signs that have their names today;
* `textEvent_printText`: so text is read as its characters are, whatever stands beside them;
* `printText_readBack`: when it is read as it was, and that its charset holds what is printed.
-/

namespace PageTemplates

/-! ## Ordinary characters -/

namespace Reference

/-- A control character apart from the white space of markup. -/
def isControl (c : Char) : Bool :=
  c.toNat < 0x20 && !(['\t', '\n', '\x0c', '\r'].contains c)
    || 0x7F ≤ c.toNat && c.toNat ≤ 0x9F

/-- A code point that will never be a character: the last two of each plane, and a block of
thirty-two. -/
def isNoncharacter (c : Char) : Bool :=
  0xFDD0 ≤ c.toNat && c.toNat ≤ 0xFDEF || c.toNat % 0x10000 == 0xFFFE
    || c.toNat % 0x10000 == 0xFFFF

/-- A character that text is written with. -/
def isOrdinary (c : Char) : Bool := !isControl c && !isNoncharacter c

/-- The number of an ordinary character is read as the character. -/
theorem ofNumber_toNat {c : Char} (ordinary : isOrdinary c) : ofNumber c.toNat = [c] := by
  simp only [isOrdinary, isControl, isNoncharacter, Bool.and_eq_true, Bool.not_eq_true',
    Bool.or_eq_false_iff, Bool.and_eq_false_iff, decide_eq_false_iff_not, beq_eq_false_iff_ne,
    Bool.not_eq_false', List.contains_iff_mem, List.mem_cons, List.not_mem_nil, or_false]
    at ordinary
  obtain ⟨⟨low, c1⟩, ⟨block, planes⟩⟩ := ordinary
  have white : 0x20 ≤ c.toNat ∨ c.toNat = 9 ∨ c.toNat = 10 ∨ c.toNat = 12 ∨ c.toNat = 13 := by
    rcases low with high | rfl | rfl | rfl | rfl
    · omega
    all_goals decide
  have valid : c.toNat < 0xD800 ∨ 0xDFFF < c.toNat ∧ c.toNat < 0x110000 := c.valid
  by_cases line : c.toNat = 13
  · obtain rfl : c = '\r' := Char.toNat_inj.mp line
    rfl
  · unfold ofNumber
    rw [if_neg, if_neg, if_neg, if_neg, if_neg, Char.ofNat_toNat]
    all_goals
      simp only [Bool.or_eq_true, Bool.and_eq_true, decide_eq_true_eq, beq_iff_eq]
      omega

/-- Only the names of the angle brackets have passed to others. -/
theorem renamed_ne_iff {c : Char} : renamed c ≠ c ↔ c = '\u2329' ∨ c = '\u232A' := by
  constructor
  · intro other
    unfold renamed at other
    split at other
    · rename_i left
      exact .inl left
    split at other
    · rename_i right
      exact .inr right
    · exact absurd rfl other
  · rintro (rfl | rfl) <;> decide

/-- A reference to an ordinary character is read as the character if it has kept its name. -/
theorem readsAs_kept {c : Char} (ordinary : isOrdinary c) (kept : renamed c = c) :
    ReadsAs (Markup.namedReference c.toNat).toList [c] := by
  have reads := readsAs_namedReference c
  rwa [kept, ofNumber_toNat ordinary, ite_self] at reads

end Reference

namespace Markup

open Reference (ReadsAs isOrdinary renamed)

/-! ## Printed text -/

/-- The character that a printed character is read as. -/
def readAs (family : Family) (c : Char) : Char :=
  match family with
  | .utf | .raw => c
  | .latin1 | .ascii => renamed c

/-- What is printed of an ordinary character is read as itself, or as what its name has passed
to. -/
theorem readsAs_printed {family : Family} {c : Char} (ordinary : isOrdinary c) :
    ReadsAs (printChar family c).toList [readAs family c] := by
  cases family with
  | utf | raw => exact readsAs_printChar c
  | latin1 | ascii =>
      by_cases kept : renamed c = c
      · rw [readAs, kept]
        rcases printChar_cases _ c with same | same | same <;> rw [same]
        · exact readsAs_printChar c
        · exact Reference.readsAs_kept ordinary kept
        · rw [← Reference.ofNumber_toNat ordinary]
          exact Reference.readsAs_code c
      · rcases Reference.renamed_ne_iff.mp kept with rfl | rfl
        · exact Reference.readsAs_reference "lang".toList "\u27E8" (by decide) (by decide)
            (by decide) (by decide +kernel)
        · exact Reference.readsAs_reference "rang".toList "\u27E9" (by decide) (by decide)
            (by decide) (by decide +kernel)

/-- Text is read as its printed characters are, whatever stands beside each of them. -/
theorem textEvent_printText (family : Family) {s : String} (ordinary : s.toList.all isOrdinary) :
    textEvent (printText family s).toList
      = .ok (.data (String.ofList (s.toList.map (readAs family)))) := by
  have reads : ReadsAs (printText family s).toList (s.toList.map (readAs family)) := by
    rw [printText, String.toList_ofList]
    exact .flatMap_map fun c hc => readsAs_printed (List.all_eq_true.mp ordinary c hc)
  rw [textEvent, reads.overlong?_eq, reads.decode_eq]

/-- The bytes of a family that has only those of one table. -/
def tableOf? : Family → Option SingleByte
  | .latin1 => some .latin1
  | .ascii => some .ascii
  | .utf | .raw => none

/-- Whatever is printed for such a family has a byte. -/
theorem byte?_printText {family : Family} {t : SingleByte} (table : tableOf? family = some t)
    {s : String} {d : Char} (h : d ∈ (printText family s).toList) : (t.byte? d).isSome := by
  rw [printText, String.toList_ofList, List.mem_flatMap] at h
  obtain ⟨c, -, hd⟩ := h
  have small : (family = .latin1 → d.toNat < 256) ∧ (family = .ascii → d.toNat < 128) := by
    rcases mem_printChar hd with mark | ⟨rfl, -, small⟩
    · have ascii := Reference.toNat_lt_of_isReferenceChar mark
      exact ⟨fun _ => by omega, fun _ => ascii⟩
    · exact small
  cases family with
  | utf | raw => cases table
  | latin1 =>
      cases table
      rw [SingleByte.isInitial_latin1.byte?, if_pos (small.1 rfl)]
      rfl
  | ascii =>
      cases table
      rw [SingleByte.isInitial_ascii.byte?, if_pos (small.2 rfl)]
      rfl

/-- The characters of a text are read as they were where no name has passed to another. -/
theorem map_readAs_eq_iff {family : Family} {cs : List Char} : cs.map (readAs family) = cs ↔
    tableOf? family = none ∨ '\u2329' ∉ cs ∧ '\u232A' ∉ cs := by
  have all : cs.map (readAs family) = cs ↔ ∀ c ∈ cs, readAs family c = c := by
    have pointwise := List.map_inj_left (f := readAs family) (g := id) (l := cs)
    rwa [List.map_id] at pointwise
  have named : (∀ c ∈ cs, renamed c = c) ↔ '\u2329' ∉ cs ∧ '\u232A' ∉ cs := by
    constructor
    · intro kept
      exact ⟨fun left => absurd (kept _ left) (by decide),
        fun right => absurd (kept _ right) (by decide)⟩
    · rintro ⟨left, right⟩ c hc
      by_contra other
      rcases Reference.renamed_ne_iff.mp other with rfl | rfl
      · exact left hc
      · exact right hc
  rw [all]
  cases family with
  | utf | raw => exact ⟨fun _ => .inl rfl, fun _ _ _ => rfl⟩
  | latin1 | ascii =>
      have table (t : SingleByte) : ¬ some t = none := nofun
      rw [tableOf?, or_iff_right (table _)]
      exact named

/-- Text without control characters and noncharacters that is printed for any family is read
with each character as it was, or as what its name has passed to. So it is read as the text
itself exactly if the family has all characters or the text has no angle bracket; and for a family
with the bytes of one table, all that is printed has its byte. -/
theorem printText_readBack {family : Family} {s : String} (ordinary : s.toList.all isOrdinary) :
    textEvent (printText family s).toList
        = .ok (.data (String.ofList (s.toList.map (readAs family)))) ∧
      (textEvent (printText family s).toList = .ok (.data s) ↔
        tableOf? family = none ∨ '\u2329' ∉ s.toList ∧ '\u232A' ∉ s.toList) ∧
      ∀ t, tableOf? family = some t → ∀ d ∈ (printText family s).toList, (t.byte? d).isSome := by
  have read := textEvent_printText family ordinary
  refine ⟨read, ?_, fun t table d hd => byte?_printText table hd⟩
  rw [read, Except.ok.injEq, Event.data.injEq, ← String.toList_inj, String.toList_ofList]
  exact map_readAs_eq_iff

theorem printText_readBack_euro : "é < €".toList.all isOrdinary ∧
    textEvent (printText .ascii "é < €").toList = .ok (.data "é < €") :=
  ⟨by decide, (printText_readBack (by decide)).2.1.mpr (.inr (by decide))⟩

/-- An angle bracket is printed by its name, which is read as a mathematical sign. -/
theorem angleBracket_changed : "\u2329".toList.all isOrdinary ∧
    printText .ascii "\u2329" = "&lang;" ∧
    textEvent (printText .ascii "\u2329").toList = .ok (.data "\u27E8") ∧
    "\u27E8" ≠ "\u2329" := by
  have ordinary : "\u2329".toList.all isOrdinary := by decide
  exact ⟨ordinary, by decide +kernel, textEvent_printText .ascii ordinary, by decide⟩

end Markup

end PageTemplates
