import PageTemplates.Markup.Escape
import PageTemplates.Proofs.Script.Unmark
import PageTemplates.Proofs.Text.Replace

/-!
# What undoing references gives back

The text of an embedded script is printed with references, escaped, and then
its references are undone. What comes out is worked out here, and when it is the
text itself. The main facts:

* `unmark_escape`: references can be undone before the text is escaped;
* `unmark_escape_printText`: of the references that printing puts in, all but
  those to no-break spaces are undone, and so are some that the text had itself;
* `undone_eq_self_iff`: the text comes out unchanged just if it has neither.
-/

namespace PageTemplates.Script

open Markup
open Text (replaceAll PrintedAs replaceAll_flatMap replaceAll_flatMap_of_hidden
  foldl_replaceAll_eq_self_iff mem_foldl_replaceAll)

/-! ## Escaped text -/

/-- The references of a text itself that are undone, with what they become. -/
def textReferences : List (List Char × List Char) :=
  [("&lt;".toList, ['<']), ("&gt;".toList, ['>']), ("&#10;".toList, ['\n']),
   ("&#13;".toList, ['\n'])]

/-- Undoes references in text that is not escaped. -/
def undo (s : List Char) : List Char :=
  textReferences.foldl (fun s r => replaceAll r.1 r.2 s) s

theorem printedAs_escapeChar {w : List Char} (hw : '\\' ∉ w) (repl : List Char) (c : Char) :
    PrintedAs '&' w repl c (escapeChar c) (escapeChar c) := by
  have hex : ∀ {x : Char} {n : Nat}, hexValue? x = some n → x ≠ '&' := by
    rintro x n hx rfl
    cases hx
  have apart : ∀ ys rest, ¬ '&' :: w <+: '\\' :: ys ++ rest := by
    intro ys rest h
    exact absurd (List.cons_prefix_cons.mp h).1 (by decide)
  have form := escapeForm c
  generalize escapeChar c = cs at form
  cases form with
  | @simple x h =>
      refine .other hw ?_ (apart _)
      rw [List.mem_singleton]
      rintro rfl
      cases h
  | code hx hy control =>
      refine .other hw ?_ (apart _)
      simp [(hex hx).symm, (hex hy).symm]
  | plain h slash => exact .itself

/-- A word that is the same in escaped text. -/
structure IsUnescaped (word : List Char) : Prop where
  begins : ∃ w, word = '&' :: w ∧ '&' ∉ w ∧ w ≠ []
  unescaped : ∀ c ∈ word, escapeChar c = [c]

/-- Such a word is replaced in escaped text as it is in the text. -/
theorem IsUnescaped.replaceAll_flatMap {word : List Char} (h : IsUnescaped word)
    (repl s : List Char) :
    replaceAll word (repl.flatMap escapeChar) (s.flatMap escapeChar)
      = (replaceAll word repl s).flatMap escapeChar := by
  obtain ⟨⟨w, rfl, once, long⟩, unescaped⟩ := h
  have backslash : '\\' ∉ w := by
    intro h
    exact absurd (unescaped _ (List.mem_cons_of_mem _ h)) (by decide)
  exact Text.replaceAll_flatMap (printedAs_escapeChar backslash _) once long unescaped rfl s

theorem foldl_replace_escape {words : List (List Char × List Char)}
    (h : ∀ r ∈ words, IsUnescaped r.1) (s : List Char) :
    (words.map fun r => (String.ofList r.1, escape (String.ofList r.2))).foldl
        (fun t r => Text.replace t r.1 r.2) (escape (String.ofList s))
      = escape (String.ofList (words.foldl (fun s r => replaceAll r.1 r.2 s) s)) := by
  induction words generalizing s with
  | nil => rfl
  | cons r words ih =>
      have first : Text.replace (escape (String.ofList s)) (String.ofList r.1)
          (escape (String.ofList r.2)) = escape (String.ofList (replaceAll r.1 r.2 s)) := by
        have replaced := (h r List.mem_cons_self).replaceAll_flatMap r.2 s
        simp only [Text.replace, escape, String.toList_ofList, replaced]
      rw [List.map_cons, List.foldl_cons, List.foldl_cons, first]
      exact ih (fun r' hr => h r' (List.mem_cons_of_mem _ hr)) _

/-- The references that are undone, with what they become in text. -/
def unmarked : List (List Char × List Char) := ("&amp;".toList, ['&']) :: textReferences

theorem isUnescaped_of_mem {r : List Char × List Char} (h : r ∈ unmarked) : IsUnescaped r.1 := by
  simp only [unmarked, textReferences, List.mem_cons, List.not_mem_nil, or_false] at h
  rcases h with rfl | rfl | rfl | rfl | rfl <;>
    exact ⟨⟨_, rfl, by decide, by decide⟩, List.map_inj_left.mp (by decide)⟩

/-- References can be undone before text is escaped. -/
theorem unmark_escape (s : List Char) :
    unmark (escape (String.ofList s))
      = escape (String.ofList (undo (replaceAll "&amp;".toList ['&'] s))) := by
  have same : references = unmarked.map fun r => (String.ofList r.1, escape (String.ofList r.2)) :=
    by decide
  rw [unmark_eq, same, foldl_replace_escape fun r hr => isUnescaped_of_mem hr]
  rfl

/-! ## Printed text -/

/-- The no-break space. -/
def noBreak : Char := '\u00a0'

/-- A character as it is printed where just those in `marked` are printed by
references. -/
def printMarked (marked : List Char) (c : Char) : List Char :=
  if c ∈ marked then (printChar .utf c).toList else [c]

theorem toList_printChar_utf (c : Char) :
    (printChar .utf c).toList = printMarked ['&', '<', '>', noBreak] c := by
  unfold printMarked
  split
  · rfl
  · rename_i h
    simp only [List.mem_cons, List.not_mem_nil, or_false, not_or] at h
    obtain ⟨amp, lt, gt, space⟩ := h
    have code : c.toNat ≠ 0xA0 := by
      intro hc
      exact space (Char.toNat_inj.mp hc)
    simp [printChar, amp, lt, gt, code]

/-- References that differ behind their first character have no part in one
another. -/
theorem printedAs_reference {x y c : Char} {w ys repl : List Char} (hxy : x ≠ y)
    (hw : '&' ∉ x :: w) (hys : '&' ∉ y :: ys) :
    PrintedAs '&' (x :: w) repl c ('&' :: y :: ys) ('&' :: y :: ys) := by
  refine .other hw hys fun rest h => ?_
  exact hxy (List.cons_prefix_cons.mp (List.cons_prefix_cons.mp h).2).1

/-- How characters are printed is known from those that are ever printed by
references. -/
theorem printedAs_printMarked {marked marked' w repl : List Char}
    (hm : marked ⊆ ['&', '<', '>', noBreak]) (hm' : marked' ⊆ ['&', '<', '>', noBreak])
    (h : ∀ c ∈ ['&', '<', '>', noBreak],
      PrintedAs '&' w repl c (printMarked marked c) (printMarked marked' c))
    (c : Char) : PrintedAs '&' w repl c (printMarked marked c) (printMarked marked' c) := by
  by_cases hc : c ∈ ['&', '<', '>', noBreak]
  · exact h c hc
  · have out : ∀ {l : List Char}, l ⊆ ['&', '<', '>', noBreak] → printMarked l c = [c] := by
      intro l hl
      exact if_neg fun h => hc (hl h)
    rw [out hm, out hm']
    exact .itself

theorem undo_amp (s : List Char) :
    replaceAll "&amp;".toList ['&'] (s.flatMap (printMarked ['&', '<', '>', noBreak]))
      = s.flatMap (printMarked ['<', '>', noBreak]) := by
  refine replaceAll_flatMap_of_hidden (printedAs_printMarked (by simp) (by simp) ?_) ?_ s
  · simp only [List.forall_mem_cons]
    exact ⟨.word, printedAs_reference (by decide) (by decide) (by decide),
      printedAs_reference (by decide) (by decide) (by decide),
      printedAs_reference (by decide) (by decide) (by decide), by simp⟩
  · rintro c hc rfl
    exact absurd hc (by decide)

theorem undo_lt (s : List Char) :
    replaceAll "&lt;".toList ['<'] (s.flatMap (printMarked ['<', '>', noBreak]))
      = (replaceAll "&lt;".toList ['<'] s).flatMap (printMarked ['>', noBreak]) := by
  refine replaceAll_flatMap (printedAs_printMarked (by simp) (by simp) ?_) (by decide) (by decide)
    (List.map_inj_left.mp (by decide)) (by decide) s
  simp only [List.forall_mem_cons]
  exact ⟨.itself, .word, printedAs_reference (by decide) (by decide) (by decide),
    printedAs_reference (by decide) (by decide) (by decide), by simp⟩

theorem undo_gt (s : List Char) :
    replaceAll "&gt;".toList ['>'] (s.flatMap (printMarked ['>', noBreak]))
      = (replaceAll "&gt;".toList ['>'] s).flatMap (printMarked [noBreak]) := by
  refine replaceAll_flatMap (printedAs_printMarked (by simp) (by simp) ?_) (by decide) (by decide)
    (List.map_inj_left.mp (by decide)) (by decide) s
  simp only [List.forall_mem_cons]
  exact ⟨.itself, .itself, .word, printedAs_reference (by decide) (by decide) (by decide), by simp⟩

/-- References by number are none that text is printed with. -/
theorem undo_number {w : List Char} (hw : '&' ∉ '#' :: w) (plain : noBreak ∉ w) (s : List Char) :
    replaceAll ('&' :: '#' :: w) ['\n'] (s.flatMap (printMarked [noBreak]))
      = (replaceAll ('&' :: '#' :: w) ['\n'] s).flatMap (printMarked [noBreak]) := by
  refine replaceAll_flatMap (printedAs_printMarked (by simp) (by simp) ?_) hw (by simp) ?_
    (by decide) s
  · simp only [List.forall_mem_cons]
    exact ⟨.itself, .itself, .itself, printedAs_reference (by decide) hw (by decide), by simp⟩
  · intro c hc
    refine if_neg fun h => ?_
    rw [List.mem_singleton] at h
    subst h
    exact absurd hc (by simpa [noBreak] using plain)

/-- What comes out of a script: its text with the references that it had itself
undone, and with references to its no-break spaces. -/
theorem unmark_escape_printText (s : String) :
    unmark (escape (printText .utf s))
      = escape (String.ofList ((undo s.toList).flatMap (printMarked [noBreak]))) := by
  have printed : printText .utf s
      = String.ofList (s.toList.flatMap (printMarked ['&', '<', '>', noBreak])) := by
    rw [printText]
    congr 2
    funext c
    exact toList_printChar_utf c
  rw [printed, unmark_escape, undo_amp]
  simp only [undo, textReferences, List.foldl_cons, List.foldl_nil]
  rw [undo_lt, undo_gt]
  congr 2
  exact (congrArg _ (undo_number (by decide) (by decide) _)).trans
    (undo_number (by decide) (by decide) _)

/-! ## Text that survives -/

theorem flatMap_printMarked {s : List Char} (h : noBreak ∉ s) :
    s.flatMap (printMarked [noBreak]) = s := by
  induction s with
  | nil => rfl
  | cons c s ih =>
      rw [List.mem_cons, not_or] at h
      have hc : printMarked [noBreak] c = [c] := if_neg (by simpa using Ne.symm h.1)
      rw [List.flatMap_cons, hc, ih h.2, List.singleton_append]

theorem noBreak_notMem_flatMap (s : List Char) : noBreak ∉ s.flatMap (printMarked [noBreak]) := by
  rw [List.mem_flatMap]
  rintro ⟨c, -, hc⟩
  unfold printMarked at hc
  split at hc
  · rename_i h
    rw [List.mem_singleton] at h
    subst h
    exact absurd hc (by decide)
  · rename_i h
    rw [List.mem_singleton] at hc h
    exact h hc.symm

theorem shrinks : ∀ r ∈ textReferences, r.2.length < r.1.length := by decide

theorem noBreak_notMem_undo {s : List Char} (h : noBreak ∉ s) : noBreak ∉ undo s :=
  fun hm => h (mem_foldl_replaceAll (by decide) hm)

/-- The text of a script comes out unchanged if it has no no-break space and none
of the references that are undone. -/
theorem undone_eq_self_iff (s : List Char) :
    (undo s).flatMap (printMarked [noBreak]) = s ↔
      noBreak ∉ s ∧ ∀ r ∈ textReferences, ¬ r.1 <:+: s := by
  constructor
  · intro same
    have space : noBreak ∉ s := by
      rw [← same]
      exact noBreak_notMem_flatMap (undo s)
    rw [flatMap_printMarked (noBreak_notMem_undo space)] at same
    exact ⟨space, (foldl_replaceAll_eq_self_iff shrinks).mp same⟩
  · rintro ⟨space, absent⟩
    rw [flatMap_printMarked (noBreak_notMem_undo space)]
    exact (foldl_replaceAll_eq_self_iff shrinks).mpr absent

end PageTemplates.Script
