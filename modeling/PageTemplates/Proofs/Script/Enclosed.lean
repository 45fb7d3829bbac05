import Mathlib.Algebra.Ring.Parity
import PageTemplates.Proofs.Text.Ascii
import PageTemplates.Proofs.Script.Unescape

/-!
# Escaped text between quotes

A string literal ends at the first of its quotes that is not escaped, and an
embedded script at the first `</`. Escaped text can stand in a literal of either
kind of quotes: nothing in it ends the literal or the script, and the literal is
read as the text. The main facts:

* `Pending`, `pending_concat`: behind which texts a character is escaped;
* `Tight`, `tight_escape`: text made of escapes and of characters that need none;
* `Tight.pending_inside`, `Tight.closes`: what that says of the quotes in it, and
  of the quote behind it;
* `escape_encloses`: escaped text between quotes.
-/

namespace PageTemplates.Script

/-! ## Literals -/

/-- The quotes of a literal. -/
inductive Quote where
  | single
  | double
deriving Repr, DecidableEq

/-- A quote as it is written. -/
def Quote.char : Quote → Char
  | single => '\''
  | double => '"'

/-- The text in front of the first `q` that no backslash escapes, and what
stands behind that `q`. -/
def splitAtQuote? (q : Char) : List Char → Option (List Char × List Char)
  | [] => none
  | '\\' :: c :: cs => (splitAtQuote? q cs).map fun (inside, rest) => ('\\' :: c :: inside, rest)
  | c :: cs =>
      if c == q then some ([], cs)
      else (splitAtQuote? q cs).map fun (inside, rest) => (c :: inside, rest)

/-- Reads a literal at the beginning of a text: what it stands for, and what
stands behind it. -/
def readLiteral? : List Char → Option (List Char × List Char)
  | [] => none
  | q :: cs =>
      if q == '\'' || q == '"' then
        (splitAtQuote? q cs).bind fun (inside, rest) => (read? q inside).map (·, rest)
      else none

/-! ## Escapes that are not finished -/

/-- The last character of a text escapes what follows: the text ends in an odd
number of backslashes, so that the last one is not escaped itself. -/
def Pending (cs : List Char) : Prop := Odd (cs.reverse.takeWhile (· == '\\')).length

variable {front : List Char} {c : Char}

theorem not_pending_nil : ¬ Pending [] := by simp [Pending]

theorem pending_concat : Pending (front ++ [c]) ↔ c = '\\' ∧ ¬ Pending front := by
  unfold Pending
  rw [List.reverse_append, List.reverse_singleton, List.singleton_append, List.takeWhile_cons]
  by_cases h : c = '\\'
  · simp [h, Nat.odd_add_one]
  · simp [h]

theorem not_pending_plain (hc : c ≠ '\\') : ¬ Pending (front ++ [c]) := by
  rw [pending_concat]
  exact fun both => hc both.1

theorem pending_escape (free : ¬ Pending front) : Pending (front ++ ['\\']) :=
  pending_concat.mpr ⟨rfl, free⟩

theorem not_pending_escape (free : ¬ Pending front) : ¬ Pending (front ++ ['\\'] ++ [c]) := by
  rw [pending_concat]
  exact fun both => both.2 (pending_escape free)

/-! ## Texts that can stand in a literal -/

/-- A character that ends a literal, or a script when it follows `<`. -/
def isEnding (c : Char) : Bool := c == '\'' || c == '"' || c == '/'

/-- A character that can stand in a literal as it is. -/
def isFree (c : Char) : Bool := c != '\\' && !isEnding c && decide (0x20 ≤ c.toNat)

theorem isFree_iff {c : Char} :
    isFree c ↔ c ≠ '\\' ∧ isEnding c = false ∧ 0x20 ≤ c.toNat := by
  simp [isFree, and_assoc]

/-- A text of escapes and of characters that need none, without control
characters. -/
inductive Tight : List Char → Prop where
  | nil : Tight []
  | plain {c : Char} {cs : List Char} (h : isFree c) (rest : Tight cs) : Tight (c :: cs)
  | escape {c : Char} {cs : List Char} (visible : 0x20 ≤ c.toNat) (rest : Tight cs) :
      Tight ('\\' :: c :: cs)

namespace Tight

variable {cs ds inner rest : List Char} {q : Char}

theorem append (h : Tight cs) (h' : Tight ds) : Tight (cs ++ ds) := by
  induction h with
  | nil => exact h'
  | plain hc _ ih => exact .plain hc ih
  | escape visible _ ih => exact .escape visible ih

theorem visible (h : Tight cs) : ∀ c ∈ cs, 0x20 ≤ c.toNat := by
  induction h with
  | nil => exact nofun
  | plain hc _ ih => exact List.forall_mem_cons.mpr ⟨(isFree_iff.mp hc).2.2, ih⟩
  | escape visible _ ih =>
      exact List.forall_mem_cons.mpr ⟨by decide, List.forall_mem_cons.mpr ⟨visible, ih⟩⟩

/-- All escapes are finished. -/
theorem not_pending (h : Tight cs) (free : ¬ Pending front) : ¬ Pending (front ++ cs) := by
  induction h generalizing front with
  | nil => rwa [List.append_nil]
  | plain hc _ ih =>
      rw [List.append_cons]
      exact ih (not_pending_plain (isFree_iff.mp hc).1)
  | escape _ _ ih =>
      rw [List.append_cons, List.append_cons]
      exact ih (not_pending_escape free)

/-- What would end the literal is escaped. -/
theorem pending_inside (h : Tight cs) (free : ¬ Pending front) (here : cs = inner ++ c :: rest)
    (ends : isEnding c) : Pending (front ++ inner) := by
  induction h generalizing front inner with
  | nil => simp at here
  | plain hc _ ih =>
      -- a plain character ends nothing, so the end lies further on
      obtain ⟨unlike, stays, -⟩ := isFree_iff.mp hc
      cases inner with
      | nil =>
          cases here
          rw [ends] at stays
          cases stays
      | cons d inner =>
          cases here
          rw [List.append_cons]
          exact ih (not_pending_plain unlike) rfl
  | escape _ _ ih =>
      match inner, here with
      | [], here =>
          cases here
          cases ends
      | [d], here =>
          cases here
          exact pending_escape free
      | d :: e :: inner, here =>
          cases here
          rw [List.append_cons, List.append_cons]
          exact ih (not_pending_escape free) rfl

/-- A slash never follows `<`. -/
theorem not_endTag (h : Tight cs) : ¬ ['<', '/'] <:+: cs := by
  rintro ⟨inner, rest, here⟩
  have split : cs = (inner ++ ['<']) ++ '/' :: rest := by
    rw [← here]
    simp
  have pending := h.pending_inside not_pending_nil split rfl
  rw [List.nil_append] at pending
  exact not_pending_plain (by decide) pending

/-- A literal ends with the quote behind the text. -/
theorem closes (h : Tight cs) (ends : isEnding q) :
    splitAtQuote? q (cs ++ q :: rest) = some (cs, rest) := by
  have hq : q ≠ '\\' := by
    rintro rfl
    cases ends
  induction h with
  | nil =>
      rw [List.nil_append, splitAtQuote?.eq_3]
      · simp
      · rintro c cs rfl
        exact absurd rfl hq
  | @plain c cs hc _ ih =>
      obtain ⟨unlike, stays, -⟩ := isFree_iff.mp hc
      have other : c ≠ q := by
        rintro rfl
        rw [ends] at stays
        cases stays
      rw [List.cons_append, splitAtQuote?.eq_3]
      · simp [other, ih]
      · rintro d ds rfl
        exact absurd rfl unlike
  | escape _ _ ih =>
      rw [List.cons_append, List.cons_append, splitAtQuote?, ih]
      rfl

end Tight

/-! ## Escaped text -/

/-- The characters that cannot stand as they are belong to ASCII. -/
theorem toNat_lt_of_not_isFree {c : Char} (h : isFree c = false) : c.toNat < 128 := by
  simp only [isFree, isEnding, Bool.and_eq_false_iff, Bool.not_eq_false', Bool.or_eq_true,
    beq_iff_eq, bne_eq_false_iff_eq, decide_eq_false_iff_not] at h
  rcases h with (rfl | (rfl | rfl) | rfl) | control
  · decide
  · decide
  · decide
  · decide
  · omega

/-- What holds of all of them. -/
theorem of_not_isFree {p : Char → Bool}
    (h : (List.range 128).all fun n => isFree (Char.ofNat n) || p (Char.ofNat n)) {c : Char}
    (hc : isFree c = false) : p c := by
  have here := Text.of_ascii (p := fun c => isFree c || p c) h (toNat_lt_of_not_isFree hc)
  rwa [hc, Bool.false_or] at here

theorem isFree_of_escapeChar {c : Char} (h : escapeChar c = [c]) : isFree c := by
  by_contra needed
  have written := of_not_isFree (p := fun c => escapeChar c != [c]) (by decide)
    (Bool.eq_false_iff.mpr needed)
  rw [h, bne_self_eq_false] at written
  cases written

theorem isFree_of_hexValue? {c : Char} {n : Nat} (h : hexValue? c = some n) : isFree c := by
  by_contra needed
  have noDigit := of_not_isFree (p := fun c => (hexValue? c).isNone) (by decide)
    (Bool.eq_false_iff.mpr needed)
  rw [h] at noDigit
  cases noDigit

theorem visible_of_simpleEscape? {x c : Char} (h : simpleEscape? x = some c) :
    0x20 ≤ x.toNat := by
  unfold simpleEscape? at h
  split at h <;> first | decide | cases h

theorem tight_escapeChar (c : Char) : Tight (escapeChar c) := by
  have form := escapeForm c
  generalize written : escapeChar c = cs at form
  cases form with
  | simple h => exact .escape (visible_of_simpleEscape? h) .nil
  | code hx hy control =>
      have digits : Tight ['0', '0', _, _] := .plain rfl <| .plain rfl <|
        .plain (isFree_of_hexValue? hx) <| .plain (isFree_of_hexValue? hy) .nil
      exact .escape (by decide) digits
  | plain => exact .plain (isFree_of_escapeChar written) .nil

theorem tight_escape (s : String) : Tight (escape s).toList := by
  rw [escape, String.toList_ofList]
  induction s.toList with
  | nil => exact .nil
  | cons c cs ih => exact (tight_escapeChar c).append ih

/-- An escaped character is read as the character, whatever the quotes are. -/
theorem spells_escapeChar (q : Quote) (c : Char) : Spells q.char (escapeChar c) [c] := by
  refine (escapeForm c).spells ?_
  rintro same rfl
  revert same
  cases q <;> decide

theorem read?_escape (q : Quote) (s : String) : read? q.char (escape s).toList = some s.toList := by
  have spelled : Spells q.char (escape s).toList s.toList := by
    rw [escape, String.toList_ofList]
    induction s.toList with
    | nil => exact .nil
    | cons c cs ih => exact (spells_escapeChar q c).append ih
  have whole := spelled []
  rw [List.append_nil] at whole
  rw [whole]
  simp [read?]

theorem readLiteral?_escape (q : Quote) (s : String) (rest : List Char) :
    readLiteral? (q.char :: ((escape s).toList ++ q.char :: rest)) = some (s.toList, rest) := by
  have isQuote : (q.char == '\'' || q.char == '"') = true := by cases q <;> rfl
  have ends : isEnding q.char := by cases q <;> rfl
  rw [readLiteral?, if_pos isQuote, (tight_escape s).closes ends, Option.bind_some]
  dsimp only
  rw [read?_escape q s, Option.map_some]

/-- A text that can be put between quotes of either kind to make a literal for
`s`. -/
structure Encloses (s t : String) : Prop where
  /-- Its escapes are read as `s`. -/
  read : ∀ q : Quote, read? q.char t.toList = some s.toList
  /-- The literal ends with the quote behind it, whatever follows. -/
  literal : ∀ (q : Quote) (rest : List Char),
    readLiteral? (q.char :: (t.toList ++ q.char :: rest)) = some (s.toList, rest)
  /-- A quote or a slash stands behind a backslash that is not escaped. -/
  escaped : ∀ (front : List Char) (c : Char) (rest : List Char),
    t.toList = front ++ c :: rest → c = '\'' ∨ c = '"' ∨ c = '/' → Pending front
  /-- No backslash is left at the end. -/
  finished : ¬ Pending t.toList
  /-- There are no control characters. -/
  visible : ∀ c ∈ t.toList, 0x20 ≤ c.toNat
  /-- No end tag begins in it. -/
  noEndTag : ¬ ['<', '/'] <:+: t.toList

/-- Escaped text stands for the text between quotes of either kind, holds nothing that
ends the literal or a script around it, and belongs to one text only. -/
theorem escape_encloses :
    (∀ s, Encloses s (escape s)) ∧ Function.Injective escape := by
  refine ⟨fun s => ?_, fun s t same => ?_⟩
  · have tight := tight_escape s
    refine ⟨fun q => read?_escape q s, fun q => readLiteral?_escape q s, ?_, ?_, tight.visible,
      tight.not_endTag⟩
    · intro front c rest here ends
      have ending : isEnding c := by rcases ends with rfl | rfl | rfl <;> rfl
      have pending := tight.pending_inside not_pending_nil here ending
      rwa [List.nil_append] at pending
    · have finished := tight.not_pending not_pending_nil
      rwa [List.nil_append] at finished
  · have read := read?_escape .single s
    rw [same, read?_escape .single t] at read
    exact String.toList_injective (Option.some.inj read).symm

/-- A backslash in front of a quote, and digits behind a control character. -/
example : readLiteral? ("'" ++ escape "\\'\x0112" ++ "' + x").toList =
    some ("\\'\x0112".toList, " + x".toList) := by
  decide

end PageTemplates.Script
