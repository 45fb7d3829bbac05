import Mathlib.Data.List.Nodup
import PageTemplates.Proofs.Markup.Printed

/-!
# Reading references back

Text and values are printed with references for the characters that markup is
made of, and reading these references gives the text back. The main facts:

* `ReadsAs xs ys`: the characters `xs` are read as `ys`, whatever follows them;
* `readsAs_reference`, `readsAs_number`: a named reference is read as what its name
  stands for, a numeric one as its number;
* `readsAs_printText`: text that is printed for a charset with all characters is read as
  the text;
* `mem_printChar`: what is printed of a character for any charset is a reference or itself;
* `readsAs_printedValue`: a value that is printed for any charset is read as the value, if
  it has no line feed and no character whose reference is read otherwise.
-/

namespace PageTemplates.Reference

/-- The characters `xs` are read as `ys` whatever follows them, and no number in
them has too many digits. -/
structure ReadsAs (xs ys : List Char) : Prop where
  decode_append : ∀ rest, decode (xs ++ rest) = ys ++ decode rest
  overlong?_append : ∀ rest, overlong? (xs ++ rest) = overlong? rest

namespace ReadsAs

variable {xs ys xs' ys' : List Char}

theorem nil : ReadsAs [] [] := ⟨fun _ => rfl, fun _ => rfl⟩

theorem append (h : ReadsAs xs ys) (h' : ReadsAs xs' ys') : ReadsAs (xs ++ xs') (ys ++ ys') := by
  constructor
  · intro rest
    rw [List.append_assoc, h.decode_append, h'.decode_append, List.append_assoc]
  · intro rest
    rw [List.append_assoc, h.overlong?_append, h'.overlong?_append]

/-- Characters that are each read as one character. -/
theorem flatMap_map {f : Char → List Char} {g : Char → Char} {cs : List Char}
    (h : ∀ c ∈ cs, ReadsAs (f c) [g c]) : ReadsAs (cs.flatMap f) (cs.map g) := by
  induction cs with
  | nil => exact .nil
  | cons c cs ih =>
      rw [List.forall_mem_cons] at h
      rw [List.flatMap_cons]
      exact h.1.append (ih h.2)

theorem flatMap {f : Char → List Char} {cs : List Char} (h : ∀ c ∈ cs, ReadsAs (f c) [c]) :
    ReadsAs (cs.flatMap f) cs := by
  have reads := flatMap_map (g := id) h
  rwa [List.map_id] at reads

/-- What is read at the end of the text. -/
theorem decode_eq (h : ReadsAs xs ys) : decode xs = ys := by
  have whole := h.decode_append []
  rwa [List.append_nil, show decode [] = [] from rfl, List.append_nil] at whole

theorem overlong?_eq (h : ReadsAs xs ys) : overlong? xs = none := by
  have whole := h.overlong?_append []
  rwa [List.append_nil] at whole

end ReadsAs

/-- A character that begins no reference stands for itself. -/
theorem readsAs_char {c : Char} (h : c ≠ '&') : ReadsAs [c] [c] := by
  have other : (c == '&') = false := by simpa using h
  constructor
  · intro rest
    simp [decode, decodeFrom, other]
  · intro rest
    simp [overlong?, other]

/-- What belongs to a reference is skipped. -/
theorem decodeFrom_append (xs rest : List Char) :
    decodeFrom xs.length (xs ++ rest) = decodeFrom 0 rest := by
  induction xs with
  | nil => rfl
  | cons x xs ih => exact ih

/-- A name that a semicolon ends is read as what it stands for. The bound is that
of the names that are looked at. -/
theorem readsAs_reference (name : List Char) (s : String) (chars : name.all isNameChar)
    (first : name ≠ []) (short : name.length < 32)
    (known : Entity.closed? (String.ofList name) = some s) :
    ReadsAs ('&' :: name ++ [';']) s.toList := by
  have noHash : ∀ rest, (name ++ ';' :: rest).head? ≠ some '#' := by
    intro rest hash
    cases name with
    | nil => exact absurd rfl first
    | cons c cs =>
        rw [List.all_cons, Bool.and_eq_true] at chars
        obtain rfl : c = '#' := by simpa using hash
        exact absurd chars.1 (by decide)
  have found : ∀ rest, at? (name ++ ';' :: rest) = some (s.toList, name.length + 1) := by
    intro rest
    have taken : ((name ++ ';' :: rest).take 32).takeWhile isNameChar = name := by
      obtain ⟨k, hk⟩ : ∃ k, 32 - name.length = k + 1 := ⟨31 - name.length, by omega⟩
      rw [List.take_append, List.take_of_length_le (Nat.le_of_lt short), hk, List.take_succ_cons,
        List.takeWhile_append_of_pos (List.all_eq_true.mp chars),
        List.takeWhile_cons_of_neg (by decide), List.append_nil]
    have behind : semicolon ((name ++ ';' :: rest).drop name.length) = 1 := by
      rw [List.drop_left]
      rfl
    unfold at?
    split
    · rename_i tail htail
      exact absurd (by rw [htail]; rfl) (noHash rest)
    · simp only [taken, behind]
      rw [if_neg (by simpa using first), beq_self_eq_true, ofName]
      simp only [if_true, known]
  constructor
  · intro rest
    have skipped := decodeFrom_append (name ++ [';']) rest
    rw [List.append_assoc, List.length_append] at skipped
    have whole : '&' :: name ++ [';'] ++ rest = '&' :: (name ++ ';' :: rest) := by simp
    rw [whole, decode, decodeFrom]
    simp only [beq_self_eq_true, if_true, found]
    exact congrArg (s.toList ++ ·) skipped
  · intro rest
    -- no number begins here, and none inside the name
    have inside : ∀ cs : List Char, cs.all isNameChar →
        overlong? (cs ++ ';' :: rest) = overlong? rest := by
      intro cs hcs
      induction cs with
      | nil => exact (readsAs_char (by decide)).overlong?_append rest
      | cons c cs ih =>
          rw [List.all_cons, Bool.and_eq_true] at hcs
          have plain : c ≠ '&' := by
            rintro rfl
            exact absurd hcs.1 (by decide)
          rw [← ih hcs.2]
          exact (readsAs_char plain).overlong?_append (cs ++ ';' :: rest)
    have whole : '&' :: name ++ [';'] ++ rest = '&' :: (name ++ ';' :: rest) := by simp
    have noNumber : ((name ++ ';' :: rest).head? == some '#') = false :=
      beq_eq_false_iff_ne.mpr (noHash rest)
    rw [whole, overlong?, ← inside name chars]
    simp only [noNumber, Bool.and_false, Bool.false_and]
    rfl

/-- A number that a semicolon ends is read as the character of this number. -/
theorem readsAs_number (digits : List Char) (all : digits.all Char.isDigit) (first : digits ≠ [])
    (short : digits.length ≤ Text.maxDigits) :
    ReadsAs ('&' :: '#' :: digits ++ [';']) (ofNumber (Text.digitsValue 10 digits)) := by
  have taken (rest : List Char) : (digits ++ ';' :: rest).takeWhile Char.isDigit = digits := by
    rw [List.takeWhile_append_of_pos (List.all_eq_true.mp all),
      List.takeWhile_cons_of_neg (by decide), List.append_nil]
  have found (rest : List Char) : at? ('#' :: (digits ++ ';' :: rest))
      = some (ofNumber (Text.digitsValue 10 digits), 1 + digits.length + 1) := by
    simp only [at?, taken]
    rw [if_neg (by simpa using first), List.drop_left]
    rfl
  have whole (rest : List Char) : '&' :: '#' :: digits ++ [';'] ++ rest
      = '&' :: '#' :: (digits ++ ';' :: rest) := by simp
  constructor
  · intro rest
    have skipped := decodeFrom_append ('#' :: (digits ++ [';'])) rest
    have length : ('#' :: (digits ++ [';'])).length = 1 + digits.length + 1 := by
      rw [List.length_cons, List.length_append, List.length_singleton]
      omega
    rw [length, List.cons_append, List.append_assoc, List.singleton_append] at skipped
    rw [whole, decode, decodeFrom]
    simp only [beq_self_eq_true, if_true, found]
    exact congrArg (ofNumber (Text.digitsValue 10 digits) ++ ·) skipped
  · intro rest
    -- no other number begins among the digits
    have inside : ∀ cs : List Char, cs.all Char.isDigit →
        overlong? (cs ++ ';' :: rest) = overlong? rest := by
      intro cs hcs
      induction cs with
      | nil => exact (readsAs_char (by decide)).overlong?_append rest
      | cons c cs ih =>
          rw [List.all_cons, Bool.and_eq_true] at hcs
          have plain : c ≠ '&' := by
            rintro rfl
            exact absurd hcs.1 (by decide)
          rw [← ih hcs.2]
          exact (readsAs_char plain).overlong?_append (cs ++ ';' :: rest)
    have behind : overlong? ('#' :: (digits ++ ';' :: rest)) = overlong? rest := by
      rw [← inside digits all]
      exact (readsAs_char (c := '#') (by decide)).overlong?_append (digits ++ ';' :: rest)
    have notMore : decide (Text.maxDigits < digits.length) = false :=
      decide_eq_false (Nat.not_lt.mpr short)
    rw [whole, overlong?, ← behind]
    simp only [List.drop_succ_cons, List.drop_zero, taken, notMore, Bool.and_false,
      Bool.false_eq_true, if_false]

theorem readsAs_code (c : Char) : ReadsAs ("&#" ++ toString c.toNat ++ ";").toList
    (ofNumber c.toNat) := by
  have small : c.toNat < 10 ^ 7 := by
    rcases c.valid with low | ⟨-, high⟩
    · exact Nat.lt_trans low (by decide)
    · exact Nat.lt_trans high (by decide)
  have length : (Nat.toDigits 10 c.toNat).length ≤ 7 :=
    Nat.toDigits_length 10 c.toNat 7 (by decide) small
  have digits : (Nat.toDigits 10 c.toNat).all Char.isDigit := List.all_eq_true.mpr fun d hd =>
    Nat.isDigit_of_mem_toDigits (by decide) (by decide) hd
  have reads := readsAs_number _ digits Nat.toDigits_ne_nil (Nat.le_trans length (by decide))
  rw [Text.digitsValue_toDigits (by decide) (by decide)] at reads
  rw [String.toList_append, String.toList_append, Nat.toString_eq_repr, Nat.toList_repr]
  exact reads

/-! ## Characters of references -/

/-- A character that references are made of. -/
def isReferenceChar (c : Char) : Bool := c.isAlphanum || c == '&' || c == '#' || c == ';'

theorem toNat_lt_of_isReferenceChar {c : Char} (h : isReferenceChar c) : c.toNat < 128 := by
  simp only [isReferenceChar, Bool.or_eq_true, beq_iff_eq] at h
  rcases h with ((letter | rfl) | rfl) | rfl
  · exact Text.toNat_lt_of_isAlphanum letter
  all_goals decide

/-- What holds of all ASCII characters holds of those of references. -/
theorem of_isReferenceChar {p : Char → Bool} (h : (List.range 128).all fun n =>
    !isReferenceChar (Char.ofNat n) || p (Char.ofNat n)) {c : Char} (hc : isReferenceChar c) :
    p c :=
  Text.of_asciiKind h (toNat_lt_of_isReferenceChar hc) hc

/-- References hold neither quotes nor brackets. -/
theorem ne_of_isReferenceChar {c : Char} (h : isReferenceChar c) : c ≠ '"' ∧ c ≠ '<' ∧ c ≠ '>' := by
  have all := of_isReferenceChar (p := fun c => c != '"' && c != '<' && c != '>')
    (by decide) h
  simpa [and_assoc] using all

/-- The character that the name of a character stands for today: the names of the angle
brackets have passed to mathematical signs. -/
def renamed (c : Char) : Char :=
  if c = '\u2329' then '\u27E8' else if c = '\u232A' then '\u27E9' else c

/-- The bytes of a name as one number, which is fast to compare. -/
def nameNumber (name : String) : Nat :=
  name.toByteArray.data.toList.foldl (fun n b => 256 * n + b.toNat) 0

/-- Whether numbers are all different. -/
def areDistinct : List Nat → Bool
  | [] => true
  | n :: ns => ns.all (fun m => !Nat.beq n m) && areDistinct ns

theorem nodup_of_areDistinct {ns : List Nat} (h : areDistinct ns) : ns.Nodup := by
  induction ns with
  | nil => exact List.nodup_nil
  | cons n ns ih =>
      rw [areDistinct, Bool.and_eq_true] at h
      refine List.nodup_cons.mpr ⟨fun again => ?_, ih h.2⟩
      simpa using List.all_eq_true.mp h.1 n again

theorem nodup_names : (Entity.html4.map (·.2)).Nodup := by
  have distinct : areDistinct (Entity.html4.map fun e => nameNumber e.2) := by decide +kernel
  refine List.Nodup.of_map nameNumber ?_
  rw [List.map_map]
  exact nodup_of_areDistinct distinct

theorem find?_html4 {e : Nat × String} (known : e ∈ Entity.html4) :
    Entity.html4.find? (·.2 == e.2) = some e := by
  obtain ⟨d, found⟩ : ∃ d, Entity.html4.find? (·.2 == e.2) = some d :=
    Option.isSome_iff_exists.mp (List.find?_isSome.mpr ⟨e, known, beq_self_eq_true e.2⟩)
  have same : d.2 = e.2 := by simpa using List.find?_some found
  rw [found, List.inj_on_of_nodup_map nodup_names (List.mem_of_find?_eq_some found) known same]

/-- The names that are printed are made of letters and digits, and short enough to be read;
readers take two of them otherwise. -/
theorem names_html4 : ∀ e ∈ Entity.html4, (e.2.toList.all Char.isAlphanum ∧
      e.2.toList ≠ [] ∧ e.2.toList.length < 32) ∧
    ((Entity.capitals ++ Entity.changed).lookup e.2).getD (String.singleton (Char.ofNat e.1)) =
      String.singleton (renamed (Char.ofNat e.1)) := by decide +kernel

/-- A name that is printed is known to readers, and all but two mean the same to them. -/
theorem closed?_html4 : ∀ e ∈ Entity.html4,
    Entity.closed? e.2 = some (String.singleton (renamed (Char.ofNat e.1))) := by
  intro e known
  have listed := (names_html4 e known).2
  rw [Entity.closed?, find?_html4 known]
  cases other : (Entity.capitals ++ Entity.changed).lookup e.2 with
  | some s =>
      rw [other, Option.getD_some] at listed
      rw [listed]
  | none =>
      rw [other, Option.getD_none] at listed
      rw [← listed]

theorem mem_html4 {code : Nat} {name : String} (h : Entity.name? code = some name) :
    (code, name) ∈ Entity.html4 := by
  obtain ⟨before, behind, shape, -⟩ := List.lookup_eq_some_iff.mp h
  rw [shape]
  simp

theorem mem_numberedReference {n : Nat} {d : Char}
    (h : d ∈ ("&#" ++ toString n ++ ";").toList) : isReferenceChar d := by
  rw [String.toList_append, String.toList_append, Nat.toString_eq_repr, Nat.toList_repr] at h
  simp only [List.mem_append] at h
  rcases h with (mark | digit) | stop
  · exact List.all_eq_true.mp (by decide : "&#".toList.all isReferenceChar) d mark
  · have digit := Nat.isDigit_of_mem_toDigits (by decide) (by decide) digit
    simp [isReferenceChar, Char.isAlphanum, digit]
  · exact List.all_eq_true.mp (by decide : ";".toList.all isReferenceChar) d stop

theorem mem_namedReference {n : Nat} {d : Char} (h : d ∈ (Markup.namedReference n).toList) :
    isReferenceChar d := by
  unfold Markup.namedReference at h
  split at h
  · rename_i name named
    have chars := (names_html4 _ (mem_html4 named)).1.1
    rw [String.toList_append, String.toList_append] at h
    simp only [List.mem_append] at h
    rcases h with (mark | part) | stop
    · exact List.all_eq_true.mp (by decide : "&".toList.all isReferenceChar) d mark
    · simp [isReferenceChar, List.all_eq_true.mp chars d part]
    · exact List.all_eq_true.mp (by decide : ";".toList.all isReferenceChar) d stop
  · exact mem_numberedReference h

/-- A reference to a character is read as what its name stands for, or by its number where it
has no name. -/
theorem readsAs_namedReference (c : Char) : ReadsAs (Markup.namedReference c.toNat).toList
    (if (Entity.name? c.toNat).isSome then [renamed c] else ofNumber c.toNat) := by
  unfold Markup.namedReference
  split
  · rename_i name named
    have known := mem_html4 named
    obtain ⟨chars, first, short⟩ := (names_html4 _ known).1
    have chars : name.toList.all isNameChar := by
      refine List.all_eq_true.mpr fun d hd => ?_
      have part := List.all_eq_true.mp chars d hd
      have all := of_isReferenceChar (p := fun d => !d.isAlphanum || isNameChar d)
        (by decide) (c := d) (by simp [isReferenceChar, part])
      simpa [part] using all
    have stands : Entity.closed? (String.ofList name.toList)
        = some (String.singleton (renamed c)) := by
      rw [String.ofList_toList, closed?_html4 _ known, Char.ofNat_toNat]
    have reads := readsAs_reference name.toList _ chars first short stands
    rw [String.toList_singleton] at reads
    rw [named, Option.isSome_some, if_pos rfl, String.toList_append, String.toList_append]
    exact reads
  · rename_i unnamed
    rw [unnamed, Option.isSome_none, if_neg Bool.false_ne_true]
    exact readsAs_code c

end PageTemplates.Reference

namespace PageTemplates.Markup

open Reference (ReadsAs readsAs_char readsAs_reference)

/-- A printed character is read as the character. -/
theorem readsAs_printChar (c : Char) : ReadsAs (printChar .utf c).toList [c] := by
  by_cases hc : c ∈ printedOtherwise.take 4
  · simp only [printedOtherwise, List.take_succ_cons, List.take_zero, List.mem_cons,
      List.not_mem_nil, or_false] at hc
    rcases hc with rfl | rfl | rfl | rfl
    · exact readsAs_reference "lt".toList "<" (by decide) (by decide)
        (by decide) (Reference.closed?_html4 (60, "lt") (by decide))
    · exact readsAs_reference "gt".toList ">" (by decide) (by decide)
        (by decide) (Reference.closed?_html4 (62, "gt") (by decide))
    · exact readsAs_reference "amp".toList "&" (by decide) (by decide)
        (by decide) (Reference.closed?_html4 (38, "amp") (by decide))
    · exact readsAs_reference "nbsp".toList "\u00a0" (by decide) (by decide)
        (by decide) (Reference.closed?_html4 (160, "nbsp") (by decide))
  · rw [printChar_plain hc]
    refine readsAs_char ?_
    rintro rfl
    exact hc (by decide)

theorem readsAs_printText (s : String) : ReadsAs (printText .utf s).toList s.toList := by
  rw [printText, String.toList_ofList]
  exact .flatMap fun c _ => readsAs_printChar c

/-! ## Characters that are printed -/

/-- Of a character, a reference is printed, or else the character itself where markup does not
use it and the family has it. -/
theorem mem_printChar {family : Family} {ch d : Char} (h : d ∈ (printChar family ch).toList) :
    Reference.isReferenceChar d ∨ d = ch ∧ ch ∉ printedOtherwise.take 4
      ∧ (family = .latin1 → ch.toNat < 256) ∧ (family = .ascii → ch.toNat < 128) := by
  have reference {s : String} (marks : s.toList.all Reference.isReferenceChar)
      (hd : d ∈ s.toList) : Reference.isReferenceChar d := List.all_eq_true.mp marks d hd
  -- case by case as it is printed: four characters by name, others by family
  unfold printChar at h
  dsimp only at h
  split at h
  · exact .inl (reference (by decide) h)
  rename_i left
  split at h
  · exact .inl (reference (by decide) h)
  rename_i right
  split at h
  · exact .inl (reference (by decide) h)
  rename_i ampersand
  split at h
  · exact .inl (reference (by decide) h)
  rename_i noBreak
  have plain : ch ∉ printedOtherwise.take 4 := by
    rw [beq_iff_eq] at left right ampersand noBreak
    simp only [printedOtherwise, List.take_succ_cons, List.take_zero, List.mem_cons,
      List.not_mem_nil, or_false, left, right, ampersand, false_or]
    rintro rfl
    exact noBreak rfl
  split at h
  · exact .inr ⟨by simpa using h, plain, by rintro ⟨⟩, by rintro ⟨⟩⟩
  · exact .inr ⟨by simpa using h, plain, by rintro ⟨⟩, by rintro ⟨⟩⟩
  · split at h
    · exact .inl (Reference.mem_namedReference h)
    split at h
    · exact .inl (Reference.mem_numberedReference h)
    · rename_i small _
      exact .inr ⟨by simpa using h, plain, fun _ => by omega, by rintro ⟨⟩⟩
  · split at h
    · exact .inl (Reference.mem_namedReference h)
    · rename_i small
      simp only [Bool.or_eq_true, not_or, decide_eq_true_eq] at small
      exact .inr ⟨by simpa using h, plain, by rintro ⟨⟩, fun _ => by omega⟩

/-- No bracket is printed inside text. -/
theorem mem_printText {family : Family} {s : String} {x : Char}
    (h : x ∈ (printText family s).toList) : x ≠ '<' ∧ x ≠ '>' := by
  rw [printText, String.toList_ofList, List.mem_flatMap] at h
  obtain ⟨c, -, hx⟩ := h
  rcases mem_printChar hx with mark | ⟨rfl, plain, -⟩
  · exact (Reference.ne_of_isReferenceChar mark).2
  · refine ⟨?_, ?_⟩ <;> rintro rfl <;> exact plain (by decide)

/-! ## Values -/

/-- Whether a character is read back as it is printed for a charset. -/
def isReadBack (family : Family) (c : Char) : Bool :=
  Reference.decode (printChar family c).toList == [c]

/-- A character is printed as for a charset with all characters, or as a reference to it. -/
theorem printChar_cases (family : Family) (c : Char) :
    printChar family c = printChar .utf c ∨ printChar family c = namedReference c.toNat ∨
      printChar family c = "&#" ++ toString c.toNat ++ ";" := by
  cases family with
  | utf | raw => exact .inl rfl
  | latin1 | ascii =>
      unfold printChar
      dsimp only
      split_ifs <;> simp

/-- A character that is read back is, whatever follows it. -/
theorem readsAs_of_isReadBack {family : Family} {c : Char} (back : isReadBack family c) :
    ReadsAs (printChar family c).toList [c] := by
  obtain ⟨read, reads⟩ : ∃ read, ReadsAs (printChar family c).toList read := by
    rcases printChar_cases family c with same | same | same <;> rw [same]
    · exact ⟨_, readsAs_printChar c⟩
    · exact ⟨_, Reference.readsAs_namedReference c⟩
    · exact ⟨_, Reference.readsAs_code c⟩
  rw [isReadBack, beq_iff_eq, reads.decode_eq] at back
  rwa [← back]

/-- A value as it is printed between double quotes. -/
def printedValue (family : Family) (s : String) : String :=
  String.ofList (s.toList.flatMap fun c => (printValueChar family "\"" c).toList)

theorem noQuote_printedValue (family : Family) (s : String) :
    '"' ∉ (printedValue family s).toList := by
  rw [printedValue, String.toList_ofList, List.mem_flatMap]
  rintro ⟨c, hc, quote⟩
  have utf : '"' ∉ (printValueChar .utf "\"" c).toList := fun h =>
    (mem_quotedChars (s := s) (List.mem_flatMap.mpr ⟨c, hc, h⟩)).2.2 rfl
  unfold printValueChar at quote utf
  split at quote
  · rename_i same
    rw [if_pos same] at utf
    exact utf quote
  split at quote
  · exact absurd quote (by decide)
  rename_i other line
  rw [if_neg other, if_neg line] at utf
  rcases printChar_cases family c with same | same | same <;> rw [same] at quote
  · exact utf quote
  · exact (Reference.ne_of_isReferenceChar (Reference.mem_namedReference quote)).1 rfl
  · exact (Reference.ne_of_isReferenceChar (Reference.mem_numberedReference quote)).1 rfl

/-- A printed value is read as the value, if its characters are read back and no line feed
has become a space. -/
theorem readsAs_printedValue {family : Family} {s : String} (line : '\n' ∉ s.toList)
    (back : s.toList.all (isReadBack family)) :
    ReadsAs (printedValue family s).toList s.toList := by
  rw [printedValue, String.toList_ofList]
  refine .flatMap fun c hc => ?_
  have other : c ≠ '\n' := by
    rintro rfl
    exact line hc
  unfold printValueChar
  split
  · rename_i quote
    have same := congrArg String.toList (beq_iff_eq.mp quote)
    rw [String.toList_singleton] at same
    obtain rfl : '"' = c := (List.cons.inj same).1
    exact readsAs_reference "quot".toList "\"" (by decide) (by decide)
      (by decide) (Reference.closed?_html4 (34, "quot") (by decide))
  · rw [if_neg (by simpa using other)]
    exact readsAs_of_isReadBack (List.all_eq_true.mp back c hc)

/-- Every character is read back if the charset has all characters. -/
theorem isReadBack_utf (c : Char) : isReadBack .utf c :=
  beq_iff_eq.mpr (readsAs_printChar c).decode_eq

theorem readsAs_quotedChars {s : String} (h : '\n' ∉ s.toList) :
    ReadsAs (quotedChars s) s.toList := by
  have reads := readsAs_printedValue h (List.all_eq_true.mpr fun c _ => isReadBack_utf c)
  rwa [printedValue, String.toList_ofList] at reads

end PageTemplates.Markup
