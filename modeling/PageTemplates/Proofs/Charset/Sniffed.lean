import PageTemplates.Proofs.Charset.Held
import PageTemplates.Proofs.Model.Words
import PageTemplates.Proofs.Text.Trim

/-!
# The charset name of a tag

The charset in a `<meta` tag is read up to the byte that ends it, which has to stand in the tag
itself. The main facts:

* `ofMeta?_append_of_free`: no tag begins in bytes that do not hold `<meta`;
* `charsetOfMeta?_opening`: a name is read up to the byte that ends it, if there is one;
* `ofMeta?_opening`: the name is read whatever stands in front and behind, unless the bracket
  that closes the tag ends it: then the tag declares nothing.
-/

namespace PageTemplates.Charset

open Text (find? Free)

/-- A character of a charset name: a letter or digit of ASCII, a hyphen, an underscore or a
full stop. -/
def isNameChar (c : Char) : Bool := c.isAlphanum || c == '-' || c == '_' || c == '.'

/-- A tag with its value bare, up to the charset. -/
def opening : Bytes :=
  Bytes.ofAscii "<meta http-equiv=\"Content-Type\" content=text/html;charset="

/-! ## Names in bytes -/

theorem toNat_lt_of_isNameChar {c : Char} (h : isNameChar c) : c.toNat < 128 := by
  simp only [isNameChar, Bool.or_eq_true, beq_iff_eq] at h
  rcases h with ((letter | rfl) | rfl) | rfl
  · exact Text.toNat_lt_of_isAlphanum letter
  all_goals decide

/-- What holds of all ASCII characters holds of those of names. -/
theorem of_isNameChar {p : Char → Bool} (h : (List.range 128).all fun n =>
    !isNameChar (Char.ofNat n) || p (Char.ofNat n)) {c : Char} (hc : isNameChar c) : p c :=
  Text.of_asciiKind h (toNat_lt_of_isNameChar hc) hc

/-- The bytes of a name are no blanks, end no value and open or close no tag. -/
theorem bytes_of_isNameChar {name : String} (chars : name.toList.all isNameChar) {b : UInt8}
    (hb : b ∈ Bytes.ofAscii name) :
    Bytes.isTagBlank b = false ∧ endsValue b = false ∧ b ≠ 0x3C ∧ b ≠ 0x3E := by
  obtain ⟨c, hc, rfl⟩ := List.mem_map.mp hb
  have all := of_isNameChar (p := fun c => !Bytes.isTagBlank (UInt8.ofNat c.toNat) &&
    !endsValue (UInt8.ofNat c.toNat) && UInt8.ofNat c.toNat != 0x3C &&
    UInt8.ofNat c.toNat != 0x3E) (by decide) (List.all_eq_true.mp chars c hc)
  simpa [and_assoc] using all

/-- A name is read from its bytes. -/
theorem nameOfBytes_ofAscii {name : String} (chars : name.toList.all isNameChar) :
    nameOfBytes (Bytes.ofAscii name) = name := by
  have read : SingleByte.ascii.decode (Bytes.ofAscii name) = name.toList := by
    rw [SingleByte.decode, Bytes.ofAscii, List.map_map]
    refine (List.map_congr_left fun c hc => ?_).trans (List.map_id _)
    have small := toNat_lt_of_isNameChar (List.all_eq_true.mp chars c hc)
    rw [Function.comp_apply, SingleByte.isInitial_ascii.char? small]
    rfl
  have noBlank : ∀ c ∈ name.toList, Text.isBlank c = false := by
    intro c hc
    have plain := of_isNameChar (p := fun c => !Text.isBlank c) (by decide)
      (List.all_eq_true.mp chars c hc)
    simpa using plain
  rw [nameOfBytes, read, Text.trim_eq_self noBlank, String.ofList_toList]

/-! ## Tags -/

/-- No tag begins where `<meta` does not. -/
theorem ofMeta?_append_of_free {xs rest : Bytes}
    (h : Free (Bytes.ofAscii "<meta") xs.lower rest.lower) : ofMeta? (xs ++ rest) = ofMeta? rest := by
  induction xs with
  | nil => rfl
  | cons b bs ih =>
      rw [Bytes.lower, List.map_cons, Text.free_cons] at h
      obtain ⟨first, later⟩ := h
      have other : Bytes.beginsWith (Bytes.ofAscii "<meta") (b :: (bs ++ rest)) = false := by
        refine Bool.eq_false_iff.mpr fun begins => first ?_
        have word := Model.wordAt_iff (i := 0).mp begins
        rwa [List.drop_zero, Bytes.lower, List.map_cons, List.map_append] at word
      rw [List.cons_append, ofMeta?, other, ih later]
      rfl

/-- Where the words of the tag begin. -/
theorem opening_words : find? (Bytes.ofAscii "content-type") opening.lower = some 18 ∧
    find? (Bytes.ofAscii "charset") opening.lower = some 50 ∧
    find? (Bytes.ofAscii "=") (opening.lower.drop 50) = some 7 ∧
    opening.length = 50 + 7 + 1 := by decide +kernel

/-- It does not end the tag, and begins no other one. -/
theorem opening_brackets : (∀ b ∈ opening, (b != 0x3E) = true) ∧ 0x3C ∉ opening.tail := by
  decide +kernel

section

variable {name : String} (chars : name.toList.all isNameChar) (filled : name ≠ "")

include chars filled

theorem dropWhile_ofAscii (rest : Bytes) :
    (Bytes.ofAscii name ++ rest).dropWhile Bytes.isTagBlank = Bytes.ofAscii name ++ rest := by
  have nonempty : Bytes.ofAscii name ≠ [] := by simpa [Bytes.ofAscii] using filled
  obtain ⟨b, bs, shape⟩ := List.exists_cons_of_ne_nil nonempty
  have first : Bytes.isTagBlank b = false :=
    (bytes_of_isNameChar chars (by rw [shape]; exact List.mem_cons_self)).1
  rw [shape, List.cons_append, List.dropWhile_cons_of_neg (by rw [first]; decide)]

omit filled in
theorem takeWhile_ofAscii {rest : Bytes} (ends : ∀ b ∈ rest.head?, endsValue b) :
    (Bytes.ofAscii name ++ rest).takeWhile (fun b => !endsValue b) = Bytes.ofAscii name := by
  rw [List.takeWhile_append_of_pos fun b hb => by rw [(bytes_of_isNameChar chars hb).2.1]; rfl]
  cases rest with
  | nil => rw [List.takeWhile_nil, List.append_nil]
  | cons b bs => rw [List.takeWhile_cons_of_neg (by rw [ends b rfl]; decide), List.append_nil]

/-- A name in a tag is read up to the byte that ends it; one that only the end of the tag ends
is not read. -/
theorem charsetOfMeta?_opening {rest : Bytes} (ends : ∀ b ∈ rest.head?, endsValue b) :
    charsetOfMeta? (opening ++ (Bytes.ofAscii name ++ rest)) =
      if rest = [] then none else some name := by
  have low : (opening ++ (Bytes.ofAscii name ++ rest)).lower =
      opening.lower ++ (Bytes.ofAscii name ++ rest).lower := List.map_append
  obtain ⟨type, charset, equal, length⟩ := opening_words
  have quote (bs : Bytes) : (opening.lower ++ bs)[18 - 1]? = some 0x22 := rfl
  have behind (bs : Bytes) : (opening.lower ++ bs).drop 50 = opening.lower.drop 50 ++ bs :=
    List.drop_append_of_le_length (by rw [Bytes.length_lower, length]; decide)
  have filled' : (Bytes.ofAscii name).isEmpty = false := by simpa [Bytes.ofAscii] using filled
  unfold charsetOfMeta?
  dsimp only
  rw [low, Text.find?_append_of_some type, Text.find?_append_of_some charset]
  simp only [Option.bind_eq_bind, Option.bind_some, quote, behind,
    Text.find?_append_of_some equal, ← length, List.drop_left, dropWhile_ofAscii chars filled,
    takeWhile_ofAscii chars ends, nameOfBytes_ofAscii chars, filled']
  cases rest with
  | nil => simp
  | cons b bs => simp [guard]

end

/-! ## Templates -/

/-- No tag begins in bytes without an opening bracket. -/
theorem ofMeta?_append_of_notMem {xs : Bytes} (h : 0x3C ∉ xs) (rest : Bytes) :
    ofMeta? (xs ++ rest) = ofMeta? rest := by
  refine ofMeta?_append_of_free (Text.free_of_notMem fun bracket => ?_)
  obtain ⟨b, hb, low⟩ := List.mem_map.mp bracket
  obtain rfl : b = 0x3C := (Model.lowerByte_eq_iff (by decide) b).mp low
  exact h hb

/-- The bytes of a tag that the byte `stop` follows, up to the bracket that closes the tag. -/
theorem takeWhile_opening {name : String} (chars : name.toList.all isNameChar) (stop : UInt8)
    (after : Bytes) :
    (opening ++ (Bytes.ofAscii name ++ stop :: after)).takeWhile (· != 0x3E) =
      opening ++ (Bytes.ofAscii name ++ (stop :: after).takeWhile (· != 0x3E)) := by
  rw [List.takeWhile_append_of_pos opening_brackets.1, List.takeWhile_append_of_pos fun b hb =>
    bne_iff_ne.mpr (bytes_of_isNameChar chars hb).2.2.2]

/-- The charset of a tag in a template: the name up to the byte that ends it. The tag declares
nothing if this byte is the bracket that closes it; what declares a charset then is what
follows. -/
theorem ofMeta?_opening {before : Bytes} (first : ¬ Bytes.ofAscii "<meta" <:+: before.lower)
    {name : String} (filled : name ≠ "") (chars : name.toList.all isNameChar) {stop : UInt8}
    (ends : endsValue stop) (after : Bytes) :
    ofMeta? (before ++ (opening ++ (Bytes.ofAscii name ++ stop :: after))) =
      if stop = 0x3E then ofMeta? after else some name := by
  have front : Free (Bytes.ofAscii "<meta") before.lower
      (opening ++ (Bytes.ofAscii name ++ stop :: after)).lower := by
    refine Text.free_of_absent first fun b hb => ?_
    obtain rfl : 0x3C = b := Option.some.inj hb
    decide
  have noBracket : 0x3C ∉ opening.tail ++ (Bytes.ofAscii name ++ [stop]) := by
    have other : (0x3C : UInt8) ≠ stop := by
      rintro rfl
      exact absurd ends (by decide)
    simp only [List.mem_append, List.mem_singleton, not_or]
    exact ⟨opening_brackets.2, fun hb => (bytes_of_isNameChar chars hb).2.2.1 rfl, other⟩
  -- no other tag begins inside this one, so the search goes on behind it
  have later : ofMeta? (opening.tail ++ (Bytes.ofAscii name ++ stop :: after)) = ofMeta? after := by
    have shape : opening.tail ++ (Bytes.ofAscii name ++ stop :: after) =
        opening.tail ++ (Bytes.ofAscii name ++ [stop]) ++ after := by simp
    rw [shape, ofMeta?_append_of_notMem noBracket]
  have here (bs : Bytes) : ofMeta? (opening ++ bs) =
      (charsetOfMeta? ((opening ++ bs).takeWhile (· != 0x3E))).or (ofMeta? (opening.tail ++ bs)) :=
    rfl
  rw [ofMeta?_append_of_free front, here, later, takeWhile_opening chars]
  by_cases bracket : stop = 0x3E
  · rw [if_pos bracket, List.takeWhile_cons_of_neg (by simp [bracket]),
      charsetOfMeta?_opening chars filled (by simp), if_pos rfl, Option.none_or]
  · rw [if_neg bracket, List.takeWhile_cons_of_pos (by simp [bracket]),
      charsetOfMeta?_opening chars filled (by simpa using ends), if_neg (List.cons_ne_nil _ _),
      Option.some_or]

/-- Behind a closed tag without a charset, a name that a slash ends. -/
theorem ofMeta?_opening_slash :
    ¬ Bytes.ofAscii "<meta" <:+: (Bytes.ofAscii "<p>META</p>").lower ∧
      ofMeta? (Bytes.ofAscii "<p>META</p>" ++
        (opening ++ (Bytes.ofAscii "Shift_JIS" ++ 0x2F :: Bytes.ofAscii "><p>"))) =
          some "Shift_JIS" := by
  have first : ¬ Bytes.ofAscii "<meta" <:+: (Bytes.ofAscii "<p>META</p>").lower := by decide +kernel
  exact ⟨first, ofMeta?_opening first (by decide) (by decide +kernel) (by decide) _⟩

/-- A name that the bracket ends is not read. -/
theorem bracket_ends_no_name :
    ofMeta? (opening ++ (Bytes.ofAscii "utf-8" ++ [0x3E])) = none ∧ endsValue 0x3E := by
  decide +kernel

end PageTemplates.Charset
