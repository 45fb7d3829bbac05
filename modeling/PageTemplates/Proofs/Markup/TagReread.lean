import PageTemplates.Proofs.Markup.Decoded

/-!
# Reading printed start tags

A start tag that is printed and read again is the same tag. The main facts:

* `attributeAt?_written`: one attribute is read together with the blank behind it;
* `attributesFrom_written`: attributes are read one after the other;
* `startTag_printed`: a tag that is printed for any charset is read with its name and its
  attributes, if their values are read back;
* `startTag_print`: so are the tags of `isReprintableTag`, if the charset has all characters.
-/

namespace PageTemplates.Markup

open Text (isBlank)
open Reference (ReadsAs)

/-! ## Tags that can be read back -/

/-- A name of an element: a small letter, then small letters or digits. -/
def isElementName (name : String) : Bool :=
  name.toList.head?.any Char.isLower && name.toList.all fun c => c.isLower || c.isDigit

/-- An attribute with a plain name, and a value without a line feed if it has
one. -/
def isReprintableAttribute (a : Attribute) : Bool :=
  !a.1.toList.isEmpty && a.1.toList.all isNamePart && a.2.all fun s => !s.toList.contains '\n'

/-- A tag of an element that is not read as raw text. -/
def isReprintableTag (t : Tag) : Bool :=
  isElementName t.name && !isRawText t.name && t.attributes.all isReprintableAttribute &&
    !t.joined && !t.page

/-! ## Characters taken in front -/

/-- Nothing is taken of what begins with a character that is not taken. -/
theorem takeWhile_append {p : Char → Bool} (xs : List Char) {ys : List Char}
    (hy : ∀ y ∈ ys.head?, p y = false) : (xs ++ ys).takeWhile p = xs.takeWhile p := by
  induction xs with
  | nil =>
      cases ys with
      | nil => rfl
      | cons y ys => exact List.takeWhile_cons_of_neg (by simp [hy y rfl])
  | cons x xs ih => rw [List.cons_append, List.takeWhile_cons, List.takeWhile_cons, ih]

theorem takeWhile_stop {p : Char → Bool} {xs ys : List Char} (hx : xs.all p)
    (hy : ∀ y ∈ ys.head?, p y = false) : (xs ++ ys).takeWhile p = xs := by
  have all : (xs ++ []).takeWhile p = xs ++ [].takeWhile p :=
    List.takeWhile_append_of_pos (List.all_eq_true.mp hx)
  rw [takeWhile_append xs hy]
  rwa [List.takeWhile_nil, List.append_nil] at all

/-! ## Written attributes -/

/-- What may follow an attribute: the end of the tag, or a blank and the next
attribute. -/
inductive FollowsAttribute : List Char → Prop where
  | last (rest : List Char) : FollowsAttribute ('>' :: rest)
  | next {c : Char} (h : isNamePart c) (rest : List Char) : FollowsAttribute (' ' :: c :: rest)

/-- What is written behind the name of an attribute, whose value is as it is written. -/
def writtenValue : Option String → List Char
  | none => []
  | some s => '=' :: '"' :: s.toList ++ ['"']

/-- What is written of an attribute. -/
def writtenChars (a : Attribute) : List Char := ' ' :: a.1.toList ++ writtenValue a.2

/-- An attribute as it is written: with a plain name, and a value without a double quote
if it has one. -/
def isWritten (a : Attribute) : Bool :=
  !a.1.toList.isEmpty && a.1.toList.all isNamePart && a.2.all fun s => !s.toList.contains '"'

theorem valueAt?_quoted {value : List Char} (noQuote : '"' ∉ value) (rest : List Char) :
    valueAt? ('=' :: '"' :: value ++ '"' :: rest) = some (value, value.length + 3) := by
  have blank : isBlank '=' = false := by decide
  have blank' : isBlank '"' = false := by decide
  have taken : (value ++ '"' :: rest).takeWhile (· != '"') = value := by
    refine takeWhile_stop (List.all_eq_true.mpr fun c hc => ?_) (by simp)
    rw [bne_iff_ne]
    rintro rfl
    exact noQuote hc
  have quoted : quotedValue? '"' (value ++ '"' :: rest) = some value := by
    simp [quotedValue?, taken]
  simp [valueAt?, blank, blank', quoted]
  omega

theorem valueAt?_follows {rest : List Char} (h : FollowsAttribute rest) : valueAt? rest = none := by
  cases h with
  | last rest =>
      have blank : isBlank '>' = false := by decide
      simp [valueAt?, blank]
  | next hc rest =>
      obtain ⟨-, -, -, equal, -, blank⟩ := ne_of_isNamePart hc
      have space : isBlank ' ' = true := by decide
      simp [valueAt?, blank, space, equal]

theorem valueAt?_writtenValue {value? : Option String}
    (noQuote : value?.all fun s => !s.toList.contains '"') {rest : List Char}
    (h : FollowsAttribute rest) : valueAt? (writtenValue value? ++ rest)
      = value?.map fun s => (s.toList, (writtenValue (some s)).length) := by
  cases value? with
  | none => exact valueAt?_follows h
  | some s =>
      have whole : writtenValue (some s) ++ rest = '=' :: '"' :: s.toList ++ '"' :: rest := by
        simp [writtenValue]
      rw [whole, valueAt?_quoted (by simpa using noQuote)]
      simp [writtenValue]

theorem isNamePart_of_isWritten {a : Attribute} (h : isWritten a) :
    ∃ c cs, a.1.toList = c :: cs ∧ isNamePart c := by
  simp only [isWritten, Bool.and_eq_true, Bool.not_eq_true'] at h
  obtain ⟨⟨nonempty, chars⟩, -⟩ := h
  cases hn : a.1.toList with
  | nil => rw [hn] at nonempty; cases nonempty
  | cons c cs =>
      rw [hn, List.all_cons, Bool.and_eq_true] at chars
      exact ⟨c, cs, rfl, chars.1⟩

/-- One attribute is read together with the blank behind it. -/
theorem attributeAt?_written {prev : Char} {a : Attribute} (opens : opensAttribute prev)
    (h : isWritten a) {rest : List Char} (hr : FollowsAttribute rest) :
    attributeAt? prev (a.1.toList ++ (writtenValue a.2 ++ rest))
      = some (a, a.1.toList.length + (writtenValue a.2).length + gapLength rest) := by
  obtain ⟨c, cs, hname, -⟩ := isNamePart_of_isWritten h
  obtain ⟨name, value?⟩ := a
  simp only [isWritten, Bool.and_eq_true] at h hname
  have chars := h.1.2
  have lower := lower_eq_self chars
  have whole : String.ofList (c :: cs) = name := by rw [← hname, String.ofList_toList]
  rw [hname, List.all_cons, Bool.and_eq_true] at chars
  have start := (reads_of_isNamePart chars.1).2.1
  -- the name ends at the equal sign, or at what follows the attribute
  have ends : ∀ y ∈ (writtenValue value? ++ rest).head?, isAttributeChar y = false := by
    intro y hy
    cases value? with
    | none =>
        cases hr with
        | last rest => obtain rfl : '>' = y := by simpa [writtenValue] using hy
                       decide
        | next hc rest => obtain rfl : ' ' = y := by simpa [writtenValue] using hy
                          decide
    | some s =>
        obtain rfl : '=' = y := by simpa [writtenValue] using hy
        decide
  have taken : (cs ++ (writtenValue value? ++ rest)).takeWhile isAttributeChar = cs := by
    refine takeWhile_stop (List.all_eq_true.mpr fun x hx => ?_) ends
    exact (reads_of_isNamePart (List.all_eq_true.mp chars.2 x hx)).2.2.1
  have dropped : (c :: (cs ++ (writtenValue value? ++ rest))).drop (c :: cs).length
      = writtenValue value? ++ rest := by
    rw [← List.cons_append, List.drop_left]
  rw [hname, List.cons_append, attributeAt?, opens, start, Bool.and_self, if_pos rfl]
  simp only [taken, whole, lower, dropped, valueAt?_writtenValue h.2 hr]
  cases value? with
  | none => simp [writtenValue]
  | some s =>
      have behind : (writtenValue (some s) ++ rest).drop (writtenValue (some s)).length = rest :=
        List.drop_left
      simp [behind]

/-- What belongs to an attribute that was read is skipped. -/
theorem attributesFrom_append (xs cs : List Char) (prev : Char) :
    attributesFrom xs.length prev (xs ++ cs)
      = ((attributesFrom 0 (xs.getLastD prev) cs).1,
         (attributesFrom 0 (xs.getLastD prev) cs).2 + xs.length) := by
  induction xs generalizing prev with
  | nil => simp
  | cons x xs ih =>
      rw [List.cons_append, List.length_cons, attributesFrom, ih x, List.getLastD_cons]
      rfl

/-- The attribute in front is read, then what is behind it. -/
theorem attributesFrom_of_attributeAt? {xs cs : List Char} {prev : Char} {a : Attribute}
    (nonempty : xs ≠ []) (h : attributeAt? prev (xs ++ cs) = some (a, xs.length)) :
    attributesFrom 0 prev (xs ++ cs)
      = (a :: (attributesFrom 0 (xs.getLastD prev) cs).1,
         (attributesFrom 0 (xs.getLastD prev) cs).2 + xs.length) := by
  cases xs with
  | nil => exact absurd rfl nonempty
  | cons x xs =>
      rw [List.cons_append] at h ⊢
      rw [attributesFrom, h]
      simp only [List.length_cons, Nat.add_sub_cancel, attributesFrom_append, List.getLastD_cons]
      rfl

/-- No attribute begins with the end of the tag. -/
theorem attributesFrom_bracket (prev : Char) (rest : List Char) :
    attributesFrom 0 prev ('>' :: rest) = ([], 0) := by
  have start : isAttributeStart '>' = false := by decide
  simp [attributesFrom, attributeAt?, start]

/-- Written attributes are read in their order. -/
theorem attributesFrom_written (as : List Attribute) (rest : List Char) : ∀ (a : Attribute)
    (prev : Char), opensAttribute prev → isWritten a → as.all isWritten →
    attributesFrom 0 prev
        (a.1.toList ++ (writtenValue a.2 ++ (as.flatMap writtenChars ++ '>' :: rest)))
      = (a :: as, (a.1.toList ++ (writtenValue a.2 ++ as.flatMap writtenChars)).length) := by
  induction as with
  | nil =>
      intro a prev opens ha _
      obtain ⟨c, cs, hname, -⟩ := isNamePart_of_isWritten ha
      have read := attributeAt?_written opens ha (.last rest)
      have gap : gapLength ('>' :: rest) = 0 := by
        have blank : isBlank '>' = false := by decide
        simp [gapLength, blank]
      rw [gap, Nat.add_zero, ← List.length_append, ← List.append_assoc] at read
      have here := attributesFrom_of_attributeAt? (by simp [hname]) read
      rw [attributesFrom_bracket] at here
      simpa [List.append_assoc] using here
  | cons b bs ih =>
      intro a prev opens ha hb
      rw [List.all_cons, Bool.and_eq_true] at hb
      obtain ⟨c, cs, hname, -⟩ := isNamePart_of_isWritten ha
      obtain ⟨d, ds, hnext, hd⟩ := isNamePart_of_isWritten hb.1
      -- the blank before the next attribute belongs to this one
      have read := attributeAt?_written opens ha (.next hd
        (ds ++ (writtenValue b.2 ++ (bs.flatMap writtenChars ++ '>' :: rest))))
      have gap : ∀ tail, gapLength (' ' :: d :: tail) = 1 := by
        intro tail
        have space : isBlank ' ' = true := by decide
        obtain ⟨-, -, slash, -, -, blank⟩ := ne_of_isNamePart hd
        simp [gapLength, space, blank, slash]
      have whole : a.1.toList ++ (writtenValue a.2 ++ ' ' :: d ::
            (ds ++ (writtenValue b.2 ++ (bs.flatMap writtenChars ++ '>' :: rest))))
          = (a.1.toList ++ (writtenValue a.2 ++ [' '])) ++
            (b.1.toList ++ (writtenValue b.2 ++ (bs.flatMap writtenChars ++ '>' :: rest))) := by
        simp [hnext]
      have count : a.1.toList.length + (writtenValue a.2).length + 1
          = (a.1.toList ++ (writtenValue a.2 ++ [' '])).length := by
        simp [Nat.add_assoc]
      rw [gap, whole, count] at read
      have here := attributesFrom_of_attributeAt? (by simp [hname]) read
      have blank : (a.1.toList ++ (writtenValue a.2 ++ [' '])).getLastD prev = ' ' := by
        simp [List.getLastD_eq_getLast?]
      rw [blank, ih b ' ' (by decide) hb.1 hb.2] at here
      rw [List.flatMap_cons, writtenChars]
      simp only [List.append_assoc, List.cons_append, List.nil_append, List.length_append,
        List.length_cons, List.length_nil] at here ⊢
      rw [here]
      refine Prod.ext rfl ?_
      show _ = _
      omega

/-! ## Printed attributes -/

/-- An attribute as it is printed for a charset, its references not yet read. -/
def writtenAttribute (family : Family) (a : Attribute) : Attribute :=
  (a.1, a.2.map (printedValue family))

theorem toList_printAttribute_eq (family : Family) (a : Attribute) :
    (printAttribute family a).toList = writtenChars (writtenAttribute family a) := by
  obtain ⟨name, value?⟩ := a
  cases value? with
  | none => simp [printAttribute, writtenAttribute, writtenChars, writtenValue]
  | some s =>
      simp [printAttribute, writtenAttribute, writtenChars, writtenValue, printValue, printedValue]

theorem isWritten_writtenAttribute {family : Family} {a : Attribute} (name : a.1.toList ≠ [])
    (chars : a.1.toList.all isNamePart) : isWritten (writtenAttribute family a) := by
  obtain ⟨_, value?⟩ := a
  cases value? with
  | none => simpa [isWritten, writtenAttribute] using ⟨by simpa using name, by simpa using chars⟩
  | some s =>
      simp only [isWritten, writtenAttribute, Option.map_some, Option.all_some, chars,
        Bool.and_true, Bool.and_eq_true, Bool.not_eq_true', List.contains_eq_mem,
        decide_eq_false_iff_not]
      exact ⟨by simpa using name, noQuote_printedValue family s⟩

theorem attributeChars_eq (a : Attribute) :
    attributeChars a = writtenChars (writtenAttribute .utf a) := by
  rw [← toList_printAttribute, toList_printAttribute_eq]

/-- An attribute that is printed is read back, if its value is. -/
theorem readReferences_writtenAttribute {family : Family} {a : Attribute}
    (h : ∀ s ∈ a.2, ReadsAs (printedValue family s).toList s.toList) :
    readReferences (writtenAttribute family a) = a := by
  obtain ⟨name, value?⟩ := a
  cases value? with
  | none => rfl
  | some s => simp [readReferences, writtenAttribute, (h s rfl).decode_eq]

theorem orOverlong_writtenAttribute {family : Family} {as : List Attribute}
    (h : ∀ a ∈ as, ∀ s ∈ a.2, ReadsAs (printedValue family s).toList s.toList)
    (outcome : StartTag) :
    StartTag.orOverlong (as.map (writtenAttribute family)) outcome = outcome := by
  have none : (as.map (writtenAttribute family)).findSome?
      (fun a => a.2.bind fun value => Reference.overlong? value.toList) = none := by
    rw [List.findSome?_eq_none_iff, List.forall_mem_map]
    rintro ⟨name, value?⟩ ha
    cases value? with
    | none => rfl
    | some s => simp [writtenAttribute, (h _ ha s rfl).overlong?_eq]
  rw [StartTag.orOverlong, none]

/-! ## Tags -/

/-- The names of elements are plain names that begin with a letter. -/
theorem of_isElementName {name : String} (h : isElementName name) :
    ∃ c cs, name.toList = c :: cs ∧ isLetter c ∧ name.toList.all isNamePart := by
  simp only [isElementName, Bool.and_eq_true] at h
  have parts : name.toList.all isNamePart := by
    refine List.all_eq_true.mpr fun c hc => ?_
    have := List.all_eq_true.mp h.2 c hc
    simp [isNamePart, this]
  cases hn : name.toList with
  | nil => rw [hn] at h; cases h.1
  | cons c cs =>
      rw [hn] at h
      refine ⟨c, cs, rfl, ?_, hn ▸ parts⟩
      have small : c.isLower := by simpa using h.1
      exact Bool.or_eq_true_iff.mpr (.inr small)

/-- A written start tag is read with its name and its attributes, whatever follows it. -/
theorem startTag_written {name : String} (hname : isElementName name) {as : List Attribute}
    (has : as.all isWritten) (rest : List Char) :
    startTag (name.toList ++ (as.flatMap writtenChars ++ '>' :: rest))
      = StartTag.orOverlong as (.tag name (as.map readReferences) false
          ((name.toList ++ as.flatMap writtenChars).length + 2)) := by
  obtain ⟨c, cs, -, -, parts⟩ := of_isElementName hname
  have lower := lower_eq_self parts
  have named : name.toList.all isTagNameChar :=
    List.all_eq_true.mpr fun x hx => (reads_of_isNamePart (List.all_eq_true.mp parts x hx)).1
  cases as with
  | nil =>
      have taken : (name.toList ++ '>' :: rest).takeWhile isTagNameChar = name.toList :=
        takeWhile_stop named (by simp; decide)
      have none : ('>' :: rest).takeWhile (fun c => isBlank c || c == '/') = [] := by
        have bracket : isBlank '>' = false := by decide
        simp [bracket]
      simp only [startTag, List.flatMap_nil, List.nil_append, taken, List.drop_left, none,
        List.length_nil, Nat.add_zero, attributesFrom_bracket, List.drop_zero]
      simp [StartTag.orOverlong, lower]
      omega
  | cons a as =>
      rw [List.all_cons, Bool.and_eq_true] at has
      obtain ⟨d, ds, hd, hpart⟩ := isNamePart_of_isWritten has.1
      have attributes := attributesFrom_written as rest a ' ' (by decide) has.1 has.2
      -- the attributes behind the blank, and what they leave
      generalize hbody :
        a.1.toList ++ (writtenValue a.2 ++ (as.flatMap writtenChars ++ '>' :: rest)) = body
        at attributes
      generalize hchars : a.1.toList ++ (writtenValue a.2 ++ as.flatMap writtenChars) = chars
        at attributes
      have whole : (a :: as).flatMap writtenChars ++ '>' :: rest = ' ' :: body := by
        simp [writtenChars, ← hbody]
      have count : ((a :: as).flatMap writtenChars).length = chars.length + 1 := by
        simp [writtenChars, ← hchars]
      have left : body.drop chars.length = '>' :: rest := by
        have : body = chars ++ '>' :: rest := by simp [← hbody, ← hchars]
        rw [this, List.drop_left]
      have taken : (name.toList ++ ' ' :: body).takeWhile isTagNameChar = name.toList :=
        takeWhile_stop named (by simp; decide)
      have gap : (' ' :: body).takeWhile (fun c => isBlank c || c == '/') = [' '] := by
        have space : isBlank ' ' = true := by decide
        obtain ⟨-, -, slash, -, -, blank⟩ := ne_of_isNamePart hpart
        simp [← hbody, hd, space, blank, slash]
      have dropped : (name.toList ++ ' ' :: body).drop (name.toList.length + 1) = body := by
        simp
      have last : (name.toList ++ [' ']).getLast?.getD '<' = ' ' := by simp
      have unclosed : (((a :: as).map readReferences).isEmpty && [' '].getLast? == some '/')
          = false := rfl
      simp only [whole, startTag, taken, List.drop_left, gap, List.length_singleton, dropped,
        last, attributes, left, String.ofList_toList, lower, unclosed]
      rw [List.length_append, count]
      have length : 1 + name.toList.length + 1 + chars.length + 1
          = name.toList.length + (chars.length + 1) + 2 := by omega
      rw [length]

theorem toList_print_eq (family : Family) (t : Tag) : (t.print family).toList
    = '<' :: (t.name.toList ++
      ((t.attributes.map (writtenAttribute family)).flatMap writtenChars ++ ['>'])) := by
  have attributes : (t.attributes.map (printAttribute family)).flatMap String.toList
      = (t.attributes.map (writtenAttribute family)).flatMap writtenChars := by
    rw [List.flatMap_map, List.flatMap_map]
    exact congrArg (List.flatMap · t.attributes) (funext (toList_printAttribute_eq family))
  simp [Tag.print, attributes]

/-- A start tag that is printed for any charset is read with its name and its attributes,
if their values are read back. -/
theorem startTag_printed {family : Family} {name : String} (hname : isElementName name)
    {as : List Attribute} (names : ∀ a ∈ as, a.1.toList ≠ [] ∧ a.1.toList.all isNamePart)
    (values : ∀ a ∈ as, ∀ s ∈ a.2, ReadsAs (printedValue family s).toList s.toList)
    (rest : List Char) :
    startTag (name.toList ++
        ((as.map (writtenAttribute family)).flatMap writtenChars ++ '>' :: rest))
      = .tag name as false ((name.toList ++
        (as.map (writtenAttribute family)).flatMap writtenChars).length + 2) := by
  have written : (as.map (writtenAttribute family)).all isWritten := by
    rw [List.all_map, List.all_eq_true]
    exact fun a ha => isWritten_writtenAttribute (names a ha).1 (names a ha).2
  have read : (as.map (writtenAttribute family)).map readReferences = as := by
    rw [List.map_map]
    conv => rhs; rw [← List.map_id as]
    exact List.map_congr_left fun a ha => readReferences_writtenAttribute (values a ha)
  rw [startTag_written hname written, orOverlong_writtenAttribute values, read]

/-- A printed start tag is read with its name and its attributes, whatever
follows it. -/
theorem startTag_print {t : Tag} (h : isReprintableTag t) (rest : List Char) :
    startTag (t.name.toList ++ (t.attributes.flatMap attributeChars ++ '>' :: rest))
      = .tag t.name t.attributes false
          ((t.name.toList ++ t.attributes.flatMap attributeChars).length + 2) := by
  simp only [isReprintableTag, Bool.and_eq_true] at h
  obtain ⟨⟨⟨⟨hname, -⟩, has⟩, -⟩, -⟩ := h
  have chars : t.attributes.flatMap attributeChars
      = (t.attributes.map (writtenAttribute .utf)).flatMap writtenChars := by
    rw [List.flatMap_map]
    exact congrArg (List.flatMap · t.attributes) (funext attributeChars_eq)
  have each := List.all_eq_true.mp has
  simp only [isReprintableAttribute, Bool.and_eq_true, Bool.not_eq_true'] at each
  rw [chars]
  refine startTag_printed hname (fun a ha => ⟨?_, (each a ha).1.2⟩) (fun a ha s hs => ?_) rest
  · simpa using (each a ha).1.1
  · have line := (each a ha).2
    rw [Option.mem_def.mp hs] at line
    have reads := readsAs_quotedChars (s := s) (by simpa using line)
    rwa [← String.toList_ofList (l := quotedChars s)] at reads

end PageTemplates.Markup
