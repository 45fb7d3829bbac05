import PageTemplates.Proofs.Markup.Printed
import PageTemplates.Proofs.Model.Words

/-!
# The mark of a model script in a printed tag

The attribute `yst="model"` is searched in the bytes of a tag. In a printed tag
it is found just when the tag has it. The main facts:

* `isModelAttribute`: the attribute, in letters of any case;
* `contains`: whether a word stands in text, in letters of any case;
* `modelAttributeAt_print`: what is found where an attribute begins;
* `hasModelAttribute_print`: what is found in a tag.
-/

namespace PageTemplates.Model

open Markup
open Text (Spelled Free find? free_cons free_append free_nil free_of_notMem free_of_absent)

/-! ## What the tag says -/

/-- Whether a lower-case word stands in text, in letters of any case. -/
def contains (word s : String) : Bool := (find? word.toList (s.toList.map Char.toLower)).isSome

/-- Whether an attribute is `yst` with the value `model`, in letters of any
case. -/
def isModelAttribute (a : Attribute) : Bool :=
  a.1 == "yst" && a.2.any fun s => s.toList.map Char.toLower == "model".toList

/-- An attribute with a plain name. -/
def isPlainAttribute (a : Attribute) : Bool := !a.1.toList.isEmpty && a.1.toList.all isNamePart

/-- Whether a word stands in the value of an attribute. -/
def valueContains (word : String) (a : Attribute) : Bool := a.2.any (contains word)

theorem contains_eq_false_iff {word s : String} :
    contains word s = false ↔ ¬ word.toList <:+: s.toList.map Char.toLower := by
  rw [contains, Option.isSome_eq_false_iff, Option.isNone_iff_eq_none,
    Text.find?_eq_none_iff_absent]

/-! ## Values -/

/-- What is not printed as it is begins with a sign that is no letter. -/
theorem printValueChar_other {c : Char} (h : c ∈ printedOtherwise) :
    ∃ b bs, (printValueChar .utf "\"" c).toList.map Char.toLower = b :: bs ∧
      b ∈ ['&', ' '] ∧ 'y' ∉ bs := by
  have marked : printedOtherwise.all fun c =>
      ((printValueChar .utf "\"" c).toList.map Char.toLower).head?.any (['&', ' '].contains ·) &&
        !((printValueChar .utf "\"" c).toList.map Char.toLower).tail.contains 'y' := by decide
  have here := List.all_eq_true.mp marked c h
  cases hbs : (printValueChar .utf "\"" c).toList.map Char.toLower with
  | nil => simp [hbs] at here
  | cons b bs =>
      rw [hbs] at here
      exact ⟨b, bs, rfl, by simpa using here⟩

/-- The word does not stand in the printed value unless it stands in the
value: references have no part in it. -/
theorem not_infix_quotedChars {s : String} (h : contains "yst" s = false) :
    ¬ Bytes.ofAscii "yst" <:+: lowered (quotedChars s) := by
  intro there
  have printed := infix_of_infix_lowered (by simp) there
  rw [quotedChars, List.map_flatMap] at printed
  rw [← List.map_id "yst".toList] at printed
  refine contains_eq_false_iff.mp h (Text.infix_of_infix_flatMap (fun c _ => ?_) printed)
  by_cases hc : c ∈ printedOtherwise
  · obtain ⟨b, bs, spelled, hb, inside⟩ := printValueChar_other hc
    rw [spelled]
    refine .other (fun x hx same => ?_) fun x hx => ?_
    · have apart : ∀ x ∈ "yst".toList, x ∉ ['&', ' '] := by simp
      obtain rfl : x = b := same
      exact apart x hx hb
    · obtain rfl : 'y' = x := by simpa using hx
      exact inside
  · rw [printValueChar_plain hc]
    exact .itself fun x _ same => same

/-- The printed value is the word just when the value is. -/
theorem lowered_quotedChars_eq_iff (s : String) :
    lowered (quotedChars s) = modelWord ↔ s.toList.map Char.toLower = "model".toList := by
  rw [modelWord, lowered_eq_iff (by simp)]
  by_cases other : ∃ c ∈ s.toList, c ∈ printedOtherwise
  · -- a sign that is printed otherwise is in neither
    obtain ⟨c, hc, other⟩ := other
    refine iff_of_false (fun same => ?_) (fun same => ?_)
    · obtain ⟨b, bs, spelled, hb, -⟩ := printValueChar_other other
      have member : b ∈ (quotedChars s).map Char.toLower := by
        rw [quotedChars, List.map_flatMap, List.mem_flatMap]
        exact ⟨c, hc, by simp [spelled]⟩
      have apart : ∀ b ∈ ['&', ' '], b ∉ "model".toList := by simp
      exact apart b hb (same ▸ member)
    · have apart : ∀ c ∈ printedOtherwise, c.toLower ∉ "model".toList := by
        simp [printedOtherwise]
      exact apart c other (same ▸ List.mem_map_of_mem hc)
  · have same : ∀ cs : List Char, (∀ c ∈ cs, c ∉ printedOtherwise) →
        cs.flatMap (fun c => (printValueChar .utf "\"" c).toList) = cs := by
      intro cs hcs
      induction cs with
      | nil => rfl
      | cons c cs ih =>
          rw [List.forall_mem_cons] at hcs
          rw [List.flatMap_cons, printValueChar_plain hcs.1, ih hcs.2, List.singleton_append]
    rw [quotedChars, same _ fun c hc there => other ⟨c, hc, there⟩]

/-! ## The search in a tag -/

/-- The search goes over what the name of the attribute does not begin in. -/
theorem hasModelAttribute_append_of_free {xs rest : Bytes}
    (h : Free (Bytes.ofAscii "yst") xs rest) (prev : UInt8) :
    hasModelAttribute prev (xs ++ rest) = hasModelAttribute (xs.getLastD prev) rest := by
  induction xs generalizing prev with
  | nil => rfl
  | cons x xs ih =>
      obtain ⟨first, later⟩ := free_cons.mp h
      have absent : modelAttributeAt (x :: (xs ++ rest)) = false := by
        rw [modelAttributeAt, Bool.and_eq_false_iff]
        left
        rwa [← Bool.not_eq_true, List.isPrefixOf_iff_prefix]
      rw [List.cons_append, hasModelAttribute, absent, Bool.and_false, Bool.false_or, ih later,
        List.getLastD_cons]

/-- The search goes over what no blank stands before. -/
theorem hasModelAttribute_append_of_nonblank {xs : Bytes} (rest : Bytes) {prev : UInt8}
    (h : ∀ b ∈ prev :: xs, Bytes.isTagBlank b = false) :
    hasModelAttribute prev (xs ++ rest) = hasModelAttribute (xs.getLastD prev) rest := by
  induction xs generalizing prev with
  | nil => rfl
  | cons x xs ih =>
      rw [List.forall_mem_cons] at h
      rw [List.cons_append, hasModelAttribute, h.1, Bool.false_and, Bool.false_or, ih h.2,
        List.getLastD_cons]

/-! ## Names -/

/-- What the bytes of plain names are not. -/
def isNameByte (b : UInt8) : Bool :=
  !Bytes.isTagBlank b && b != 0x3D && b != 0x3C && b != 0x3E

theorem loweredChar_namePart {c : Char} (h : isNamePart c) :
    loweredChar c = [asciiByte c] ∧ isNameByte (asciiByte c) ∧ c.toLower = c := by
  have all := of_isNamePart (p := fun c => loweredChar c == [asciiByte c] &&
    isNameByte (asciiByte c) && c.toLower == c) (by decide +kernel) h
  simpa [and_assoc] using all

theorem isNameByte_lowered {cs : List Char} (h : cs.all isNamePart) :
    (lowered cs).all isNameByte := by
  rw [lowered_eq_flatMap, List.all_flatMap]
  refine List.all_eq_true.mpr fun c hc => ?_
  obtain ⟨bytes, name, -⟩ := loweredChar_namePart (List.all_eq_true.mp h c hc)
  simp [bytes, name]

theorem map_toLower_name {cs : List Char} (h : cs.all isNamePart) : cs.map Char.toLower = cs := by
  conv => rhs; rw [← List.map_id cs]
  exact List.map_congr_left fun c hc => (loweredChar_namePart (List.all_eq_true.mp h c hc)).2.2

/-- A plain name is told by its bytes. -/
theorem lowered_name_eq_iff {name word : String} (h : name.toList.all isNamePart)
    (ascii : ∀ x ∈ word.toList, x.toNat < 128) :
    lowered name.toList = Bytes.ofAscii word ↔ name = word := by
  rw [lowered_eq_iff ascii, map_toLower_name h, String.toList_inj]

/-! ## Where an attribute begins -/

/-- The bytes that follow an attribute: those of the next one, or none. -/
inductive FollowsMark : Bytes → Prop where
  | last : FollowsMark []
  | next {b : UInt8} (h : isNameByte b) (rest : Bytes) : FollowsMark (0x20 :: b :: rest)

/-- A word between two marks that are not in it is told by what stands there. -/
theorem quoted_eq_iff {q : UInt8} {word xs : Bytes} (rest : Bytes) (hw : q ∉ word) (hx : q ∉ xs) :
    word <+: xs ++ q :: rest ∧ ((xs ++ q :: rest).drop word.length).head? = some q ↔
      xs = word := by
  constructor
  · rintro ⟨⟨behind, whole⟩, mark⟩
    rw [← whole, List.drop_left] at mark
    cases behind with
    | nil => cases mark
    | cons b behind =>
        obtain rfl : b = q := Option.some.inj mark
        have upTo : ∀ {ys : Bytes} (zs : Bytes), b ∉ ys →
            (ys ++ b :: zs).takeWhile (· != b) = ys := by
          intro ys zs hy
          rw [List.takeWhile_append_of_pos, List.takeWhile_cons_of_neg (by simp), List.append_nil]
          intro y hyy
          have : y ≠ b := by rintro rfl; exact hy hyy
          simpa using this
        rw [← upTo rest hx, ← whole, upTo behind hw]
  · rintro rfl
    exact ⟨List.prefix_append _ _, by rw [List.drop_left]; rfl⟩

theorem lowered_valueChars (s : String) : lowered (valueChars (some s))
    = 0x3D :: 0x22 :: (lowered (quotedChars s) ++ [0x22]) := by
  have front : lowered ['=', '"'] = [0x3D, 0x22] := by decide
  have last : lowered ['"'] = [0x22] := by decide
  have chars : valueChars (some s) = ['=', '"'] ++ (quotedChars s ++ ['"']) := by
    simp [valueChars]
  rw [chars, lowered_append, lowered_append, front, last]
  rfl

/-- Behind a name stands an equal sign, a blank or nothing. -/
theorem FollowsMark.head_value {rest : Bytes} (h : FollowsMark rest) (value? : Option String) :
    ∀ b ∈ (lowered (valueChars value?) ++ rest).head?, b = 0x3D ∨ b = 0x20 := by
  intro b hb
  cases value? with
  | some s =>
      rw [lowered_valueChars] at hb
      exact .inl (Option.some.inj hb).symm
  | none =>
      cases h with
      | last => cases hb
      | next hc rest => exact .inr (Option.some.inj hb).symm

/-- What is found behind the name of the mark. -/
theorem modelAttributeAt_yst {value? : Option String} {rest : Bytes} (hr : FollowsMark rest) :
    modelAttributeAt (Bytes.ofAscii "yst" ++ (lowered (valueChars value?) ++ rest))
      = value?.any fun s => s.toList.map Char.toLower == "model".toList := by
  have name : (Bytes.ofAscii "yst").isPrefixOf
      (Bytes.ofAscii "yst" ++ (lowered (valueChars value?) ++ rest)) = true :=
    List.isPrefixOf_iff_prefix.mpr (List.prefix_append _ _)
  rw [modelAttributeAt, name, Bool.true_and]
  rw [show (3 : Nat) = (Bytes.ofAscii "yst").length from rfl, List.drop_left]
  -- without a value what follows is another attribute, which has no equals sign in front
  cases value? with
  | none =>
      cases hr with
      | last => rfl
      | @next b hb rest =>
          simp only [isNameByte, Bool.and_eq_true, Bool.not_eq_true', bne_iff_ne] at hb
          have space : Bytes.isTagBlank 0x20 = true := by decide
          have skipped : (lowered (valueChars none) ++ 0x20 :: b :: rest).dropWhile Bytes.isTagBlank
              = b :: rest := by
            simp [valueChars, space, hb.1.1.1]
          rw [skipped]
          split
          · rename_i eq
            exact absurd (List.cons.inj eq).1 hb.1.1.2
          · rfl
  | some s =>
      have blank : Bytes.isTagBlank 0x3D = false ∧ Bytes.isTagBlank 0x22 = false := by decide
      have whole : lowered (valueChars (some s)) ++ rest
          = 0x3D :: 0x22 :: (lowered (quotedChars s) ++ 0x22 :: rest) := by
        simp [lowered_valueChars]
      have unquoted : (0x22 : UInt8) ∉ lowered (quotedChars s) :=
        notMem_lowered (x := '"') (by decide) (by decide +kernel)
          fun there => (mem_quotedChars there).2.2 rfl
      have model : (0x22 : UInt8) ∉ modelWord := by decide
      have value := (quoted_eq_iff rest model unquoted).trans (lowered_quotedChars_eq_iff s)
      rw [whole, List.dropWhile_cons_of_neg (by simp [blank.1])]
      show isModelValue (List.dropWhile Bytes.isTagBlank _) = _
      rw [List.dropWhile_cons_of_neg (by simp [blank.2]), isModelValue, if_pos (by decide),
        Option.any_some, Bool.eq_iff_iff, Bool.and_eq_true, List.isPrefixOf_iff_prefix,
        beq_iff_eq, beq_iff_eq]
      exact value

/-- Where an attribute begins, the mark is found just when it is the attribute. -/
theorem modelAttributeAt_print {a : Attribute} (h : isPlainAttribute a) {rest : Bytes}
    (hr : FollowsMark rest) :
    modelAttributeAt (lowered a.1.toList ++ (lowered (valueChars a.2) ++ rest))
      = isModelAttribute a := by
  obtain ⟨name, value?⟩ := a
  simp only [isPlainAttribute, Bool.and_eq_true] at h
  have bytes : lowered name.toList = Bytes.ofAscii "yst" ↔ name = "yst" :=
    lowered_name_eq_iff h.2 (by simp)
  by_cases named : name = "yst"
  · rw [bytes.mpr named, modelAttributeAt_yst hr]
    simp [isModelAttribute, named]
  · have absent : isModelAttribute (name, value?) = false := by simp [isModelAttribute, named]
    rw [absent]
    cases found :
      modelAttributeAt (lowered name.toList ++ (lowered (valueChars value?) ++ rest)) with
    | false => rfl
    | true =>
        rw [modelAttributeAt, Bool.and_eq_true, List.isPrefixOf_iff_prefix] at found
        obtain ⟨begins, value⟩ := found
        have stops : ∀ b ∈ (lowered (valueChars value?) ++ rest).head?,
            b ∉ Bytes.ofAscii "yst" := by
          intro b hb
          rcases hr.head_value value? b hb with rfl | rfl <;> decide
        obtain ⟨more, longer⟩ := Text.prefix_of_prefix_append begins stops
        -- the name goes on, so no equal sign follows
        cases more with
        | nil => exact absurd (bytes.mp (by simpa using longer.symm)) named
        | cons b more =>
            have part := List.all_eq_true.mp (isNameByte_lowered h.2) b (by simp [← longer])
            simp only [isNameByte, Bool.and_eq_true, Bool.not_eq_true', bne_iff_ne] at part
            have next : ((lowered name.toList ++ (lowered (valueChars value?) ++ rest)).drop
                3).dropWhile Bytes.isTagBlank
                = b :: (more ++ (lowered (valueChars value?) ++ rest)) := by
              rw [← longer, List.append_assoc, show 3 = (Bytes.ofAscii "yst").length from rfl,
                List.drop_left, List.cons_append,
                List.dropWhile_cons_of_neg (by simp [part.1.1.1])]
            rw [next] at value
            split at value
            · rename_i eq
              exact absurd (List.cons.inj eq).1 part.1.1.2
            · cases value

/-- The name of the mark does not begin in a value without it. -/
theorem free_valueChars {a : Attribute} (h : valueContains "yst" a = false) (rest : Bytes) :
    Free (Bytes.ofAscii "yst") (lowered (valueChars a.2)) rest := by
  obtain ⟨name, value?⟩ := a
  cases value? with
  | none => exact free_nil
  | some s =>
      have value : contains "yst" s = false := by simpa [valueContains] using h
      have first : ∀ (b : UInt8) (bs : Bytes), b ≠ 0x79 → ¬ Bytes.ofAscii "yst" <+: b :: bs :=
        fun b bs hb begins => hb (List.cons_prefix_cons.mp begins).1.symm
      rw [lowered_valueChars]
      refine free_cons.mpr ⟨first _ _ (by decide), free_cons.mpr ⟨first _ _ (by decide), ?_⟩⟩
      refine free_append.mpr ⟨free_of_absent (not_infix_quotedChars value) ?_, ?_⟩
      · intro x hx
        obtain rfl : 0x22 = x := Option.some.inj hx
        decide
      · exact free_cons.mpr ⟨first _ _ (by decide), free_nil⟩

/-- The bytes of an attribute: a blank, the name and what is behind it. -/
theorem lowered_attributeChars (a : Attribute) : lowered (attributeChars a)
    = 0x20 :: (lowered a.1.toList ++ lowered (valueChars a.2)) := by
  have blank : lowered [' '] = [0x20] := by decide
  have chars : attributeChars a = [' '] ++ (a.1.toList ++ valueChars a.2) := rfl
  rw [chars, lowered_append, lowered_append, blank]
  rfl

/-- The bytes of a name are one or more bytes of names. -/
theorem lowered_plainName {a : Attribute} (h : isPlainAttribute a) :
    ∃ b bs, lowered a.1.toList = b :: bs ∧ (b :: bs).all isNameByte := by
  simp only [isPlainAttribute, Bool.and_eq_true, Bool.not_eq_true'] at h
  cases hname : lowered a.1.toList with
  | nil =>
      cases hchars : a.1.toList with
      | nil => rw [hchars] at h; cases h.1
      | cons c cs =>
          rw [hchars, lowered_eq_flatMap, List.flatMap_cons, List.append_eq_nil_iff] at hname
          exact absurd hname.1 (loweredChar_ne_nil c)
  | cons b bs => exact ⟨b, bs, rfl, hname ▸ isNameByte_lowered h.2⟩

/-- What follows an attribute in a tag. -/
theorem followsMark_print {as : List Attribute} (plain : as.all isPlainAttribute) :
    FollowsMark (lowered (as.flatMap attributeChars)) := by
  cases as with
  | nil => exact .last
  | cons a as =>
      rw [List.all_cons, Bool.and_eq_true] at plain
      obtain ⟨b, bs, hname, part⟩ := lowered_plainName plain.1
      rw [List.flatMap_cons, lowered_append, lowered_attributeChars, hname]
      rw [List.all_cons, Bool.and_eq_true] at part
      exact .next part.1 _

/-- In a printed tag the mark is found just when it is among the attributes. -/
theorem hasModelAttribute_print {as : List Attribute} (plain : as.all isPlainAttribute)
    (values : as.any (valueContains "yst") = false) {prev : UInt8}
    (hprev : Bytes.isTagBlank prev = false) :
    hasModelAttribute prev (lowered (as.flatMap attributeChars)) = as.any isModelAttribute := by
  induction as generalizing prev with
  | nil => rfl
  | cons a as ih =>
      rw [List.all_cons, Bool.and_eq_true] at plain
      rw [List.any_cons, Bool.or_eq_false_iff] at values
      have here := modelAttributeAt_print plain.1 (followsMark_print plain.2)
      have behind := free_valueChars values.1 (lowered (as.flatMap attributeChars))
      obtain ⟨b, bs, hname, part⟩ := lowered_plainName plain.1
      have nonblank : ∀ x ∈ b :: bs, Bytes.isTagBlank x = false := by
        intro x hx
        have := List.all_eq_true.mp part x hx
        simp only [isNameByte, Bool.and_eq_true, Bool.not_eq_true'] at this
        exact this.1.1.1
      -- the last byte of the attribute is a quote or one of the name
      have last :
          Bytes.isTagBlank ((lowered (valueChars a.2)).getLastD (bs.getLastD b)) = false := by
        cases a.2 with
        | none =>
            refine nonblank _ ?_
            rw [valueChars, lowered_nil, List.getLastD_nil]
            exact List.getLastD_mem_cons
        | some s =>
            rw [lowered_valueChars, List.getLastD_cons, List.getLastD_cons, List.getLastD_concat]
            decide
      have blank : Bytes.isTagBlank 0x20 = true := by decide
      rw [hname, List.cons_append] at here
      rw [List.flatMap_cons, lowered_append, lowered_attributeChars, hname, List.cons_append,
        List.cons_append, List.cons_append, List.append_assoc, hasModelAttribute, hprev,
        Bool.false_and, Bool.false_or, hasModelAttribute, blank, Bool.true_and, here,
        hasModelAttribute_append_of_nonblank _ nonblank, hasModelAttribute_append_of_free behind,
        ih plain.2 values.2 last, List.any_cons]

end PageTemplates.Model
