import PageTemplates.Proofs.Model.Marked

/-!
# What the search for the model section passes over

The search looks at every byte where a script may be opened. Of a printed page
these are the start tags of scripts, as long as text and markup that stand side
by side do not make up another one. The main facts:

* `hasScriptTag`: whether a script is opened or closed in text;
* `free_text`, `free_startTag`, `free_endTag`, `free_bracketed`: where no script is
  opened in what is printed;
* `sectionAt?_script`: a script is the model section just when its tag has the mark;
* `locateFrom_script`, `locateFrom_append_of_free`: how the search goes on.
-/

namespace PageTemplates.Model

open Markup
open Text (Free find? free_cons free_append free_nil free_of_notMem free_of_absent
  find?_append_of_free find?_eq_some_iff)

/-! ## Conditions -/

/-- Whether a script tag is opened or closed in text, in letters of any case. -/
def hasScriptTag (s : String) : Bool := contains "<script" s || contains "</script>" s

/-- A tag with plain names: no name but that of scripts begins like it, and a
script has `yst` in no value. -/
def isPlainTag (t : Tag) : Bool :=
  t.name.toList.all isNamePart && t.attributes.all isPlainAttribute &&
    if t.name == "script" then !t.attributes.any (valueContains "yst")
    else !"script".toList.isPrefixOf t.name.toList

/-- What a script tag does not go on with: nothing, or the next tag. -/
def StopsWord (rest : Bytes) : Prop := ∀ b ∈ rest.head?, b = 0x3C

/-- How text is searched. -/
def searched (s : String) : Bytes := lowered s.toList

@[simp] theorem searched_append (s t : String) : searched (s ++ t) = searched s ++ searched t := by
  simp [searched]

@[simp] theorem searched_empty : searched "" = [] := rfl

theorem not_infix_of_hasScriptTag {s : String} (h : hasScriptTag s = false) :
    ¬ scriptOpen <:+: searched s ∧ ¬ scriptClose <:+: searched s := by
  rw [hasScriptTag, Bool.or_eq_false_iff, contains_eq_false_iff, contains_eq_false_iff] at h
  exact ⟨fun there => h.1 (infix_of_infix_lowered (by simp) there),
    fun there => h.2 (infix_of_infix_lowered (by simp) there)⟩

/-! ## Where no script is opened -/

/-- A script that is not opened in text and what directly follows it is not opened
in the text. -/
theorem free_text {s behind : String} (h : hasScriptTag (s ++ behind) = false) {rest : Bytes}
    (hr : StopsWord rest) : Free scriptOpen (searched s) (searched behind ++ rest) := by
  have absent := (not_infix_of_hasScriptTag h).1
  have whole : Free scriptOpen (searched (s ++ behind)) rest := by
    refine free_of_absent absent fun x hx => ?_
    obtain rfl := hr x hx
    decide
  rw [searched_append] at whole
  exact (free_append.mp whole).1

theorem scriptOpen_eq : scriptOpen = [0x3C, 0x73, 0x63, 0x72, 0x69, 0x70, 0x74] := by decide

theorem scriptClose_eq :
    scriptClose = [0x3C, 0x2F, 0x73, 0x63, 0x72, 0x69, 0x70, 0x74, 0x3E] := by decide

/-- No script is opened where a bracket is followed by another sign. -/
theorem free_sign {b : UInt8} {bs : Bytes} (sign : b ≠ 0x73) (h : 0x3C ∉ b :: bs) (rest : Bytes) :
    Free scriptOpen (0x3C :: b :: bs) rest := by
  rw [scriptOpen_eq]
  refine free_cons.mpr ⟨fun begins => ?_, free_of_notMem h⟩
  have second := (List.cons_prefix_cons.mp (List.cons_prefix_cons.mp begins).2).1
  exact sign second.symm

theorem bracket_notMem_name {name : String} (h : name.toList.all isNamePart) :
    0x3C ∉ searched name ∧ 0x3E ∉ searched name := by
  have bytes := List.all_eq_true.mp (isNameByte_lowered h)
  constructor
  · intro there
    exact absurd (bytes _ there) (by decide)
  · intro there
    exact absurd (bytes _ there) (by decide)

theorem searched_endTag (name : String) :
    searched ("</" ++ name ++ ">") = 0x3C :: 0x2F :: (searched name ++ [0x3E]) := by
  have front : searched "</" = [0x3C, 0x2F] := by decide
  have back : searched ">" = [0x3E] := by decide
  rw [searched_append, searched_append, front, back]
  rfl

theorem free_endTag {name : String} (h : name.toList.all isNamePart) (rest : Bytes) :
    Free scriptOpen (searched ("</" ++ name ++ ">")) rest := by
  rw [searched_endTag]
  refine free_sign (by decide) ?_ rest
  simp [(bracket_notMem_name h).1]

/-- No script is opened in a comment or a doctype that holds none. -/
theorem free_declared {s : String} (h : hasScriptTag s = false) {front back : Bytes} {b : UInt8}
    (hfront : 0x3C ∉ front) (stop : b ∉ scriptOpen) (hback : 0x3C ∉ back) (rest : Bytes) :
    Free scriptOpen (0x3C :: 0x21 :: front ++ (searched s ++ b :: back)) rest := by
  refine free_append.mpr ⟨free_sign (by decide) (by simp [hfront]) _, free_append.mpr ⟨?_, ?_⟩⟩
  · refine free_of_absent (not_infix_of_hasScriptTag h).1 fun x hx => ?_
    obtain rfl : b = x := Option.some.inj hx
    exact fun there => stop (List.mem_of_mem_tail there)
  · have apart : 0x3C ∉ b :: back := by
      rw [List.mem_cons, not_or]
      exact ⟨fun same => stop (by rw [← same, scriptOpen_eq]; simp), hback⟩
    rw [scriptOpen_eq]
    exact free_of_notMem apart

/-! ## Start tags -/

theorem searched_startTag (t : Tag) : searched (t.print .utf)
    = 0x3C :: (searched t.name ++ (lowered (t.attributes.flatMap attributeChars) ++ [0x3E])) := by
  have front : lowered ['<'] = [0x3C] := by decide
  have back : lowered ['>'] = [0x3E] := by decide
  rw [searched, toList_print, ← List.singleton_append, lowered_append, lowered_append,
    lowered_append, front, back]
  rfl

/-- No bracket stands among attributes. -/
theorem bracket_notMem_attributes {as : List Attribute} (h : as.all isPlainAttribute) :
    0x3C ∉ lowered (as.flatMap attributeChars) ∧ 0x3E ∉ lowered (as.flatMap attributeChars) := by
  have chars : ∀ x ∈ as.flatMap attributeChars, x ≠ '<' ∧ x ≠ '>' := by
    intro x hx
    obtain ⟨⟨name, value?⟩, ha, hx⟩ := List.mem_flatMap.mp hx
    have plain := List.all_eq_true.mp h _ ha
    simp only [isPlainAttribute, Bool.and_eq_true] at plain
    simp only [attributeChars, List.cons_append, List.mem_cons, List.mem_append] at hx
    rcases hx with rfl | hx | hx
    · decide
    · obtain ⟨left, right, -⟩ := ne_of_isNamePart (List.all_eq_true.mp plain.2 x hx)
      exact ⟨left, right⟩
    · cases value? with
      | none => cases hx
      | some s =>
          simp only [valueChars, List.cons_append, List.mem_cons, List.mem_append,
            List.not_mem_nil, or_false] at hx
          rcases hx with rfl | rfl | hx | rfl
          · decide
          · decide
          · exact ⟨(mem_quotedChars hx).1, (mem_quotedChars hx).2.1⟩
          · decide
  constructor
  · refine notMem_lowered (x := '<') (by decide) (by decide +kernel) fun there => ?_
    exact (chars _ there).1 rfl
  · refine notMem_lowered (x := '>') (by decide) (by decide +kernel) fun there => ?_
    exact (chars _ there).2 rfl

/-- No script is opened by the tag of another element. -/
theorem free_startTag {t : Tag} (h : isPlainTag t) (other : t.name ≠ "script") (rest : Bytes) :
    Free scriptOpen (searched (t.print .utf)) rest := by
  simp only [isPlainTag, Bool.and_eq_true, beq_iff_eq, if_neg other, Bool.not_eq_true'] at h
  obtain ⟨⟨parts, plain⟩, name⟩ := h
  have inside : 0x3C ∉ searched t.name ++
      (lowered (t.attributes.flatMap attributeChars) ++ [0x3E]) := by
    simp [(bracket_notMem_name parts).1, (bracket_notMem_attributes plain).1]
  rw [searched_startTag, scriptOpen_eq]
  refine free_cons.mpr ⟨fun begins => ?_, free_of_notMem inside⟩
  -- the name would begin like that of a script
  have begins := (List.cons_prefix_cons.mp begins).2
  rw [List.append_assoc] at begins
  have front : Bytes.ofAscii "script" <+: searched t.name := by
    refine Text.prefix_of_prefix_append begins fun b hb => ?_
    cases hattributes : lowered (t.attributes.flatMap attributeChars) with
    | nil =>
        rw [hattributes] at hb
        obtain rfl : 0x3E = b := Option.some.inj hb
        decide
    | cons c cs =>
        have follows := followsMark_print plain
        rw [hattributes] at follows hb
        cases follows
        obtain rfl : 0x20 = b := Option.some.inj hb
        decide
  rw [ofAscii_eq_map, searched, lowered_eq_flatMap] at front
  have ascii : ∀ x ∈ "script".toList, x.toNat < 128 := by simp
  have chars := Text.prefix_of_prefix_flatMap (fun c _ => spelled_loweredChar ascii c)
    (List.Subset.refl _) front
  rw [map_toLower_name parts, ← List.isPrefixOf_iff_prefix, name] at chars
  cases chars

/-! ## Scripts -/

/-- The search goes over what no script is opened in. -/
theorem locateFrom_append_of_free {xs rest : Bytes} (h : Free scriptOpen xs rest) (pos : Nat) :
    locateFrom pos (xs ++ rest) = locateFrom (pos + xs.length) rest := by
  induction xs generalizing pos with
  | nil => rfl
  | cons x xs ih =>
      obtain ⟨first, later⟩ := free_cons.mp h
      have none : sectionAt? (x :: (xs ++ rest)) = none := by
        cases found : sectionAt? (x :: (xs ++ rest)) with
        | none => rfl
        | some n => exact absurd ((sectionAt?_eq_some_iff _ _).mp found).1 first
      rw [List.cons_append, locateFrom, none]
      simp only [ih later, List.length_cons]
      rw [Nat.add_assoc, Nat.add_comm 1]

/-- A script is the model section just when its tag has the mark. What it holds,
`text`, opens and closes no script, so the section ends with its own end tag. -/
theorem sectionAt?_script {tag text : Bytes} (htag : 0x3E ∉ tag)
    (htext : ¬ scriptOpen <:+: text ∧ ¬ scriptClose <:+: text) (rest : Bytes) :
    sectionAt? (scriptOpen ++ (tag ++ 0x3E :: (text ++ (scriptClose ++ rest))))
      = if hasModelAttribute 0x74 tag then some (tag.length + text.length + 17) else none := by
  have lengths : scriptOpen.length = 7 ∧ scriptClose.length = 9 := by decide
  have behindName : (scriptOpen ++ (tag ++ 0x3E :: (text ++ (scriptClose ++ rest)))).drop 7
      = tag ++ 0x3E :: (text ++ (scriptClose ++ rest)) := List.drop_left' lengths.1
  have behindTag : (scriptOpen ++ (tag ++ 0x3E :: (text ++ (scriptClose ++ rest)))).drop
      (7 + tag.length) = 0x3E :: text ++ (scriptClose ++ rest) := by
    rw [← List.drop_drop, behindName, List.drop_left]
    rfl
  have tagEnd : find? [0x3E] (tag ++ 0x3E :: (text ++ (scriptClose ++ rest)))
      = some tag.length := by
    rw [find?_append_of_free (free_of_notMem htag)]
    simp [find?]
  -- neither word begins in the text, which the end tag follows
  have stops : ∀ x ∈ (scriptClose ++ rest).head?, x = 0x3C := by
    intro x hx
    exact (Option.some.inj hx).symm
  have freeClose : Free scriptClose (0x3E :: text) (scriptClose ++ rest) := by
    refine free_cons.mpr ⟨fun begins => ?_, free_of_absent htext.2 fun x hx => ?_⟩
    · exact absurd (List.cons_prefix_cons.mp begins).1 (by decide)
    · rw [stops x hx]
      decide
  have freeOpen : Free scriptOpen (0x3E :: text ++ scriptClose) rest := by
    refine free_append.mpr ⟨free_cons.mpr ⟨fun begins => ?_, ?_⟩, ?_⟩
    · exact absurd (List.cons_prefix_cons.mp begins).1 (by decide)
    · refine free_of_absent htext.1 fun x hx => ?_
      rw [stops x hx]
      decide
    · rw [scriptClose_eq]
      exact free_sign (by decide) (by decide) rest
  have close : find? scriptClose (0x3E :: text ++ (scriptClose ++ rest))
      = some (text.length + 1) := by
    have here : find? scriptClose (scriptClose ++ rest) = some 0 :=
      find?_eq_some_iff.mpr ⟨List.prefix_append _ _, fun j hj => absurd hj (Nat.not_lt_zero j)⟩
    rw [find?_append_of_free freeClose, here]
    simp
  have nested : (find? scriptOpen (0x3E :: text ++ (scriptClose ++ rest))).all
      fun nested => text.length + 1 < nested := by
    rw [← List.append_assoc, find?_append_of_free freeOpen]
    cases find? scriptOpen rest with
    | none => rfl
    | some n =>
        simp [lengths]
        omega
  cases marked : hasModelAttribute 0x74 tag with
  | true =>
      rw [if_pos rfl, sectionAt?_eq_some_iff]
      refine ⟨List.prefix_append _ _, tag.length, by rw [behindName, tagEnd], ?_,
        text.length + 1, by rw [behindTag, close], by rw [behindTag]; exact nested, by omega⟩
      rw [behindName, List.take_left]
      exact marked
  | false =>
      rw [if_neg (by simp)]
      cases found : sectionAt? (scriptOpen ++ (tag ++ 0x3E :: (text ++ (scriptClose ++ rest)))) with
      | none => rfl
      | some n =>
          obtain ⟨-, end', hend, there, -⟩ := (sectionAt?_eq_some_iff _ _).mp found
          rw [behindName] at hend there
          obtain rfl : tag.length = end' := Option.some.inj (tagEnd.symm.trans hend)
          rw [List.take_left, marked] at there
          cases there

/-- The bytes of a script: its tag, what it holds and its end tag. -/
theorem searched_script {t : Tag} (script : t.name = "script") (text : String) :
    searched (t.print .utf ++ (text ++ "</" ++ t.name ++ ">"))
      = scriptOpen ++ (lowered (t.attributes.flatMap attributeChars) ++
          0x3E :: (searched text ++ scriptClose)) := by
  have name : searched "script" = [0x73, 0x63, 0x72, 0x69, 0x70, 0x74] := by decide
  have close : searched "</" ++ searched "script" ++ searched ">" = scriptClose := by decide
  rw [searched_append, searched_startTag, searched_append, searched_append, searched_append,
    script, scriptOpen_eq, ← close, name]
  simp

/-- The search stops at a script with the mark and goes over any other one. -/
theorem locateFrom_script {t : Tag} (h : isPlainTag t) (script : t.name = "script") {text : String}
    (htext : hasScriptTag text = false) (pos : Nat) (rest : Bytes) :
    locateFrom pos (searched (t.print .utf ++ (text ++ "</" ++ t.name ++ ">")) ++ rest)
      = if t.attributes.any isModelAttribute then
          some (pos, pos + (searched (t.print .utf ++ (text ++ "</" ++ t.name ++ ">"))).length)
        else
          locateFrom (pos + (searched (t.print .utf ++ (text ++ "</" ++ t.name ++ ">"))).length)
            rest := by
  simp only [isPlainTag, Bool.and_eq_true, script, beq_self_eq_true, if_true,
    Bool.not_eq_true'] at h
  obtain ⟨⟨-, plain⟩, values⟩ := h
  have absent := not_infix_of_hasScriptTag htext
  have brackets := bracket_notMem_attributes plain
  have letter : Bytes.isTagBlank 0x74 = false := by decide
  have mark := hasModelAttribute_print plain values letter
  rw [searched_script script]
  generalize lowered (t.attributes.flatMap attributeChars) = tag at brackets mark
  have here := sectionAt?_script brackets.2 absent rest
  rw [mark] at here
  have whole : scriptOpen ++ (tag ++ 0x3E :: (searched text ++ scriptClose)) ++ rest
      = scriptOpen ++ (tag ++ 0x3E :: (searched text ++ (scriptClose ++ rest))) := by simp
  have length : (scriptOpen ++ (tag ++ 0x3E :: (searched text ++ scriptClose))).length
      = tag.length + (searched text).length + 17 := by
    have lengths : scriptOpen.length = 7 ∧ scriptClose.length = 9 := by decide
    simp [lengths]
    omega
  cases marked : t.attributes.any isModelAttribute with
  | true =>
      rw [marked] at here
      rw [length, whole]
      rw [scriptOpen_eq, List.cons_append] at here ⊢
      rw [locateFrom, here]
      rfl
  | false =>
      -- past the first byte no script is opened
      have inTag : 0x3C ∉ scriptOpen.tail ++ (tag ++ [0x3E]) := by
        simp [scriptOpen_eq, brackets.1]
      have inText : Free scriptOpen (searched text) (scriptClose ++ rest) := by
        refine free_of_absent absent.1 fun x hx => ?_
        obtain rfl : 0x3C = x := Option.some.inj hx
        decide
      have inClose : Free scriptOpen scriptClose rest := by
        rw [scriptClose_eq]
        exact free_sign (by decide) (by decide) rest
      have free : Free scriptOpen
          ((scriptOpen.tail ++ (tag ++ [0x3E])) ++ (searched text ++ scriptClose)) rest :=
        free_append.mpr ⟨free_of_notMem inTag, free_append.mpr ⟨inText, inClose⟩⟩
      have split : scriptOpen ++ (tag ++ 0x3E :: (searched text ++ scriptClose))
          = 0x3C :: ((scriptOpen.tail ++ (tag ++ [0x3E])) ++ (searched text ++ scriptClose)) := by
        simp [scriptOpen_eq]
      rw [marked, if_neg (by simp), ← whole, split, List.cons_append] at here
      rw [if_neg (by simp), split, List.cons_append, locateFrom, here]
      simp only [locateFrom_append_of_free free, List.length_cons]
      rw [Nat.add_assoc, Nat.add_comm 1]

end PageTemplates.Model
