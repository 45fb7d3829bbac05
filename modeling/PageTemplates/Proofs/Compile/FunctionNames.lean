import Mathlib.Data.List.Forall2
import PageTemplates.Proofs.Compile.Separating
import PageTemplates.Proofs.Script.Reader
import PageTemplates.Proofs.Text.Replace

/-!
# The names of functions

The function of an element is named after the id of the element: without the blanks around
it, and with underscores for the spaces in it. A body that has no id, and elements of a body
that have none, get names of their own. The main facts:

* `functionName?_eq_some_iff`: the name of a function, from the id;
* `isIdentifier_functionName`: which ids make a name that a script can use;
* `functionName_eq_iff`: which ids make the same name;
* `isIdentifier_madeUpName`, `madeUpName_injective`: names that are made up can be used, and
  are all different;
* `pairwise_namesFrom`, `areNamed_body`: two functions of a body have the same name only where
  an id says so.
-/

namespace PageTemplates.Compile

open Markup Script

/-! ## Names from ids -/

/-- The id of a tag, without the blanks around it. -/
def idOf (t : Tag) : List Char := Text.trim (t.value "id").toList

/-- What a character of an id is in a name. -/
def nameChar (c : Char) : Char := if c == ' ' then '_' else c

/-- Two characters that are the same in a name: both are a space or an underscore, if they
are not equal. -/
def Alike (c d : Char) : Prop := c = d ∨ c = ' ' ∧ d = '_' ∨ c = '_' ∧ d = ' '

/-- Whether the name that an id makes can be used in a script: it begins with a letter, an
underscore or a dollar sign, there are only such characters, digits and spaces in it, and the
name is not a reserved word. -/
def isWordId (id : List Char) : Bool :=
  id.head?.any isNameStart && id.all (fun c => c == ' ' || isNameChar c) &&
    !reservedWords.contains (String.ofList (id.map nameChar))

theorem replaceAll_space (cs : List Char) :
    Text.replaceAll " ".toList "_".toList cs = cs.map nameChar := by
  induction cs with
  | nil => rfl
  | cons c cs ih =>
      rw [List.map_cons, ← ih]
      by_cases space : c = ' '
      · subst space
        exact Text.replaceAll_word_append ' ' [] ['_'] cs
      · rw [nameChar, if_neg (by simpa using space)]
        exact Text.replaceAll_cons_of_ne space

/-- An element has a function if its id is more than blanks, and this is its name. -/
theorem functionName?_eq_some_iff {t : Tag} {name : String} :
    functionName? t = some name ↔ idOf t ≠ [] ∧ name = String.ofList ((idOf t).map nameChar) := by
  have name_eq : Text.replace (Text.strip (t.value "id")) " " "_"
      = String.ofList ((idOf t).map nameChar) := by
    rw [Text.replace, replaceAll_space, Text.toList_strip]
    rfl
  have empty : (Text.strip (t.value "id")).isEmpty ↔ idOf t = [] := by
    rw [String.isEmpty_iff, ← String.toList_inj, Text.toList_strip]
    rfl
  unfold functionName? Directive.functionName? Tag.directiveOf
  dsimp only
  rw [name_eq]
  split
  · rename_i blank
    simp [empty.mp blank]
  · rename_i filled
    rw [Option.some.injEq, eq_comm]
    exact ⟨fun same => ⟨fun none => filled (empty.mpr none), same⟩, And.right⟩

theorem toList_functionName {t : Tag} {name : String} (h : functionName? t = some name) :
    name.toList = (idOf t).map nameChar := by
  rw [(functionName?_eq_some_iff.mp h).2, String.toList_ofList]

theorem head?_trim {cs : List Char} {c : Char} (h : (Text.trim cs).head? = some c) :
    Text.isBlank c = false := by
  have start : Text.trim cs <+: Text.trimStart cs := by
    rw [Text.trim, Text.trimEnd, ← List.reverse_suffix, List.reverse_reverse]
    exact List.dropWhile_suffix _
  obtain ⟨rest, whole⟩ := start
  have first := List.head?_dropWhile_not Text.isBlank cs
  rw [← Text.trimStart, ← whole, List.head?_append, h] at first
  simpa using first

theorem isNameChar_nameChar (c : Char) : isNameChar (nameChar c) = (c == ' ' || isNameChar c) := by
  have underscore : isNameChar '_' = true := by decide
  rw [nameChar]
  split <;> simp_all

/-- The name from an id can be used in a script if the id is made for it, and only then. -/
theorem isIdentifier_functionName {t : Tag} {name : String} (h : functionName? t = some name) :
    isIdentifier name.toList ↔ isWordId (idOf t) := by
  have first : ((idOf t).map nameChar).head? = (idOf t).head? := by
    rw [List.head?_map]
    cases begins : (idOf t).head? with
    | none => rfl
    | some c =>
        have space : c ≠ ' ' := by
          rintro rfl
          exact absurd (head?_trim begins) (by decide)
        rw [Option.map_some, nameChar, if_neg (by simpa using space)]
  rw [toList_functionName h, isIdentifier, isWordId, first, List.all_map]
  simp only [Function.comp_def, isNameChar_nameChar]

/-- A letter may have an accent; a currency sign is no letter. -/
example : isWordId "caf\u00e9 1".toList ∧ ¬ isWordId "\u20ac".toList := by decide +kernel

theorem nameChar_eq_iff {c d : Char} : nameChar c = nameChar d ↔ Alike c d := by
  unfold nameChar Alike
  grind

/-- Two ids make the same name if they differ in spaces and underscores at most, and only
then. -/
theorem functionName_eq_iff {t u : Tag} {name other : String} (h : functionName? t = some name)
    (h' : functionName? u = some other) :
    name = other ↔ List.Forall₂ Alike (idOf t) (idOf u) := by
  rw [← String.toList_inj, toList_functionName h, toList_functionName h', ← List.forall₂_eq_eq_eq,
    List.forall₂_map_left_iff, List.forall₂_map_right_iff]
  simp only [nameChar_eq_iff]

/-! ## Names that are made up -/

theorem madeUpName_injective : Function.Injective madeUpName := by
  intro m n same
  have digits : Nat.toDigits 10 m = Nat.toDigits 10 n := by
    have lists := congrArg String.toList same
    rwa [toList_madeUpName, toList_madeUpName, List.append_cancel_left_eq] at lists
  rw [← Nat.ofDigitChars_ten_toDigits (n := m), digits, Nat.ofDigitChars_ten_toDigits]

/-- A name that begins with an underscore and has only letters, digits and such behind it can
be used. -/
theorem isIdentifier_underscore {cs : List Char} (h : cs.all isNameChar) :
    isIdentifier ('_' :: cs) := by
  have start : isNameStart '_' = true := by decide
  have words : reservedWords.all fun w => w.toList.head? != some '_' := by decide
  have free : ¬ reservedWords.contains (String.ofList ('_' :: cs)) := by
    intro reserved
    have begins := List.all_eq_true.mp words _ (List.contains_iff_mem.mp reserved)
    simp at begins
  simp only [isIdentifier, List.head?_cons, Option.any_some, List.all_cons, h, Bool.and_true,
    isNameChar, start, Bool.true_or, Bool.true_and, Bool.not_eq_true']
  simpa using free

/-- A name that is made up can be used in a script. -/
theorem isIdentifier_madeUpName (n : Nat) : isIdentifier (madeUpName n).toList := by
  have front : "_TemplateDeclare".toList.all isNameChar := by decide
  have whole : (madeUpName n).toList = '_' :: ("_TemplateDeclare".toList ++ Nat.toDigits 10 n) := by
    rw [toList_madeUpName]
    rfl
  rw [whole]
  refine isIdentifier_underscore ?_
  rw [List.all_append, front, Bool.true_and, List.all_eq_true]
  intro c hc
  rw [isNameChar, Nat.isDigit_of_mem_toDigits (by decide) (by decide) hc, Bool.or_true,
    Bool.true_or]

theorem isIdentifier_body : isIdentifier "__TemplateBody".toList := by
  have rest : "_TemplateBody".toList.all isNameChar := by decide
  exact isIdentifier_underscore rest

/-- The name of the function of a body without an id is not made up for another one. -/
theorem madeUpName_ne_body (n : Nat) : madeUpName n ≠ "__TemplateBody" := by
  intro same
  have lists := congrArg (fun s : String => s.toList[10]?) same
  rw [toList_madeUpName] at lists
  exact absurd lists (by simp)

/-! ## The functions of a body -/

/-- An id, if there is one, and the name of a function: it is the one from the id, or one that
was made up and can be used. -/
theorem mem_zip_namesFrom {k : Nat} {ids : List (Option String)} {p : Option String × String}
    (h : p ∈ ids.zip (namesFrom k ids)) :
    p.1 = some p.2 ∨ p.1 = none ∧ ∃ n > k, p.2 = madeUpName n := by
  induction ids generalizing k with
  | nil => cases h
  | cons id ids ih =>
      cases id with
      | some name =>
          rcases List.mem_cons.mp h with rfl | later
          · exact .inl rfl
          · exact ih later
      | none =>
          rcases List.mem_cons.mp h with rfl | later
          · exact .inr ⟨rfl, k + 1, Nat.lt_succ_self k, rfl⟩
          · exact (ih later).imp_right fun ⟨own, n, behind, made⟩ =>
              ⟨own, n, Nat.lt_of_succ_lt behind, made⟩

/-- Two functions have the same name only if one of them has it from its id. -/
theorem pairwise_namesFrom (k : Nat) (ids : List (Option String)) :
    (ids.zip (namesFrom k ids)).Pairwise fun p q =>
      p.2 = q.2 → p.1 = some p.2 ∨ q.1 = some q.2 := by
  induction ids generalizing k with
  | nil => exact .nil
  | cons id ids ih =>
      cases id with
      | some name => exact .cons (fun _ _ _ => .inl rfl) (ih k)
      | none =>
          refine .cons (fun q later same => .inr ?_) (ih (k + 1))
          refine (mem_zip_namesFrom later).resolve_right fun ⟨_, n, behind, made⟩ => ?_
          -- the numbers go up, so no name is made up twice
          have twice : k + 1 = n := madeUpName_injective (same.trans made)
          omega

/-- Functions with these names, of elements whose ids make the names `ids`, as far as they have
ids. -/
structure AreNamed (ids : List (Option String)) (names : List String) : Prop where
  length : ids.length = names.length
  /-- A name is the one from the id, or was made up and can be used. -/
  each : ∀ p ∈ ids.zip names, p.1 = some p.2 ∨ p.1 = none ∧ isIdentifier p.2.toList
  /-- Names that were made up are different. -/
  apart : (ids.zip names).Pairwise fun p q => p.2 = q.2 → p.1 = some p.2 ∨ q.1 = some q.2

theorem length_namesFrom (k : Nat) (ids : List (Option String)) :
    (namesFrom k ids).length = ids.length := by
  induction ids generalizing k with
  | nil => rfl
  | cons id ids ih => cases id <;> rw [namesFrom, List.length_cons, List.length_cons, ih]

theorem functionName?_bodyWithId (t : Tag) :
    functionName? (bodyWithId t) = some ((functionName? t).getD "__TemplateBody") := by
  have stripped : Text.strip "__TemplateBody" = "__TemplateBody" := by decide +kernel
  have replaced : Text.replace "__TemplateBody" " " "_" = "__TemplateBody" := by decide +kernel
  obtain ⟨name, named⟩ := exists_functionName? t
  unfold bodyWithId at named ⊢
  split
  · rename_i blank
    have none : functionName? t = none := by
      rw [functionName?, Directive.functionName?, if_pos]
      exact Text.isEmpty_strip_iff.mpr blank
    rw [none, functionName?, Directive.functionName?, Tag.directiveOf]
    simp [value_set, stripped, replaced]
  · rename_i filled
    rw [if_neg filled] at named
    rw [named, Option.getD_some]

/-- The functions of a body, and that of the body itself. -/
theorem areNamed_body {t : Tag} {name : String} (h : functionName? (bodyWithId t) = some name)
    (ids : List (Option String)) :
    AreNamed (ids ++ [functionName? t]) (namesFrom 0 ids ++ [name]) := by
  have length := length_namesFrom 0 ids
  have whole : (ids ++ [functionName? t]).zip (namesFrom 0 ids ++ [name])
      = ids.zip (namesFrom 0 ids) ++ [(functionName? t, name)] := by
    rw [List.zip_append length.symm, List.zip_cons_cons, List.zip_nil_left]
  rw [functionName?_bodyWithId, Option.some.injEq] at h
  -- the body has a name of its own, or one that is made up for bodies only
  have body : functionName? t = some name ∨ functionName? t = none ∧ name = "__TemplateBody" := by
    cases own : functionName? t with
    | none => exact .inr ⟨rfl, by rw [← h, own, Option.getD_none]⟩
    | some other => exact .inl (by rw [← h, own, Option.getD_some])
  constructor
  case length =>
    rw [List.length_append, List.length_append, length, List.length_singleton,
      List.length_singleton]
  case each =>
    intro p mem
    rw [whole, List.mem_append, List.mem_singleton] at mem
    rcases mem with mem | rfl
    · rcases mem_zip_namesFrom mem with own | ⟨none, n, -, made⟩
      · exact .inl own
      · rw [made]
        exact .inr ⟨none, isIdentifier_madeUpName n⟩
    · dsimp only
      rcases body with own | ⟨none, made⟩
      · exact .inl own
      · rw [made]
        exact .inr ⟨none, isIdentifier_body⟩
  case apart =>
    rw [whole, List.pairwise_append]
    refine ⟨pairwise_namesFrom 0 ids, List.pairwise_singleton _ _, fun p mem q last same => ?_⟩
    rw [List.mem_singleton.mp last] at same ⊢
    dsimp only at same ⊢
    rcases body with own | ⟨-, made⟩
    · exact .inr own
    · rcases mem_zip_namesFrom mem with own | ⟨-, n, -, own⟩
      · exact .inl own
      · exact absurd (own.symm.trans (same.trans made)) (madeUpName_ne_body n)

end PageTemplates.Compile
