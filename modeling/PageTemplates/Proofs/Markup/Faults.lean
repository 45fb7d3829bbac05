import PageTemplates.Markup.Build
import PageTemplates.Proofs.Text.Ascii
import PageTemplates.Proofs.Text.Trim

/-!
# What makes markup unreadable

Nearly all markup is read one way or another. What is not read holds one of three
things, and the error tells which:

* `MarkupError.Blames e cs`: the characters `cs` hold what the error `e` is about, a
  declaration `<![` without a name, one of an unknown name, or a decimal reference
  of too many digits;
* `eventsFrom_blames`: whatever stops a reader stands in the markup that is left;
* `ofText_blames`: a text that is no document holds what its error is about.
-/

namespace PageTemplates

open Text (isBlank maxDigits)

/-! ## Parts of sequences -/

theorem infix_of_prefix_drop {α : Type} {xs ys : List α} {n : Nat} (h : xs <+: ys.drop n) :
    xs <:+: ys :=
  h.isInfix.trans (List.drop_suffix n ys).isInfix

/-! ## References of too many digits -/

/-- A decimal reference of `digits` digits stands in `cs`. -/
def Reference.HasDigits (digits : Nat) (cs : List Char) : Prop :=
  ∃ ds : List Char, ds.length = digits ∧ ds.all Char.isDigit ∧ '&' :: '#' :: ds <:+: cs

namespace Reference

theorem HasDigits.mono {n : Nat} {xs ys : List Char} (h : HasDigits n xs) (sub : xs <:+: ys) :
    HasDigits n ys := by
  obtain ⟨ds, len, digits, inside⟩ := h
  exact ⟨ds, len, digits, inside.trans sub⟩

theorem hasDigits_of_overlong? {cs : List Char} {n : Nat} (h : overlong? cs = some n) :
    maxDigits < n ∧ HasDigits n cs := by
  induction cs with
  | nil => cases h
  | cons c cs ih =>
      simp only [overlong?] at h
      split at h
      · rename_i begins
        simp only [Bool.and_eq_true, beq_iff_eq, decide_eq_true_eq] at begins
        obtain ⟨⟨rfl, sharp⟩, many⟩ := begins
        cases h
        cases cs with
        | nil => cases sharp
        | cons d ds =>
            cases sharp
            refine ⟨many, ds.takeWhile Char.isDigit, rfl, List.all_takeWhile, ?_⟩
            exact (List.prefix_append_right_inj ['&', '#']).mpr
              (List.takeWhile_prefix _) |>.isInfix
      · obtain ⟨many, here⟩ := ih h
        exact ⟨many, here.mono (List.suffix_cons c cs).isInfix⟩

end Reference

namespace Markup

/-! ## Values of attributes -/

theorem infix_of_valueAt? {cs value : List Char} {n : Nat} (h : valueAt? cs = some (value, n)) :
    value <:+: cs := by
  -- a bare value begins somewhere behind the name, and runs as far as it may
  have bare (i : Nat) : (cs.drop i).takeWhile isBareChar <:+: cs :=
    infix_of_prefix_drop (List.takeWhile_prefix _)
  unfold valueAt? at h
  dsimp only at h
  split at h
  · cases h
  · split at h
    · cases h
      exact bare _
    · rename_i q rest behind
      split at h
      · split at h
        · rename_i found
          simp only [quotedValue?] at found
          split at found
          · cases found
            cases h
            refine (List.takeWhile_prefix _).isInfix.trans ?_
            refine (List.suffix_cons q rest).isInfix.trans ?_
            rw [← behind]
            exact (List.drop_suffix _ _).isInfix
          · cases found
        · split at h
          · cases h
            exact List.nil_infix
          · split at h
            · cases h
              exact bare _
            · cases h
      · cases h
        exact bare _

theorem infix_of_attributeAt? {prev : Char} {cs : List Char} {a : Attribute} {n : Nat}
    (h : attributeAt? prev cs = some (a, n)) : ∀ v, a.2 = some v → v.toList <:+: cs := by
  cases cs with
  | nil => cases h
  | cons c cs =>
      simp only [attributeAt?] at h
      split at h
      · split at h
        · rename_i value m found
          cases h
          rintro v ⟨⟩
          rw [String.toList_ofList]
          exact (infix_of_valueAt? found).trans (List.drop_suffix _ _).isInfix
        · cases h
          rintro v ⟨⟩
      · cases h

/-- The values of attributes stand in the markup they are read from. -/
theorem infix_of_mem_attributesFrom {skip : Nat} {prev : Char} {cs : List Char} {a : Attribute}
    (h : a ∈ (attributesFrom skip prev cs).1) : ∀ v, a.2 = some v → v.toList <:+: cs := by
  induction cs generalizing skip prev with
  | nil => cases skip <;> cases h
  | cons c cs ih =>
      have later {skip : Nat} {prev : Char} (h : a ∈ (attributesFrom skip prev cs).1) :
          ∀ v, a.2 = some v → v.toList <:+: c :: cs :=
        fun v hv => (ih h v hv).trans (List.suffix_cons c cs).isInfix
      cases skip with
      | succ skip => exact later h
      | zero =>
          simp only [attributesFrom] at h
          split at h
          · rename_i found
            rcases List.mem_cons.mp h with rfl | h
            · exact infix_of_attributeAt? found
            · exact later h
          · cases h

theorem overlong_of_orOverlong {as : List Attribute} {t : StartTag} {n : Nat}
    (h : StartTag.orOverlong as t = .overlong n) (other : ∀ m, t ≠ .overlong m) :
    ∃ a ∈ as, ∃ v, a.2 = some v ∧ Reference.overlong? v.toList = some n := by
  unfold StartTag.orOverlong at h
  split at h
  · rename_i found
    cases h
    obtain ⟨a, mem, hv⟩ := List.exists_of_findSome?_eq_some found
    obtain ⟨v, value, long⟩ := Option.bind_eq_some_iff.mp hv
    exact ⟨a, mem, v, value, long⟩
  · exact absurd h (other n)

/-- A start tag that cannot be read holds a reference of too many digits. -/
theorem hasDigits_of_startTag {cs : List Char} {n : Nat} (h : startTag cs = .overlong n) :
    maxDigits < n ∧ Reference.HasDigits n cs := by
  have written {k m : Nat} {prev : Char} {t : StartTag} (other : ∀ m, t ≠ .overlong m)
      (h : StartTag.orOverlong (attributesFrom m prev (cs.drop k)).1 t = .overlong n) :
      maxDigits < n ∧ Reference.HasDigits n cs := by
    obtain ⟨a, mem, v, value, long⟩ := overlong_of_orOverlong h other
    obtain ⟨many, here⟩ := Reference.hasDigits_of_overlong? long
    exact ⟨many, here.mono ((infix_of_mem_attributesFrom mem v value).trans
      (List.drop_suffix _ _).isInfix)⟩
  unfold startTag at h
  dsimp only at h
  split at h
  · cases h
  · exact written (fun m => by rintro ⟨⟩) h
  · exact written (fun m => by rintro ⟨⟩) h
  · split at h
    · cases h
    · exact written (fun m => by rintro ⟨⟩) h

/-! ## What errors are about -/

/-- The words that a bracketed declaration may begin with. -/
def sectionWords : List String :=
  ["temp", "cdata", "ignore", "include", "rcdata"] ++ ["if", "else", "endif"]

/-- The characters `cs` hold what an error is about: a declaration that begins with no
letter; one whose first word, shown with the blanks behind it, is not known; or a
decimal reference of too many digits. -/
def MarkupError.Blames : MarkupError → List Char → Prop
  | .nameExpected _, cs => ∃ c, isLetter c = false ∧ ['<', '!', '[', c] <:+: cs
  | .unknownSection keyword, cs =>
      '<' :: '!' :: '[' :: keyword.toList <:+: cs ∧ Text.lower (Text.strip keyword) ∉ sectionWords
  | .overlongNumber n, cs => maxDigits < n ∧ Reference.HasDigits n cs

theorem MarkupError.Blames.mono {e : MarkupError} {xs ys : List Char} (h : e.Blames xs)
    (sub : xs <:+: ys) : e.Blames ys := by
  cases e with
  | nameExpected near =>
      obtain ⟨c, other, inside⟩ := h
      exact ⟨c, other, inside.trans sub⟩
  | unknownSection keyword => exact ⟨h.1.trans sub, h.2⟩
  | overlongNumber n => exact ⟨h.1, h.2.mono sub⟩

/-! ## Steps of a reader -/

/-- A character of the words in bracketed declarations. -/
def isSectionChar (c : Char) : Bool := c.isAlphanum || c == '-' || c == '_' || c == '.'

theorem toNat_of_isSectionChar {c : Char} (h : isSectionChar c) :
    45 ≤ c.toNat ∧ c.toNat ≤ 122 := by
  simp only [isSectionChar, Bool.or_eq_true, beq_iff_eq] at h
  rcases h with ((alphanum | rfl) | rfl) | rfl
  · obtain ⟨low, high⟩ := Text.toNat_of_isAlphanum alphanum
    exact ⟨Nat.le_trans (by decide) low, high⟩
  all_goals decide

theorem not_isBlank_of_isSectionChar {c : Char} (h : isSectionChar c) : isBlank c = false := by
  obtain ⟨low, high⟩ := toNat_of_isSectionChar h
  refine Bool.eq_false_iff.mpr fun blank => ?_
  simp only [isBlank, Bool.or_eq_true, Bool.and_eq_true, decide_eq_true_eq, beq_iff_eq] at blank
  omega

theorem isSectionChar_of_isLetter {c : Char} (h : isLetter c) : isSectionChar c := by
  simp only [isLetter] at h
  simp [isSectionChar, Char.isAlphanum, h]

/-- What is shown is the word in front and the blanks behind it. -/
theorem take_word (cs : List Char) :
    let word := cs.takeWhile isSectionChar
    let blanks := (cs.drop word.length).takeWhile isBlank
    cs.take (word.length + blanks.length) = word ++ blanks := by
  intro word blanks
  rw [List.take_add, ← List.prefix_iff_eq_take.mp (List.takeWhile_prefix isSectionChar),
    ← List.prefix_iff_eq_take.mp (List.takeWhile_prefix isBlank)]

/-- A word is shown with the blanks behind it. -/
theorem strip_take_word {cs : List Char} (first : cs.head?.any isLetter) :
    let word := cs.takeWhile isSectionChar
    let blanks := (cs.drop word.length).takeWhile isBlank
    Text.strip (String.ofList (cs.take (word.length + blanks.length))) = String.ofList word := by
  intro word blanks
  have parts : cs.take (word.length + blanks.length) = word ++ blanks := take_word cs
  have filled : ∀ c ∈ word, isBlank c = false := fun c mem =>
    not_isBlank_of_isSectionChar (List.all_eq_true.mp List.all_takeWhile c mem)
  rw [Text.strip, String.toList_ofList, parts]
  cases cs with
  | nil => cases first
  | cons c cs =>
      have starts : word = c :: cs.takeWhile isSectionChar :=
        List.takeWhile_cons_of_pos (isSectionChar_of_isLetter first)
      rw [starts] at filled ⊢
      rw [Text.trim_append_blanks (filled c List.mem_cons_self) List.all_takeWhile,
        Text.trim_eq_self filled]

theorem bracketedStep_blames {cs : List Char} {e : MarkupError}
    (h : bracketedStep cs = .error e) : e.Blames ('<' :: '!' :: '[' :: cs) := by
  unfold bracketedStep at h
  extract_lets name blanks word closedBy at h
  have closed (at? : List Char → Option Nat) : closedBy at? ≠ .error e := by
    unfold closedBy
    split <;> rintro ⟨⟩
  -- what begins with no letter is blamed, and a word that is none of those known
  split at h
  · cases h
  · rename_i filled
    split at h
    · rename_i other
      cases h
      cases cs with
      | nil => exact absurd rfl filled
      | cons c cs =>
          refine ⟨c, by simpa using other, ?_⟩
          exact (List.prefix_append ['<', '!', '[', c] cs).isInfix
    · rename_i letter
      split at h
      · cases h
      · split at h
        · exact absurd h (closed _)
        · rename_i notSection
          split at h
          · exact absurd h (closed _)
          · rename_i notCondition
            cases h
            refine ⟨?_, ?_⟩
            · rw [String.toList_ofList]
              exact ((List.prefix_append_right_inj ['<', '!', '[']).mpr
                (List.take_prefix _ cs)).isInfix
            · rw [show Text.strip (String.ofList (cs.take (name.length + blanks))) =
                  String.ofList name from strip_take_word (by simpa using letter)]
              rw [List.contains_iff_mem] at notSection notCondition
              rw [sectionWords, List.mem_append, not_or]
              exact ⟨notSection, notCondition⟩

theorem upToBracket_ne_error {event : List Char → List Event} {extra : Nat} {cs : List Char}
    {e : MarkupError} : upToBracket event extra cs ≠ .error e := by
  unfold upToBracket
  split <;> rintro ⟨⟩

theorem declarationStep_blames {cs : List Char} {e : MarkupError}
    (h : declarationStep cs = .error e) : e.Blames ('<' :: '!' :: cs) := by
  unfold declarationStep at h
  split at h
  · split at h <;> cases h
  · exact bracketedStep_blames h
  · split at h
    · exact absurd h upToBracket_ne_error
    · exact absurd h upToBracket_ne_error

theorem tagStep_blames {cs : List Char} {e : MarkupError} (h : tagStep cs = .error e) :
    e.Blames ('<' :: cs) := by
  unfold tagStep at h
  split at h
  · exact absurd h upToBracket_ne_error
  · exact absurd h upToBracket_ne_error
  · exact declarationStep_blames h
  · rename_i c rest
    split at h
    · unfold startTagStep at h
      split at h
      · cases h
      · cases h
      · cases h
      · cases h
      · rename_i digits found
        cases h
        obtain ⟨many, here⟩ := hasDigits_of_startTag found
        exact ⟨many, here.mono (List.suffix_cons '<' _).isInfix⟩
    · cases h
  · cases h

theorem textEvent_blames {cs : List Char} {e : MarkupError} (h : textEvent cs = .error e) :
    e.Blames cs := by
  unfold textEvent at h
  split at h
  · rename_i digits found
    cases h
    exact Reference.hasDigits_of_overlong? found
  · cases h

/-! ## Reading -/

/-- What stops a reader stands in the markup that is left. -/
theorem eventsFrom_blames {raw? : Option String} {skip : Nat} {cs : List Char} {e : MarkupError}
    (h : eventsFrom raw? skip cs = .error e) : e.Blames cs := by
  induction cs generalizing raw? skip with
  | nil => cases raw? <;> cases skip <;> cases h
  | cons c cs ih =>
      -- once a step is read, the rest of the markup is to blame
      have later {raw? : Option String} {skip : Nat} {f : List Event → List Event}
          (h : (eventsFrom raw? skip cs).map f = .error e) : e.Blames (c :: cs) := by
        cases rest : eventsFrom raw? skip cs with
        | error e' =>
            rw [rest] at h
            cases h
            exact (ih rest).mono (List.suffix_cons c cs).isInfix
        | ok es =>
            rw [rest] at h
            cases h
      have spoken {text : List Char} (part : text <:+: c :: cs) {skip : Nat}
          (h : ((textEvent text).bind fun ev => (eventsFrom none skip cs).map (ev :: ·))
            = .error e) :
          e.Blames (c :: cs) := by
        cases said : textEvent text with
        | error e' =>
            rw [said] at h
            cases h
            exact (textEvent_blames said).mono part
        | ok ev =>
            rw [said] at h
            exact later h
      cases skip with
      | succ skip =>
          have before : e.Blames cs := ih h
          exact before.mono (List.suffix_cons c cs).isInfix
      | zero =>
          cases raw? with
          | some name =>
              simp only [eventsFrom] at h
              split at h
              · cases h
              · exact later h
          | none =>
              simp only [eventsFrom] at h
              split at h
              · rename_i bracket
                rw [beq_iff_eq] at bracket
                subst bracket
                split at h
                · rename_i step
                  cases h
                  exact tagStep_blames step
                · exact later h
                · refine spoken ?_ h
                  exact ((List.prefix_append_right_inj ['<']).mpr
                    (List.take_prefix _ cs)).isInfix
              · exact spoken (List.takeWhile_prefix _).isInfix h

/-- A text that cannot be read holds what the error is about. -/
theorem ofText_blames {s : String} {e : MarkupError} (h : Document.ofText s = .error e) :
    e.Blames s.toList := by
  unfold Document.ofText events at h
  cases read : eventsFrom none 0 s.toList with
  | error e' =>
      rw [read] at h
      cases h
      exact eventsFrom_blames read
  | ok es =>
      rw [read] at h
      cases h

end Markup

end PageTemplates
