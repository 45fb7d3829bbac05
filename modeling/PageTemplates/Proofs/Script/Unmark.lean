import PageTemplates.Proofs.Script.Grammar

/-!
# Undoing references in script

The references of markup that are undone in embedded scripts are words that
begin with `&`. Generated script has this character only inside its strings, so
that nothing but the strings changes. The main facts:

* `Inside.unmark`: what can stand inside a string can do so afterwards;
* `TemplateText.unmark`: a text inside the strings of a template remains one.
-/

namespace PageTemplates.Script

/-- The characters between strings that no reference goes beyond. -/
def marks : List Char := ['\'', ',', '[', ']', ')']

/-- A word that can be replaced inside strings, and what it is replaced by. -/
structure IsReference (word repl : List Char) : Prop where
  begins : ∃ tail, word = '&' :: tail ∧ tail.all isPlain
  stands : ∃ vs, Inside repl vs
  unmarked : marks.all fun c => !word.contains c

namespace IsReference

variable {word repl : List Char}

theorem replaceFrom_cons (h : IsReference word repl) {c : Char} (hc : c ≠ '&') (cs : List Char) :
    Text.replaceFrom word repl 0 (c :: cs) = c :: Text.replaceFrom word repl 0 cs := by
  obtain ⟨tail, rfl, -⟩ := h.begins
  have hp : ('&' :: tail).isPrefixOf (c :: cs) = false := by
    simp [List.isPrefixOf, hc.symm]
  simp [Text.replaceFrom, hp]

/-- Behind the first character of an occurrence the rest of it is skipped. -/
theorem plain_of_isPrefixOf (h : IsReference word repl) {c : Char} {cs : List Char}
    (hp : word.isPrefixOf (c :: cs)) : ∀ x ∈ cs.take (word.length - 1), isPlain x := by
  obtain ⟨tail, rfl, plain⟩ := h.begins
  obtain ⟨rest, hrest⟩ := List.isPrefixOf_iff_prefix.mp hp
  obtain ⟨-, rfl⟩ := List.cons.inj hrest
  intro x hx
  exact List.all_eq_true.mp plain x (by simpa using hx)

theorem inside (h : IsReference word repl) {cs vs : List Char} (hcs : Inside cs vs) :
    ∀ skip, (∀ c ∈ cs.take skip, isPlain c) →
      ∃ vs', Inside (Text.replaceFrom word repl skip cs) vs' := by
  -- what is skipped is plain, so an escape is never cut in two
  have plainOnly : ∀ {c : Char} {cs : List Char} {skip : Nat}, isPlain c = false →
      (∀ x ∈ (c :: cs).take skip, isPlain x) → skip = 0 := by
    intro c cs skip hc hs
    cases skip with
    | zero => rfl
    | succ n =>
        have := hs c (by simp)
        rw [hc] at this
        cases this
  have ne_of_hex : ∀ {c : Char} {n : Nat}, hexValue? c = some n → c ≠ '&' := by
    rintro c n hc rfl
    cases hc
  induction hcs with
  | nil => intro skip _; exact ⟨[], by cases skip <;> exact .nil⟩
  | @plain c cs vs hc rest ih =>
      intro skip hs
      cases skip with
      | succ n =>
          exact ih n fun x hx => hs x (by simp [hx])
      | zero =>
          by_cases hp : word.isPrefixOf (c :: cs)
          · obtain ⟨vs', hrest⟩ := ih (word.length - 1) (h.plain_of_isPrefixOf hp)
            obtain ⟨ws, hrepl⟩ := h.stands
            refine ⟨ws ++ vs', ?_⟩
            simpa [Text.replaceFrom, hp] using hrepl.append hrest
          · obtain ⟨vs', hrest⟩ := ih 0 (by simp)
            exact ⟨c :: vs', by simpa [Text.replaceFrom, hp] using Inside.plain hc hrest⟩
  | @escape c x cs vs hc rest ih =>
      intro skip hs
      obtain rfl := plainOnly rfl hs
      obtain ⟨vs', hrest⟩ := ih 0 (by simp)
      have hamp : c ≠ '&' := by
        rintro rfl
        cases hc
      rw [h.replaceFrom_cons (by decide), h.replaceFrom_cons hamp]
      exact ⟨x :: vs', .escape hc hrest⟩
  | @code a b c d w x y z cs vs ha hb hc hd rest ih =>
      intro skip hs
      obtain rfl := plainOnly rfl hs
      obtain ⟨vs', hrest⟩ := ih 0 (by simp)
      rw [h.replaceFrom_cons (by decide), h.replaceFrom_cons (by decide),
        h.replaceFrom_cons (ne_of_hex ha), h.replaceFrom_cons (ne_of_hex hb),
        h.replaceFrom_cons (ne_of_hex hc), h.replaceFrom_cons (ne_of_hex hd)]
      exact ⟨_, .code ha hb hc hd hrest⟩
  | @joined cs vs rest ih =>
      intro skip hs
      obtain rfl := plainOnly rfl hs
      obtain ⟨vs', hrest⟩ := ih 0 (by simp)
      rw [h.replaceFrom_cons (by decide), h.replaceFrom_cons (by decide),
        h.replaceFrom_cons (by decide)]
      exact ⟨vs', .joined hrest⟩

end IsReference

/-! ## Marks between strings -/

theorem isPrefixOf_append_cons {word : List Char} {c : Char} (hc : c ∉ word)
    (xs ys : List Char) : word.isPrefixOf (xs ++ c :: ys) = word.isPrefixOf xs := by
  induction word generalizing xs with
  | nil => simp
  | cons w ws ih =>
      rw [List.mem_cons, not_or] at hc
      cases xs with
      | nil => simp [List.isPrefixOf, Ne.symm hc.1]
      | cons x xs => simp [List.isPrefixOf, ih hc.2]

/-- An occurrence never goes beyond a mark that the word does not have. -/
theorem replaceFrom_append_cons {word repl : List Char} {c : Char} (hc : c ∉ word)
    (hw : word ≠ []) (xs ys : List Char) : ∀ skip ≤ xs.length,
      Text.replaceFrom word repl skip (xs ++ c :: ys)
        = Text.replaceFrom word repl skip xs ++ c :: Text.replaceFrom word repl 0 ys := by
  induction xs with
  | nil =>
      intro skip hs
      obtain rfl : skip = 0 := by simpa using hs
      have hp := isPrefixOf_append_cons hc [] ys
      rw [List.nil_append] at hp
      simp [Text.replaceFrom, hp, List.isPrefixOf_iff_prefix, hw]
  | cons x xs ih =>
      intro skip hs
      cases skip with
      | succ n => exact ih n (by simpa using hs)
      | zero =>
          have hp := isPrefixOf_append_cons hc (x :: xs) ys
          rw [List.cons_append] at hp ⊢
          by_cases h : word.isPrefixOf (x :: xs)
          · have hlen := (List.isPrefixOf_iff_prefix.mp h).length_le
            rw [h] at hp
            simp only [Text.replaceFrom, hp, h, if_true, List.append_assoc]
            rw [ih _ (by simp at hlen; omega)]
          · rw [Bool.not_eq_true] at h
            rw [h] at hp
            simp only [Text.replaceFrom, hp, h, Bool.false_eq_true, if_false, List.cons_append]
            rw [ih 0 (Nat.zero_le _)]

namespace IsReference

variable {word repl : String} (h : IsReference word.toList repl.toList)
include h

theorem word_ne_nil : word.toList ≠ [] := by
  obtain ⟨tail, hw, -⟩ := h.begins
  simp [hw]

/-- What stands behind a mark is replaced on its own. -/
theorem replace_append {a b : String}
    (hb : ∃ c ∈ marks, b.toList.head? = some c) :
    Text.replace (a ++ b) word repl = Text.replace a word repl ++ Text.replace b word repl := by
  obtain ⟨c, hc, hhead⟩ := hb
  obtain ⟨ys, hb⟩ := List.head?_eq_some_iff.mp hhead
  have hmark : c ∉ word.toList := by simpa using List.all_eq_true.mp h.unmarked c hc
  have split := fun xs => @replaceFrom_append_cons _ repl.toList c hmark h.word_ne_nil xs ys 0
    (Nat.zero_le _)
  have hself := split []
  have hall := split a.toList
  rw [List.nil_append, Text.replaceFrom, List.nil_append] at hself
  apply String.toList_injective
  simp [Text.replace, Text.replaceAll, hb, hself, hall]

/-- What has no `&` stays as it is. -/
theorem append_replace {a : String} (ha : '&' ∉ a.toList) (b : String) :
    Text.replace (a ++ b) word repl = a ++ Text.replace b word repl := by
  have hall : ∀ xs : List Char, '&' ∉ xs →
      Text.replaceFrom word.toList repl.toList 0 (xs ++ b.toList)
        = xs ++ Text.replaceFrom word.toList repl.toList 0 b.toList := by
    intro xs hxs
    induction xs with
    | nil => rfl
    | cons x xs ih =>
        rw [List.mem_cons, not_or] at hxs
        rw [List.cons_append, h.replaceFrom_cons (Ne.symm hxs.1), ih hxs.2, List.cons_append]
  apply String.toList_injective
  simp [Text.replace, Text.replaceAll, hall a.toList ha]

theorem replace_eq_self {a : String} (ha : '&' ∉ a.toList) : Text.replace a word repl = a := by
  have := h.append_replace ha ""
  simpa [Text.replace, Text.replaceAll, Text.replaceFrom] using this

end IsReference

/-- The references that are undone, in their order. -/
def references : List (String × String) :=
  [("&amp;", "&"), ("&lt;", "<"), ("&gt;", ">"), ("&#10;", "\\n"), ("&#13;", "\\n")]

theorem unmark_eq (t : String) :
    unmark t = references.foldl (fun t r => Text.replace t r.1 r.2) t := rfl

theorem isReference_of_mem {r : String × String} (h : r ∈ references) :
    IsReference r.1.toList r.2.toList := by
  have plain : ∀ {c : Char}, isPlain c → Inside [c] [c] := fun hc => .plain hc .nil
  have feed : Inside ['\\', 'n'] ['\n'] := .escape rfl .nil
  simp only [references, List.mem_cons, List.not_mem_nil, or_false] at h
  rcases h with rfl | rfl | rfl | rfl | rfl
  · exact ⟨⟨_, rfl, rfl⟩, ⟨_, plain rfl⟩, rfl⟩
  · exact ⟨⟨_, rfl, rfl⟩, ⟨_, plain rfl⟩, rfl⟩
  · exact ⟨⟨_, rfl, rfl⟩, ⟨_, plain rfl⟩, rfl⟩
  · exact ⟨⟨_, rfl, rfl⟩, ⟨_, feed⟩, rfl⟩
  · exact ⟨⟨_, rfl, rfl⟩, ⟨_, feed⟩, rfl⟩

/-- What holds of a text and is kept by each replacement holds of the text
with its references undone. -/
theorem unmark_induction {P : String → Prop} {t : String} (h : P t)
    (step : ∀ t, P t → ∀ word repl : String, IsReference word.toList repl.toList →
      P (Text.replace t word repl)) : P (unmark t) := by
  rw [unmark_eq]
  have all : ∀ r ∈ references, IsReference r.1.toList r.2.toList :=
    fun r hr => isReference_of_mem hr
  generalize references = rs at all
  induction rs generalizing t with
  | nil => exact h
  | cons r rs ih =>
      exact ih (step t h r.1 r.2 (all r List.mem_cons_self))
        fun r' hr' => all r' (List.mem_cons_of_mem _ hr')

/-! ## Templates -/

theorem IsName.noAmp {f : String} (h : IsName f) : '&' ∉ f.toList := by
  intro hm
  have hc := List.all_eq_true.mp h.chars _ hm
  revert hc
  decide

theorem leadingText_noAmp (declare : Bool) : '&' ∉ (leadingText declare).toList := by
  cases declare <;> decide

namespace IsReference

variable {word repl : String}

theorem replace_inside (h : IsReference word.toList repl.toList) {s : String} {vs : List Char}
    (hs : Inside s.toList vs) : ∃ vs', Inside (Text.replace s word repl).toList vs' := by
  rw [Text.replace, String.toList_ofList]
  exact h.inside hs 0 (by simp)

mutual

theorem replace_template (h : IsReference word.toList repl.toList) {cs : List Call} {t : String} :
    TemplateText cs t → ∃ cs', TemplateText cs' (Text.replace t word repl)
  | .inside ht => by
      obtain ⟨vs, hv⟩ := h.replace_inside ht
      exact ⟨[], .inside hv⟩
  | .next (s := s) (t := t) front rest => by
      obtain ⟨vs, hv⟩ := h.replace_inside front
      obtain ⟨cs', hcs'⟩ := h.replace_template rest
      rw [String.append_assoc, h.replace_append ⟨'\'', by simp [marks], by simp⟩,
        h.append_replace (by decide), ← String.append_assoc]
      exact ⟨cs', .next hv hcs'⟩
  | @TemplateText.call s code t _ _ _ front hc rest => by
      obtain ⟨vs, hv⟩ := h.replace_inside front
      obtain ⟨c', hc'⟩ := h.replace_nested hc
      obtain ⟨cs', hcs'⟩ := h.replace_template rest
      refine ⟨c' :: cs', ?_⟩
      have pieces : Text.replace (s ++ "'," ++ code ++ ",'" ++ t) word repl
          = Text.replace s word repl ++ "'," ++ Text.replace code word repl ++ ",'"
            ++ Text.replace t word repl := by
        simp only [String.append_assoc]
        rw [h.replace_append ⟨'\'', by simp [marks], by simp⟩, h.append_replace (by decide),
          h.replace_append ⟨',', by simp [marks], by simp⟩, h.append_replace (by decide)]
      rw [pieces]
      exact .call hv hc' hcs'

theorem replace_nested (h : IsReference word.toList repl.toList) {c : Call} {t : String} :
    NestedText c t → ∃ c', NestedText c' (Text.replace t word repl)
  | .bare (f := f) hf => by
      have noAmp : '&' ∉ (f ++ ",[]").toList := by
        simpa using hf.noAmp
      rw [h.replace_eq_self noAmp]
      exact ⟨_, .bare hf⟩
  | @NestedText.mk f opening a _ hf ho ha => by
      obtain ⟨as', ha'⟩ := h.replace_arguments ha
      have noAmp : '&' ∉ (f ++ opening).toList := by
        have := hf.noAmp
        rcases ho with rfl | rfl <;> simpa
      rw [h.replace_append ⟨']', by simp [marks], rfl⟩, h.append_replace noAmp,
        h.replace_eq_self (a := "]") (by decide)]
      exact ⟨_, .mk hf ho ha'⟩

theorem replace_arguments (h : IsReference word.toList repl.toList) {as : List Argument}
    {t : String} : ArgumentsText as t → ∃ as', ArgumentsText as' (Text.replace t word repl)
  | .text (s := s) hs => by
      obtain ⟨vs, hv⟩ := h.replace_inside hs
      rw [h.replace_append ⟨'\'', by simp [marks], rfl⟩, h.append_replace (by decide),
        h.replace_eq_self (a := "'") (by decide)]
      exact ⟨_, .text hv⟩
  | .template (t := t) ht => by
      obtain ⟨cs', ht'⟩ := h.replace_template ht
      rw [h.replace_append ⟨'\'', by simp [marks], rfl⟩, h.append_replace (by decide),
        h.replace_eq_self (a := "']") (by decide)]
      exact ⟨_, .template ht'⟩
  | .null rest => by
      obtain ⟨as', ha'⟩ := h.replace_arguments rest
      rw [h.append_replace (by decide)]
      exact ⟨_, .null ha'⟩
  | .comma (a := a) (b := b) ha hb => by
      obtain ⟨as', ha'⟩ := h.replace_arguments ha
      obtain ⟨bs', hb'⟩ := h.replace_arguments hb
      rw [String.append_assoc, h.replace_append ⟨',', by simp [marks], by simp⟩,
        h.append_replace (by decide), ← String.append_assoc]
      exact ⟨_, .comma ha' hb'⟩

end

/-- The function that is called remains the same. -/
theorem replace_complete (h : IsReference word.toList repl.toList) {declare : Bool} {f t : String}
    {as : List Argument} (ht : CompleteText declare (.mk f as) t) :
    ∃ as', CompleteText declare (.mk f as') (Text.replace t word repl) := by
  cases ht with
  | @mk f a _ hf ha =>
      obtain ⟨as', ha'⟩ := h.replace_arguments ha
      have noAmp : '&' ∉ (f ++ leadingText declare).toList := by
        rw [String.toList_append, List.mem_append, not_or]
        exact ⟨hf.noAmp, leadingText_noAmp declare⟩
      rw [h.replace_append ⟨')', by simp [marks], rfl⟩, h.append_replace noAmp,
        h.replace_eq_self (a := ")") (by decide)]
      exact ⟨as', .mk hf ha'⟩

end IsReference

theorem Inside.unmark {t : String} (h : ∃ vs, Inside t.toList vs) :
    ∃ vs, Inside (unmark t).toList vs := by
  refine unmark_induction (P := fun t => ∃ vs, Inside t.toList vs) h ?_
  rintro t ⟨vs, ht⟩ word repl reference
  exact reference.replace_inside ht

theorem TemplateText.unmark {cs : List Call} {t : String} (h : TemplateText cs t) :
    ∃ cs', TemplateText cs' (unmark t) := by
  refine unmark_induction (P := fun t => ∃ cs', TemplateText cs' t) ⟨cs, h⟩ ?_
  rintro t ⟨cs, ht⟩ word repl reference
  exact reference.replace_template ht

end PageTemplates.Script
