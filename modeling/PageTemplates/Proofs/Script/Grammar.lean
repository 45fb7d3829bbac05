import PageTemplates.Proofs.Script.Reader

/-!
# The grammar of generated script

Which texts are put together when a page is compiled, and what they stand for.
A template is written from inside one of its strings to inside another one, so
the grammar has such texts as a kind of their own:

* `Inside cs vs`: the characters `cs` stand for the text `vs` inside a string,
  and escaped text does (`inside_escape`);
* `TemplateText calls t`: `t` begins and ends inside strings of a template, and
  adds `calls` to it;
* `ArgumentsText`, `NestedText` and `CompleteText`: arguments, and the two forms
  of a call.
-/

namespace PageTemplates.Script

/-! ## Text inside strings -/

/-- A character that stands for itself inside a string. -/
def isPlain (c : Char) : Bool := c != '\'' && c != '\\' && c != '\n' && c != '\r'

/-- The characters `cs` stand for the text `vs` inside a string. A string may be
interrupted by a `+`. -/
inductive Inside : List Char → List Char → Prop where
  | nil : Inside [] []
  | plain {c : Char} {cs vs : List Char} (h : isPlain c) (rest : Inside cs vs) :
      Inside (c :: cs) (c :: vs)
  | escape {c x : Char} {cs vs : List Char} (h : simpleEscape? c = some x)
      (rest : Inside cs vs) : Inside ('\\' :: c :: cs) (x :: vs)
  | code {a b c d : Char} {w x y z : Nat} {cs vs : List Char} (ha : hexValue? a = some w)
      (hb : hexValue? b = some x) (hc : hexValue? c = some y) (hd : hexValue? d = some z)
      (rest : Inside cs vs) : Inside ('\\' :: 'u' :: a :: b :: c :: d :: cs)
        (Char.ofNat (((w * 16 + x) * 16 + y) * 16 + z) :: vs)
  | joined {cs vs : List Char} (rest : Inside cs vs) : Inside ('\'' :: '+' :: '\'' :: cs) vs

namespace Inside

theorem append {cs vs cs' vs' : List Char} (h : Inside cs vs) (h' : Inside cs' vs') :
    Inside (cs ++ cs') (vs ++ vs') := by
  induction h with
  | nil => exact h'
  | plain hc _ ih => exact .plain hc ih
  | escape hc _ ih => exact .escape hc ih
  | code ha hb hc hd _ ih => exact .code ha hb hc hd ih
  | joined _ ih => exact .joined ih

theorem of_plain {cs : List Char} (h : cs.all isPlain) : Inside cs cs := by
  induction cs with
  | nil => exact .nil
  | cons c cs ih =>
      rw [List.all_cons, Bool.and_eq_true] at h
      exact .plain h.1 (ih h.2)

end Inside

theorem hexDigits_of_control : ∀ n < 32,
    Text.hexDigits 4 n = ['0', '0', Nat.digitChar (n / 16), Nat.digitChar (n % 16)] ∧
      hexValue? (Nat.digitChar (n / 16)) = some (n / 16) ∧
      hexValue? (Nat.digitChar (n % 16)) = some (n % 16) := by
  decide

/-- The three forms of a character inside a string: a letter behind a backslash,
four digits behind one, and the character itself. -/
inductive EscapeForm (c : Char) : List Char → Prop where
  | simple {x : Char} (h : simpleEscape? x = some c) : EscapeForm c ['\\', x]
  | code {x y : Char} (hx : hexValue? x = some (c.toNat / 16))
      (hy : hexValue? y = some (c.toNat % 16)) (control : c.toNat < 0x20) :
      EscapeForm c ['\\', 'u', '0', '0', x, y]
  | plain (h : isPlain c) (slash : c ≠ '/') : EscapeForm c [c]

theorem escapeForm (c : Char) : EscapeForm c (escapeChar c) := by
  have one : ∀ {x y : Char}, (c == x) = true → simpleEscape? y = some x →
      EscapeForm c ['\\', y] := by
    intro x y hc hy
    rw [beq_iff_eq] at hc
    exact .simple (hc ▸ hy)
  unfold escapeChar
  split
  · rename_i hc
    simp only [Bool.or_eq_true, beq_iff_eq] at hc
    rcases hc with ((rfl | rfl) | rfl) | rfl <;> exact .simple rfl
  split
  · exact one ‹_› rfl
  split
  · exact one ‹_› rfl
  split
  · exact one ‹_› rfl
  split
  · exact one ‹_› rfl
  split
  · exact one ‹_› rfl
  split
  · -- the other control characters, by their four digits
    rename_i hc
    obtain ⟨hd, h₁, h₀⟩ := hexDigits_of_control c.toNat hc
    rw [hd]
    exact .code h₁ h₀ hc
  · rename_i hq hb ht hn hf hr hc
    refine .plain ?_ ?_
    · simp_all [isPlain]
    · simp_all

theorem inside_escapeChar (c : Char) : Inside (escapeChar c) [c] := by
  have form := escapeForm c
  generalize escapeChar c = cs at form
  cases form with
  | simple h => exact .escape h .nil
  | code hx hy control =>
      have hn : ((0 * 16 + 0) * 16 + c.toNat / 16) * 16 + c.toNat % 16 = c.toNat := by omega
      have coded := Inside.code (a := '0') (b := '0') (w := 0) (x := 0) rfl rfl hx hy .nil
      rwa [hn, Char.ofNat_toNat] at coded
  | plain h _ => exact .plain h .nil

/-- Escaped text stands for the text. -/
theorem inside_escape (t : String) : Inside (escape t).toList t.toList := by
  unfold escape
  rw [String.toList_ofList]
  induction t.toList with
  | nil => exact .nil
  | cons c cs ih => exact (inside_escapeChar c).append ih

/-! ## Words -/

theorem splitAtEach_of_none {p : Char → Bool} {cs : List Char} (h : ∀ c ∈ cs, p c = false) :
    Text.splitAtEach p cs = [cs] := by
  induction cs with
  | nil => rfl
  | cons c cs ih =>
      have hc := h c List.mem_cons_self
      have hcs := ih fun d hd => h d (List.mem_cons_of_mem _ hd)
      simp [Text.splitAtEach, hc, hcs]

theorem isNameChar_dot : isNameChar '.' = false := by decide

theorem isDottedName_of_isIdentifier {cs : List Char} (h : isIdentifier cs) :
    isDottedName cs := by
  have hdot : ∀ c ∈ cs, (c == '.') = false := by
    intro c hc
    simp only [isIdentifier, Bool.and_eq_true, List.all_eq_true] at h
    rw [beq_eq_false_iff_ne]
    rintro rfl
    have := h.1.2 _ hc
    rw [isNameChar_dot] at this
    cases this
  simp [isDottedName, splitAtEach_of_none hdot, h]

/-- A word that is read as a name. -/
structure IsName (f : String) : Prop where
  dotted : isDottedName f.toList
  start : f.toList.head?.any isNameStart
  chars : f.toList.all fun c => isNameChar c || c == '.'
  notNull : f.toList ≠ ['n', 'u', 'l', 'l']

theorem IsName.of_isIdentifier {f : String} (h : isIdentifier f.toList) : IsName f := by
  refine ⟨isDottedName_of_isIdentifier h, ?_, ?_, ?_⟩
  · simp only [isIdentifier, Bool.and_eq_true] at h
    exact h.1.1
  · simp only [isIdentifier, Bool.and_eq_true, List.all_eq_true] at h ⊢
    intro c hc
    rw [h.1.2 c hc, Bool.true_or]
  · -- `null` is a reserved word
    intro hn
    rw [hn] at h
    revert h
    decide

/-! ## Templates and calls -/

mutual

/-- A text that begins and ends inside strings of a template, with the calls it
adds to the template. -/
inductive TemplateText : List Call → String → Prop where
  | inside {t : String} {vs : List Char} (h : Inside t.toList vs) : TemplateText [] t
  | next {s t : String} {vs : List Char} {cs : List Call} (front : Inside s.toList vs)
      (rest : TemplateText cs t) : TemplateText cs (s ++ "','" ++ t)
  | call {s code t : String} {vs : List Char} {c : Call} {cs : List Call}
      (front : Inside s.toList vs) (h : NestedText c code) (rest : TemplateText cs t) :
      TemplateText (c :: cs) (s ++ "'," ++ code ++ ",'" ++ t)

/-- A call as two items of a template: the function, and an array of its
arguments. -/
inductive NestedText : Call → String → Prop where
  | bare {f : String} (hf : IsName f) : NestedText (.mk f []) (f ++ ",[]")
  | mk {f opening a : String} {as : List Argument} (hf : IsName f)
      (ho : opening = ",[" ∨ opening = ", [") (ha : ArgumentsText as a) :
      NestedText (.mk f as) (f ++ opening ++ a ++ "]")

/-- One or more arguments with commas between them. -/
inductive ArgumentsText : List Argument → String → Prop where
  | text {s : String} {vs : List Char} (h : Inside s.toList vs) :
      ArgumentsText [.text (String.ofList vs)] ("'" ++ s ++ "'")
  | template {t : String} {cs : List Call} (h : TemplateText cs t) :
      ArgumentsText [.template cs] ("['" ++ t ++ "']")
  | null {a : String} {as : List Argument} (rest : ArgumentsText as a) :
      ArgumentsText (.null :: as) ("null," ++ a)
  | comma {a b : String} {as bs : List Argument} (ha : ArgumentsText as a)
      (hb : ArgumentsText bs b) : ArgumentsText (as ++ bs) (a ++ "," ++ b)

end

/-- The text that the arguments of a complete call begin with. -/
def leadingText (declare : Bool) : String :=
  if declare then "(contextValues,contextI,params," else "([], 0, \x7b\x7d,"

/-- A call as an expression of its own. -/
inductive CompleteText (declare : Bool) : Call → String → Prop where
  | mk {f a : String} {as : List Argument} (hf : IsName f) (ha : ArgumentsText as a) :
      CompleteText declare (.mk f as) (f ++ leadingText declare ++ a ++ ")")

/-- A complete call ends with its bracket. -/
theorem CompleteText.ends {declare : Bool} {c : Call} {t : String} (h : CompleteText declare c t) :
    ∃ s, t = s ++ ")" := by
  cases h with
  | mk hf ha => exact ⟨_, rfl⟩

namespace TemplateText

theorem prepend {s t : String} {vs : List Char} {cs : List Call} (hs : Inside s.toList vs)
    (ht : TemplateText cs t) : TemplateText cs (s ++ t) := by
  cases ht with
  | @inside _ ws h =>
      have joined : Inside (s ++ t).toList (vs ++ ws) := by
        rw [String.toList_append]
        exact hs.append h
      exact .inside joined
  | @next s' t' ws cs front rest =>
      have joined : Inside (s ++ s').toList (vs ++ ws) := by
        rw [String.toList_append]
        exact hs.append front
      have whole := TemplateText.next joined rest
      simpa only [String.append_assoc] using whole
  | @call s' code t' ws c cs front h rest =>
      have joined : Inside (s ++ s').toList (vs ++ ws) := by
        rw [String.toList_append]
        exact hs.append front
      have whole := TemplateText.call joined h rest
      simpa only [String.append_assoc] using whole

theorem append {s t : String} {as bs : List Call} (hs : TemplateText as s)
    (ht : TemplateText bs t) : TemplateText (as ++ bs) (s ++ t) := by
  match hs with
  | .inside h => exact ht.prepend h
  | .next front rest =>
      have whole := TemplateText.next front (rest.append ht)
      simpa only [String.append_assoc] using whole
  | .call front h rest =>
      have whole := TemplateText.call front h (rest.append ht)
      simpa only [String.append_assoc, List.cons_append] using whole

theorem append_inside {s t : String} {as : List Call} {vs : List Char} (hs : TemplateText as s)
    (ht : Inside t.toList vs) : TemplateText as (s ++ t) := by
  simpa using hs.append (.inside ht)

/-- The end of a string and the beginning of another one. -/
theorem separator : TemplateText [] "','" := by
  have whole := TemplateText.next (s := "") (t := "") .nil (.inside .nil)
  simpa using whole

/-- A call between two strings. -/
theorem of_nested {c : Call} {code : String} (h : NestedText c code) :
    TemplateText [c] ("'," ++ code ++ ",'") := by
  have whole := TemplateText.call (s := "") (t := "") .nil h (.inside .nil)
  simpa using whole

end TemplateText

namespace ArgumentsText

theorem escaped (t : String) : ArgumentsText [.text t] ("'" ++ escape t ++ "'") := by
  have h := ArgumentsText.text (inside_escape t)
  rwa [String.ofList_toList] at h

theorem two (s t : String) :
    ArgumentsText [.text s, .text t] ("'" ++ escape s ++ "','" ++ escape t ++ "'") := by
  have whole := ArgumentsText.comma (.escaped s) (.escaped t)
  have pieces : "'" ++ escape s ++ "','" ++ escape t ++ "'"
      = "'" ++ escape s ++ "'" ++ "," ++ ("'" ++ escape t ++ "'") := by
    apply String.toList_injective
    simp
  rw [pieces]
  exact whole

theorem text_template (s : String) {cs : List Call} {t : String} (h : TemplateText cs t) :
    ArgumentsText [.text s, .template cs] ("'" ++ escape s ++ "',['" ++ t ++ "']") := by
  have whole := ArgumentsText.comma (.escaped s) (.template h)
  have pieces : "'" ++ escape s ++ "',['" ++ t ++ "']"
      = "'" ++ escape s ++ "'" ++ "," ++ ("['" ++ t ++ "']") := by
    apply String.toList_injective
    simp
  rw [pieces]
  exact whole

end ArgumentsText

/-- Further arguments, with the comma in front of them. -/
def MoreText (as : List Argument) (t : String) : Prop :=
  ∀ bs b, ArgumentsText bs b → ArgumentsText (bs ++ as) (b ++ t)

theorem MoreText.nil : MoreText [] "" := by
  intro bs b hb
  simpa using hb

theorem MoreText.append {as bs : List Argument} {s t : String} (hs : MoreText as s)
    (ht : MoreText bs t) : MoreText (as ++ bs) (s ++ t) := by
  intro cs c hc
  have whole := ht _ _ (hs cs c hc)
  rwa [List.append_assoc, String.append_assoc] at whole

theorem ArgumentsText.more {as : List Argument} {t : String} (h : ArgumentsText as t) :
    MoreText as ("," ++ t) := by
  intro bs b hb
  rw [← String.append_assoc]
  exact .comma hb h

end PageTemplates.Script
