import PageTemplates.Proofs.Script.Reading

/-!
# What the inside of a string stands for

Text inside a string is read in two ways: by undoing its escapes only, whatever
marks are around it, and by the reader of generated script between two single
quotes. The main facts:

* `Spells`: what characters between two quotes are read as, and `EscapeForm.spells`;
* `unescape?`: the text with its escapes undone;
* `StandsFor.escape`, `StandsFor.append`: escaped text stands for the text in
  both ways, and so do texts put together.
-/

namespace PageTemplates.Script

/-- The text that the inside of a string stands for, whatever its quotes are:
escapes are undone, and any other character stands for itself. -/
def unescape? (t : String) : Option String := (read? '\\' t.toList).map String.ofList

/-- Between quotes `q` the characters `cs` are read as `vs`, whatever follows. -/
def Spells (q : Char) (cs vs : List Char) : Prop :=
  ∀ rest, read? q (cs ++ rest) = (read? q rest).map (vs ++ ·)

namespace Spells

variable {q : Char}

theorem nil : Spells q [] [] := by
  intro rest
  simp

theorem append {cs vs cs' vs' : List Char} (h : Spells q cs vs) (h' : Spells q cs' vs') :
    Spells q (cs ++ cs') (vs ++ vs') := by
  intro rest
  rw [List.append_assoc, h, h', Option.map_map]
  congr 1
  funext ws
  simp

theorem char {c : Char} (h : c ≠ '\\') (other : c ≠ q) : Spells q [c] [c] := by
  intro rest
  rw [List.singleton_append, read?.eq_4]
  · simp [h, other]
  · rintro a b x d cs rfl
    exact absurd rfl h
  · rintro x cs rfl
    exact absurd rfl h

theorem simple {c x : Char} (h : simpleEscape? c = some x) : Spells q ['\\', c] [x] := by
  intro rest
  have hu : c ≠ 'u' := by
    rintro rfl
    cases h
  rw [List.cons_append, List.singleton_append, read?.eq_3]
  · rw [h]
    cases read? q rest <;> rfl
  · rintro a b x d cs hc -
    exact hu hc

theorem code {a b c d : Char} {w x y z : Nat} (ha : hexValue? a = some w)
    (hb : hexValue? b = some x) (hc : hexValue? c = some y) (hd : hexValue? d = some z) :
    Spells q ['\\', 'u', a, b, c, d] [Char.ofNat ((w * 16 + x) * 256 + (y * 16 + z))] := by
  intro rest
  simp only [List.cons_append, List.nil_append, read?, ha, hb, hc, hd]
  cases read? q rest <;> rfl

end Spells

/-- An escaped character is read as the character, unless it is the quote itself as it stands. -/
theorem EscapeForm.spells {q c : Char} {cs : List Char} (form : EscapeForm c cs)
    (other : cs = [c] → c ≠ q) : Spells q cs [c] := by
  cases form with
  | simple h => exact .simple h
  | code hx hy control =>
      have coded := Spells.code (q := q) (a := '0') (b := '0') (w := 0) (x := 0) rfl rfl hx hy
      have hn : (0 * 16 + 0) * 256 + (c.toNat / 16 * 16 + c.toNat % 16) = c.toNat := by omega
      rwa [hn, Char.ofNat_toNat] at coded
  | plain h _ =>
      simp only [isPlain, Bool.and_eq_true, bne_iff_ne] at h
      exact .char h.1.1.2 (other rfl)

/-- Undoing the escapes in `cs` gives `vs`, whatever follows. -/
def Unescapes (cs vs : List Char) : Prop :=
  ∀ rest, read? '\\' (cs ++ rest) = (read? '\\' rest).map (vs ++ ·)

namespace Unescapes

theorem nil : Unescapes [] [] := Spells.nil

theorem append {cs vs cs' vs' : List Char} (h : Unescapes cs vs) (h' : Unescapes cs' vs') :
    Unescapes (cs ++ cs') (vs ++ vs') := Spells.append h h'

theorem of_noBackslash {cs : List Char} (h : '\\' ∉ cs) : Unescapes cs cs := by
  induction cs with
  | nil => exact nil
  | cons c cs ih =>
      rw [List.mem_cons, not_or] at h
      have hc : Unescapes [c] [c] := Spells.char (Ne.symm h.1) (Ne.symm h.1)
      exact hc.append (ih h.2)

end Unescapes

theorem unescapes_escapeChar (c : Char) : Unescapes (escapeChar c) [c] := by
  refine (escapeForm c).spells ?_
  rintro same rfl
  revert same
  decide

/-- Undoing the escapes of `t` gives `s`, and, if what `t` holds is `plain`, `t`
also stands for `s` between two single quotes. -/
structure StandsFor (plain : Prop) (t s : String) : Prop where
  unescapes : Unescapes t.toList s.toList
  inside : plain → Inside t.toList s.toList

namespace StandsFor

variable {plain : Prop} {s t s' t' : String}

theorem empty : StandsFor plain "" "" := ⟨.nil, fun _ => .nil⟩

theorem append (h : StandsFor plain t s) (h' : StandsFor plain t' s') :
    StandsFor plain (t ++ t') (s ++ s') := by
  refine ⟨?_, fun hp => ?_⟩
  · rw [String.toList_append, String.toList_append]
    exact h.unescapes.append h'.unescapes
  · rw [String.toList_append, String.toList_append]
    exact (h.inside hp).append (h'.inside hp)

/-- Escaped text stands for the text. -/
theorem escape (s : String) : StandsFor plain (Script.escape s) s := by
  refine ⟨?_, fun _ => inside_escape s⟩
  rw [Script.escape, String.toList_ofList]
  induction s.toList with
  | nil => exact .nil
  | cons c cs ih => exact (unescapes_escapeChar c).append ih

/-- Text that is not escaped stands for itself. -/
theorem self (h : '\\' ∉ s.toList) (hp : plain → s.toList.all isPlain) :
    StandsFor plain s s :=
  ⟨.of_noBackslash h, fun h => .of_plain (hp h)⟩

theorem unescape?_eq (h : StandsFor plain t s) : unescape? t = some s := by
  have whole := h.unescapes []
  rw [List.append_nil] at whole
  rw [unescape?, whole]
  simp [read?]

end StandsFor

/-- Text between two single quotes is read as the text it stands for. -/
theorem Inside.readExpr? {t s : String} (h : Inside t.toList s.toList) :
    readExpr? ("'" ++ t ++ "'") = some (.text s) := by
  have read := read_quoted h [] [] false
  rw [Script.readExpr?, read, String.ofList_toList]
  rfl

end PageTemplates.Script
