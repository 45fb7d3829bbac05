import PageTemplates.Proofs.Script.Undone

/-!
# Text that closes a script

A script in a page ends at the first end tag in its text. Text is put together
from pieces that hold no such end tag and do not complete one with what stands
before or behind them. The main facts:

* `closesScript`: whether the end tag of a script stands in a text;
* `Harmless`: a text that can be put together with others, closed under
  `Harmless.append`;
* `harmless_escape`, `harmless_unmark_escape`, `harmless_endTag`: the pieces that
  literals are made of.
-/

namespace PageTemplates.Script

/-- The characters that end the name in an end tag. -/
def endsName (c : Char) : Bool :=
  c == ' ' || c == '\t' || c == '\n' || c == '\x0c' || c == '\r' || c == '/' || c == '>'

/-- Whether the end tag of a script stands in front, in letters of any case. -/
def closesHere : List Char → Bool
  | '<' :: '/' :: cs =>
      (cs.take 6).map Char.toLower == "script".toList && (cs.drop 6).head?.any endsName
  | _ => false

/-- Whether the end tag of a script stands in a text. -/
def closesScript : List Char → Bool
  | [] => false
  | c :: cs => closesHere (c :: cs) || closesScript cs

/-- A text that neither holds an end tag nor completes one: put in front of
something that does not begin with a slash, it adds none and does not begin with
a slash itself. -/
def Harmless (t : String) : Prop :=
  ∀ rest : List Char, rest.head? ≠ some '/' →
    (t.toList ++ rest).head? ≠ some '/' ∧
      (closesScript (t.toList ++ rest) → closesScript rest)

namespace Harmless

variable {s t : String}

theorem closesScript_eq_false (h : Harmless t) : closesScript t.toList = false := by
  have none := (h [] (by simp)).2
  rw [List.append_nil] at none
  exact Bool.eq_false_iff.mpr fun closes => Bool.false_ne_true (none closes)

theorem empty : Harmless "" := fun _ h => ⟨h, id⟩

theorem append (hs : Harmless s) (ht : Harmless t) : Harmless (s ++ t) := by
  intro rest hr
  obtain ⟨begins, closes⟩ := ht rest hr
  obtain ⟨begins', closes'⟩ := hs (t.toList ++ rest) begins
  rw [String.toList_append, List.append_assoc]
  exact ⟨begins', fun h => closes (closes' h)⟩

theorem join {ts : List String} (h : ∀ t ∈ ts, Harmless t) : Harmless (String.join ts) := by
  induction ts with
  | nil => exact empty
  | cons t ts ih =>
      rw [String.join_cons]
      exact (h t List.mem_cons_self).append (ih fun u hu => h u (List.mem_cons_of_mem _ hu))

end Harmless

/-! ## Pieces -/

/-- An end tag begins with a bracket and a slash. -/
theorem closesHere_begins {cs : List Char} (h : closesHere cs) :
    ∃ rest, cs = '<' :: '/' :: rest := by
  unfold closesHere at h
  split at h
  · exact ⟨_, rfl⟩
  · cases h

theorem closesScript_cons_of_head {c : Char} {cs : List Char} (h : cs.head? ≠ some '/') :
    closesScript (c :: cs) = closesScript cs := by
  have none : closesHere (c :: cs) = false := by
    refine Bool.eq_false_iff.mpr fun here => h ?_
    obtain ⟨rest, hrest⟩ := closesHere_begins here
    rw [(List.cons.inj hrest).2]
    rfl
  rw [closesScript, none, Bool.false_or]

theorem closesScript_cons_of_ne {c : Char} {cs : List Char} (h : c ≠ '<') :
    closesScript (c :: cs) = closesScript cs := by
  have none : closesHere (c :: cs) = false := by
    refine Bool.eq_false_iff.mpr fun here => h ?_
    obtain ⟨rest, hrest⟩ := closesHere_begins here
    exact (List.cons.inj hrest).1
  rw [closesScript, none, Bool.false_or]

theorem Harmless.of_noSlash {t : String} (h : '/' ∉ t.toList) : Harmless t := by
  unfold Harmless
  generalize t.toList = cs at h
  intro rest hr
  induction cs with
  | nil => exact ⟨hr, id⟩
  | cons c cs ih =>
      rw [List.mem_cons, not_or] at h
      obtain ⟨begins, closes⟩ := ih h.2
      rw [List.cons_append, closesScript_cons_of_head begins]
      exact ⟨by simpa using Ne.symm h.1, closes⟩

/-- A harmless text with fixed text around it. -/
theorem Harmless.between {front back t : String} (hf : '/' ∉ front.toList)
    (hb : '/' ∉ back.toList) (h : Harmless t) : Harmless (front ++ t ++ back) :=
  ((Harmless.of_noSlash hf).append h).append (.of_noSlash hb)

/-- Text without a bracket holds no end tag, whatever slashes it has. -/
theorem Harmless.of_noBracket {t : String} (h : '<' ∉ t.toList)
    (begins : t.toList.head? ≠ some '/') : Harmless t := by
  intro rest hr
  refine ⟨?_, ?_⟩
  · cases ht : t.toList with
    | nil => exact hr
    | cons c cs => simpa [ht] using begins
  · clear begins
    generalize t.toList = cs at h
    induction cs with
    | nil => exact id
    | cons c cs ih =>
        rw [List.mem_cons, not_or] at h
        rw [List.cons_append, closesScript_cons_of_ne (Ne.symm h.1)]
        exact ih h.2

/-- Slashes stand behind backslashes in escaped text. -/
theorem harmless_escapeChar (c : Char) : Harmless (String.ofList (escapeChar c)) := by
  have form := escapeForm c
  generalize escapeChar c = cs at form
  have hex : ∀ {x : Char} {n : Nat}, hexValue? x = some n → x ≠ '/' := by
    rintro x n hx rfl
    cases hx
  cases form with
  | @simple x h =>
      intro rest hr
      rw [String.toList_ofList]
      refine ⟨by simp, ?_⟩
      rw [List.cons_append, List.cons_append, List.nil_append,
        closesScript_cons_of_ne (by decide), closesScript_cons_of_head hr]
      exact id
  | code hx hy control =>
      refine .of_noSlash ?_
      simp [Ne.symm (hex hx), Ne.symm (hex hy)]
  | plain h slash =>
      refine .of_noSlash ?_
      simpa using Ne.symm slash

theorem harmless_escape (t : String) : Harmless (escape t) := by
  have pieces : escape t = String.join (t.toList.map fun c => String.ofList (escapeChar c)) := by
    unfold escape
    induction t.toList with
    | nil => rfl
    | cons c cs ih =>
        rw [List.map_cons, String.join_cons, ← ih, List.flatMap_cons, String.ofList_append]
  rw [pieces]
  refine .join fun u hu => ?_
  obtain ⟨c, -, rfl⟩ := List.mem_map.mp hu
  exact harmless_escapeChar c

/-- Undoing references puts no slash in front. -/
theorem harmless_unmark_escape (t : String) : Harmless (unmark (escape t)) := by
  have undone := unmark_escape t.toList
  rw [String.ofList_toList] at undone
  rw [undone]
  exact harmless_escape _

/-- A name whose end tag closes no script. -/
structure IsHarmlessName (name : String) : Prop where
  chars : ∀ c ∈ name.toList, endsName c = false
  other : name.toList.map Char.toLower ≠ "script".toList

theorem closesHere_endTag {name : String} (h : IsHarmlessName name) (rest : List Char) :
    closesHere ('<' :: '/' :: (name.toList ++ '>' :: rest)) = false := by
  refine Bool.eq_false_iff.mpr fun here => ?_
  simp only [closesHere, Bool.and_eq_true, beq_iff_eq] at here
  obtain ⟨word, ending⟩ := here
  -- the name is as long as the word, for its characters do not end it
  rcases Nat.lt_trichotomy name.toList.length 6 with short | same | long
  · have bracket : '>' ∈ ((name.toList ++ '>' :: rest).take 6).map Char.toLower := by
      refine List.mem_map.mpr ⟨'>', ?_, by decide⟩
      rw [List.take_append]
      refine List.mem_append_right _ ?_
      obtain ⟨k, hk⟩ := Nat.exists_eq_add_of_lt short
      rw [show 6 - name.toList.length = k + 1 by omega]
      exact List.mem_cons_self
    rw [word] at bracket
    exact absurd bracket (by decide)
  · rw [List.take_left' same] at word
    exact h.other word
  · have next : ((name.toList ++ '>' :: rest).drop 6).head? = (name.toList.drop 6).head? := by
      rw [List.drop_append_of_le_length (by omega)]
      cases hd : name.toList.drop 6 with
      | nil =>
          have := congrArg List.length hd
          rw [List.length_drop, List.length_nil] at this
          omega
      | cons c cs => rfl
    rw [next] at ending
    obtain ⟨c, hc, hends⟩ := (Option.any_eq_true _ _).mp ending
    rw [h.chars c (List.mem_of_mem_drop (List.mem_of_head? hc))] at hends
    cases hends

theorem harmless_endTag {name : String} (h : IsHarmlessName name) :
    Harmless ("</" ++ name ++ ">") := by
  have noSlash : Harmless (name ++ ">") := by
    refine .of_noSlash ?_
    rw [String.toList_append, List.mem_append, not_or]
    exact ⟨fun hm => absurd (h.chars _ hm) (by decide), by decide⟩
  intro rest hr
  have whole : ("</" ++ name ++ ">").toList ++ rest
      = '<' :: '/' :: (name.toList ++ '>' :: rest) := by simp
  refine ⟨by simp, ?_⟩
  rw [whole, closesScript, closesHere_endTag h, Bool.false_or,
    closesScript_cons_of_ne (by decide)]
  have closes := (noSlash rest hr).2
  rw [String.toList_append, List.append_assoc] at closes
  exact closes

/-- The end tag of a script, cut in two. -/
theorem harmless_cutEndTag : Harmless "</'+'script>" := by
  have noSlash : Harmless "'+'script>" := .of_noSlash (by decide)
  intro rest hr
  refine ⟨by simp, fun h => (noSlash rest hr).2 ?_⟩
  have here : closesHere ("</'+'script>".toList ++ rest) = false := rfl
  have whole : "</'+'script>".toList ++ rest = '<' :: '/' :: ("'+'script>".toList ++ rest) := rfl
  rw [whole] at h here
  rwa [closesScript, here, Bool.false_or, closesScript_cons_of_ne (by decide)] at h

end PageTemplates.Script
