import Mathlib.Logic.Function.Basic
import Mathlib.Tactic.SplitIfs
import PageTemplates.Model.Section

/-!
# Merging sections of model data

A section that is merged into another one comes behind it like a line behind a line: a line
feed divides the two if both hold something. The main facts:

* `Section.isEmpty_iff`, `Section.data_append`: what a section holds, said of its data and not
  of its pieces;
* `data_merge`: the data after a merge, in terms of the data before it;
* `Covers.call`: what a call adds to texts it adds to sections that hold as much or more;
* `merges_like_lines`: merging joins lines, after any calls, unless a section that holds data
  is merged into itself.
-/

namespace PageTemplates.Model

/-! ## One section -/

namespace Section

theorem isEmpty_iff (s : Section) : s.isEmpty ↔ s.data = "" := by
  obtain ⟨parts⟩ := s
  unfold isEmpty data
  induction parts with
  | nil => simp
  | cons p ps ih =>
      rw [List.all_cons, Bool.and_eq_true, ih, String.join_cons, String.append_eq_empty_iff,
        String.isEmpty_iff]

@[simp] theorem data_append (s : Section) (text? : Option String) :
    (s.append text?).data = s.data ++ text?.getD "" := by
  unfold append data
  rw [String.join_append]
  cases text? with
  | none => simp
  | some text => simp [String.join_cons]

@[simp] theorem data_appendLine (s : Section) (text? : Option String) :
    (s.appendLine text?).data = s.data ++ (text?.map (· ++ "\n")).getD "" :=
  s.data_append _

end Section

/-! ## Texts that are joined like lines -/

/-- Two texts with a line feed between them; a text that is empty is left out. -/
def joinLines (a b : String) : String :=
  if a = "" then b else if b = "" then a else a ++ "\n" ++ b

theorem length_joinLines (a b : String) : (joinLines a b).length =
    a.length + b.length + if a.length = 0 ∨ b.length = 0 then 0 else 1 := by
  unfold joinLines
  simp only [String.length_eq_zero_iff]
  by_cases first : a = ""
  · simp [first]
  by_cases second : b = ""
  · simp [first, second]
  have feed : "\n".length = 1 := rfl
  rw [if_neg first, if_neg second, if_neg (by simp [first, second]), String.length_append,
    String.length_append, feed]
  omega

namespace Sections

/-- What is done to named sections. -/
inductive Call where
  | append (name : String) (text? : Option String)
  | appendLine (name : String) (text? : Option String)
  | merge (name other : String)

def call (s : Sections) : Call → Sections
  | .append name text? => s.update name (·.append text?)
  | .appendLine name text? => s.update name (·.appendLine text?)
  | .merge name other => s.merge name other

def after (s : Sections) (calls : List Call) : Sections := calls.foldl call s

def data (s : Sections) (name : String) : String := (s.get name).data

/-- What a call does to texts of the same names, if a merge joins lines. -/
def Call.join (t : String → String) : Call → String → String
  | .append name text? => Function.update t name (t name ++ text?.getD "")
  | .appendLine name text? => Function.update t name (t name ++ (text?.map (· ++ "\n")).getD "")
  | .merge name other => Function.update t name (joinLines (t name) (t other))

/-- A call merges a section that holds data into itself. -/
def Doubles (s : Sections) (c : Call) : Prop :=
  ∃ name, c = .merge name name ∧ s.data name ≠ ""

/-- No call merges a section that holds data into itself. -/
def NeverDoubles (s : Sections) : List Call → Prop
  | [] => True
  | c :: calls => ¬ s.Doubles c ∧ (s.call c).NeverDoubles calls

/-! ## One call -/

theorem get_update (s : Sections) (name n : String) (f : Section → Section) :
    (s.update name f).get n = if n = name then f (s.get name) else s.get n := by
  unfold get update
  rw [List.lookup_cons]
  by_cases same : n = name
  · rw [if_pos same, beq_iff_eq.mpr same]
    rfl
  · rw [if_neg same, beq_eq_false_iff_ne.mpr same]
    dsimp only
    congr 1
    induction s.named with
    | nil => rfl
    | cons e rest ih =>
        rw [List.filter_cons]
        split
        · rw [List.lookup_cons, List.lookup_cons, ih]
        · rename_i dropped
          obtain rfl : e.1 = name := by simpa using dropped
          rw [ih, List.lookup_cons, beq_eq_false_iff_ne.mpr same]

theorem data_update (s : Sections) (name : String) (f : Section → Section) :
    (s.update name f).data = Function.update s.data name (f (s.get name)).data := by
  funext n
  rw [data, get_update, Function.update_apply]
  split_ifs <;> rfl

/-- A merge changes the section that is merged into and no other one. -/
theorem get_merge_ne (s : Sections) {name n : String} (other : String) (h : n ≠ name) :
    (s.merge name other).get n = s.get n := by
  unfold merge
  dsimp only
  rw [get_update, if_neg h]
  split_ifs
  · rfl
  · rw [get_update, if_neg h]

/-- The data of the other section is read behind the line feed, so a section that is merged
into itself is read with it. -/
theorem data_merge (s : Sections) (name other : String) : (s.merge name other).data name =
    if name = other ∧ s.data name ≠ "" then s.data name ++ "\n" ++ (s.data name ++ "\n")
    else joinLines (s.data name) (s.data other) := by
  unfold merge
  simp only [Bool.or_eq_true, Section.isEmpty_iff]
  rw [data_update, Function.update_self, Section.data_append]
  change _ = ite _ _ (joinLines (s.get name).data (s.get other).data)
  unfold joinLines
  -- a line feed is added just if both sections hold data
  by_cases empty : (s.get name).data = "" ∨ (s.get other).data = ""
  · rw [if_pos empty, if_neg]
    · rcases empty with first | second
      · rw [if_pos first, first]
        exact String.empty_append
      · rw [if_pos second, second]
        split
        · rename_i first
          rw [first]
          rfl
        · exact String.append_empty
    · rintro ⟨rfl, filled⟩
      exact filled (or_self_iff.mp empty)
  · rw [if_neg empty]
    rw [not_or] at empty
    rw [if_neg empty.1, if_neg empty.2, get_update, if_pos rfl, get_update, Section.data_append]
    by_cases same : name = other
    · subst same
      rw [if_pos rfl, if_pos ⟨rfl, empty.1⟩]
      simp [data]
    · rw [if_neg (Ne.symm same), if_neg fun both => same both.1]
      simp

/-- A merge joins lines unless it doubles a section. -/
theorem data_merge_iff (s : Sections) (name other : String) :
    (s.merge name other).data name = joinLines (s.data name) (s.data other) ↔
      ¬ (name = other ∧ s.data name ≠ "") := by
  rw [data_merge]
  by_cases doubles : name = other ∧ s.data name ≠ ""
  · rw [if_pos doubles]
    obtain ⟨rfl, filled⟩ := doubles
    refine iff_of_false (fun same => ?_) (not_not_intro ⟨rfl, filled⟩)
    -- there is one line feed more
    have lengths := congrArg String.length same
    have feed : "\n".length = 1 := rfl
    rw [length_joinLines] at lengths
    simp only [String.length_append, feed] at lengths
    split at lengths <;> omega
  · rw [if_neg doubles]
    exact iff_of_true rfl doubles

theorem data_call_append (s : Sections) (name : String) (text? : Option String) :
    (s.call (.append name text?)).data = (Call.append name text?).join s.data := by
  rw [call, data_update, Section.data_append]
  rfl

theorem data_call_appendLine (s : Sections) (name : String) (text? : Option String) :
    (s.call (.appendLine name text?)).data = (Call.appendLine name text?).join s.data := by
  rw [call, data_update, Section.data_appendLine]
  rfl

/-- Calls that double nothing do to the data what joining lines does. -/
theorem data_call_iff (s : Sections) (c : Call) :
    (s.call c).data = c.join s.data ↔ ¬ s.Doubles c := by
  cases c with
  | append name text? =>
      exact iff_of_true (s.data_call_append name text?) fun ⟨_, h, _⟩ => by cases h
  | appendLine name text? =>
      exact iff_of_true (s.data_call_appendLine name text?) fun ⟨_, h, _⟩ => by cases h
  | merge name other =>
      have doubles : s.Doubles (.merge name other) ↔ name = other ∧ s.data name ≠ "" := by
        constructor
        · rintro ⟨n, ⟨⟩, filled⟩
          exact ⟨rfl, filled⟩
        · rintro ⟨rfl, filled⟩
          exact ⟨name, rfl, filled⟩
      -- a merge changes one section only, so the two can differ nowhere else
      rw [doubles, ← data_merge_iff]
      constructor
      · intro same
        have here := congrFun same name
        rwa [Call.join, Function.update_self] at here
      · intro here
        funext n
        rw [call, Call.join, Function.update_apply]
        split_ifs with same
        · rw [same]
          exact here
        · exact congrArg Section.data (s.get_merge_ne other same)

/-! ## Some calls -/

/-- What calls make of texts, if merges join lines. -/
def joined (t : String → String) (calls : List Call) : String → String :=
  calls.foldl (fun t c => c.join t) t

/-- The texts `u` are empty where the texts `t` are, and nowhere shorter. -/
structure Covers (t u : String → String) : Prop where
  empty : ∀ n, (u n).length = 0 ↔ (t n).length = 0
  longer : ∀ n, (t n).length ≤ (u n).length

variable {s : Sections} {t : String → String}

theorem Covers.refl (t : String → String) : Covers t t :=
  ⟨fun _ => Iff.rfl, fun _ => Nat.le_refl _⟩

/-- A call adds at least as much to sections as to texts, so what is longer stays longer. -/
theorem Covers.call (h : Covers t s.data) (c : Call) :
    Covers (c.join t) (s.call c).data ∧
      ∀ n, (t n).length < (s.data n).length →
        (c.join t n).length < ((s.call c).data n).length := by
  have each (n : String) :
      (((s.call c).data n).length = 0 ↔ (c.join t n).length = 0) ∧
        (c.join t n).length ≤ ((s.call c).data n).length ∧
          ((t n).length < (s.data n).length →
            (c.join t n).length < ((s.call c).data n).length) := by
    have empty := h.empty n
    have longer := h.longer n
    cases c with
    | append name text? | appendLine name text? =>
        simp only [data_call_append, data_call_appendLine, Call.join, Function.update_apply]
        split_ifs with same
        · subst same
          rw [String.length_append, String.length_append]
          omega
        · exact ⟨empty, longer, id⟩
    | merge name other =>
        -- a merge is a join, except where a section that is not empty is merged into itself
        by_cases same : n = name
        · subst same
          have feed : "\n".length = 1 := rfl
          have emptyOther := h.empty other
          have longerOther := h.longer other
          rw [Sections.call, data_merge, Call.join, Function.update_self, length_joinLines]
          split
          · rename_i doubles
            obtain ⟨rfl, filled⟩ := doubles
            rw [ne_eq, ← String.length_eq_zero_iff] at filled
            simp only [String.length_append, feed]
            split <;> omega
          · rw [length_joinLines]
            split <;> split <;> omega
        · have kept : (s.merge name other).data n = s.data n :=
            congrArg Section.data (s.get_merge_ne other same)
          rw [Sections.call, kept, Call.join, Function.update_of_ne same]
          exact ⟨empty, longer, id⟩
  exact ⟨⟨fun n => (each n).1, fun n => (each n).2.1⟩, fun n => (each n).2.2⟩

/-- A doubled section ends in a line feed that joining lines does not add. -/
theorem Doubles.longer {c : Call} (h : s.Doubles c) :
    ∃ n, (c.join s.data n).length < ((s.call c).data n).length := by
  obtain ⟨name, rfl, filled⟩ := h
  have feed : "\n".length = 1 := rfl
  refine ⟨name, ?_⟩
  rw [call, data_merge, if_pos ⟨rfl, filled⟩, Call.join, Function.update_self, length_joinLines]
  simp only [String.length_append, feed]
  split <;> omega

/-- A section that is longer than its text is longer after any calls. -/
theorem Covers.after (h : Covers t s.data) (calls : List Call) {n : String}
    (longer : (t n).length < (s.data n).length) :
    (joined t calls n).length < ((s.after calls).data n).length := by
  induction calls generalizing s t with
  | nil => exact longer
  | cons c calls ih =>
      obtain ⟨covers, stays⟩ := h.call c
      exact ih covers (stays n longer)

/-- The line feed that a doubled section has too much is never lost. -/
theorem data_after_iff (s : Sections) (calls : List Call) :
    (s.after calls).data = joined s.data calls ↔ s.NeverDoubles calls := by
  induction calls generalizing s with
  | nil => exact iff_of_true rfl trivial
  | cons c calls ih =>
      change ((s.call c).after calls).data = joined (c.join s.data) calls ↔ _ ∧ _
      by_cases doubles : s.Doubles c
      · refine iff_of_false (fun same => ?_) fun never => never.1 doubles
        obtain ⟨covers, -⟩ := (Covers.refl s.data).call c
        obtain ⟨n, longer⟩ := doubles.longer
        have lengths := covers.after calls longer
        rw [same] at lengths
        exact Nat.lt_irrefl _ lengths
      · have here := (s.data_call_iff c).mpr doubles
        rw [← here, ih (s.call c)]
        exact (and_iff_right doubles).symm

/-- After any calls, a section is empty if, and only if, it has no data; a merge joins lines
unless it merges a section that holds data into itself, and leaves all other sections as they
are. The data are what joining lines makes of them if, and only if, there is no such merge. -/
theorem merges_like_lines (s : Sections) (calls : List Call) :
    (∀ name, ((s.after calls).get name).isEmpty ↔ (s.after calls).data name = "") ∧
      (∀ name other, ((s.after calls).merge name other).data name =
          joinLines ((s.after calls).data name) ((s.after calls).data other) ↔
        ¬ (name = other ∧ (s.after calls).data name ≠ "")) ∧
      (∀ name other n, n ≠ name →
        ((s.after calls).merge name other).get n = (s.after calls).get n) ∧
      ((s.after calls).data = joined s.data calls ↔ s.NeverDoubles calls) :=
  ⟨fun name => ((s.after calls).get name).isEmpty_iff,
    fun name other => (s.after calls).data_merge_iff name other,
    fun _ other _ h => (s.after calls).get_merge_ne other h,
    s.data_after_iff calls⟩

/-- A section that holds data and is merged into itself ends in a line feed. -/
theorem merged_into_itself :
    ((({} : Sections).after [.append "a" (some "x"), .merge "a" "a"]).get "a").data = "x\nx\n" ∧
      joinLines "x" "x" = "x\nx" := by
  decide

end Sections

end PageTemplates.Model
