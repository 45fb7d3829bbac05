import PageTemplates.Text.Blank

/-!
# Texts without the blanks around

* `trim_eq_self`: a text without blanks is left as it is;
* `trim_append_blanks`: blanks at the end do not count;
* `mem_trim_iff`: what is no blank is kept;
* `isEmpty_strip_iff`: nothing is left of a text of blanks, and only of one.
-/

namespace PageTemplates.Text

theorem trim_eq_self {cs : List Char} (h : ∀ c ∈ cs, isBlank c = false) : trim cs = cs := by
  have start : ∀ ds : List Char, (∀ c ∈ ds, isBlank c = false) → ds.dropWhile isBlank = ds := by
    intro ds hd
    cases ds with
    | nil => rfl
    | cons d ds => rw [List.dropWhile_cons, hd d List.mem_cons_self, if_neg Bool.false_ne_true]
  rw [trim, trimEnd, trimStart, start cs h,
    start _ fun c hc => h c (List.mem_reverse.mp hc), List.reverse_reverse]

theorem trimEnd_append_blanks (cs : List Char) {bs : List Char} (h : bs.all isBlank) :
    trimEnd (cs ++ bs) = trimEnd cs := by
  have blank : ∀ b ∈ bs.reverse, isBlank b := by simpa using h
  rw [trimEnd, trimEnd, List.reverse_append, List.dropWhile_append_of_pos blank]

theorem trim_append_blanks {c : Char} {cs bs : List Char} (first : isBlank c = false)
    (h : bs.all isBlank) : trim (c :: cs ++ bs) = trim (c :: cs) := by
  have front (ds : List Char) : trimStart (c :: ds) = c :: ds := by
    rw [trimStart, List.dropWhile_cons, first, if_neg Bool.false_ne_true]
  rw [trim, trim, List.cons_append, front, front, ← List.cons_append, trimEnd_append_blanks _ h]

theorem mem_dropWhile_blanks {c : Char} (h : isBlank c = false) {cs : List Char} :
    c ∈ cs.dropWhile isBlank ↔ c ∈ cs := by
  refine ⟨fun mem => (List.dropWhile_suffix isBlank).mem mem, fun mem => ?_⟩
  rw [← List.takeWhile_append_dropWhile (p := isBlank) (l := cs), List.mem_append] at mem
  refine mem.resolve_left fun front => ?_
  rw [List.all_eq_true.mp List.all_takeWhile c front] at h
  cases h

/-- What is no blank is kept. -/
theorem mem_trim_iff {c : Char} (h : isBlank c = false) {cs : List Char} :
    c ∈ trim cs ↔ c ∈ cs := by
  rw [trim, trimEnd, trimStart, List.mem_reverse, mem_dropWhile_blanks h, List.mem_reverse,
    mem_dropWhile_blanks h]

theorem all_isBlank_of_dropWhile {cs : List Char} (h : cs.dropWhile isBlank = []) :
    cs.all isBlank := by
  have parts := List.takeWhile_append_dropWhile (p := isBlank) (l := cs)
  rw [h, List.append_nil] at parts
  rw [← parts]
  exact List.all_takeWhile

theorem isEmpty_strip_iff {s : String} : (strip s).isEmpty ↔ allBlank s := by
  rw [String.isEmpty_iff, ← String.toList_inj, toList_strip]
  constructor
  · intro none
    have blank := all_isBlank_of_dropWhile (List.reverse_eq_nil_iff.mp none)
    have first := List.head?_dropWhile_not isBlank s.toList
    apply all_isBlank_of_dropWhile
    cases rest : s.toList.dropWhile isBlank with
    | nil => rfl
    | cons c cs =>
        rw [trimStart, rest] at blank
        rw [rest] at first
        simp only [List.all_reverse, List.all_cons, Bool.and_eq_true] at blank
        have filled : isBlank c = false := first
        rw [blank.1] at filled
        cases filled
  · intro blank
    have none : s.toList.dropWhile isBlank = [] := by
      rw [← List.append_nil s.toList, List.dropWhile_append_of_pos (List.all_eq_true.mp blank)]
      rfl
    rw [trim, trimStart, none]
    rfl

end PageTemplates.Text
