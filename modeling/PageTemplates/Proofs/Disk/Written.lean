import Mathlib.Data.List.TakeWhile
import PageTemplates.Disk.Names
import PageTemplates.Proofs.Disk.Names

/-!
# Names that are made from names

The names of results are made from the name of a page by cutting it at its last dot, which
may be in the name of a folder. The main facts:

* `IsCut names front m back`: the name that is cut, with those in front of it and behind it;
* `Names.output_text`, `Names.body_text`: what a path of plain names is made into;
* `IsCut.back_eq_nil_iff`: the last name is the one that is cut unless only folders have dots;
* `Names.isPlainName_output`, `Names.isPlainName_body`: plain names are made of plain ones.
-/

namespace PageTemplates

open DiskPath

/-! ## The last occurrence -/

section

variable {α : Type} [DecidableEq α] {c : α} {xs stem ext : List α}

theorem Text.splitLast?_of_notMem (h : c ∉ xs) : Text.splitLast? c xs = none := by
  have whole : xs.reverse.takeWhile (· != c) = xs.reverse :=
    List.takeWhile_eq_self_iff.mpr fun x hx => by
      rw [bne_iff_ne]
      rintro rfl
      exact h (List.mem_reverse.mp hx)
  simp [Text.splitLast?, whole]

theorem Text.splitLast?_append_cons (h : c ∉ ext) :
    Text.splitLast? c (stem ++ c :: ext) = some (stem, ext) := by
  have tail : (stem ++ c :: ext).reverse.takeWhile (· != c) = ext.reverse := by
    have back : ∀ x ∈ ext.reverse, (x != c) = true := fun x hx => by
      rw [bne_iff_ne]
      rintro rfl
      exact h (List.mem_reverse.mp hx)
    rw [List.reverse_append, List.reverse_cons, List.append_assoc,
      List.takeWhile_append_of_pos back]
    simp
  unfold Text.splitLast?
  simp only [tail, List.length_reverse, List.length_append, List.length_cons, List.reverse_reverse]
  rw [if_neg (by omega)]
  have front : stem.length + (ext.length + 1) - ext.length - 1 = stem.length := by omega
  rw [front, List.take_left]

omit [DecidableEq α] in
theorem exists_last_of_mem (h : c ∈ xs) : ∃ stem ext, xs = stem ++ c :: ext ∧ c ∉ ext := by
  obtain ⟨ext, stem, eq, first⟩ := List.eq_append_cons_of_mem (List.mem_reverse.mpr h)
  refine ⟨stem.reverse, ext.reverse, ?_, fun hc => first (List.mem_reverse.mp hc)⟩
  rw [← List.reverse_reverse xs, eq]
  simp

end

/-! ## The name that is cut -/

/-- Of some names, that of the last one with a dot, or else the last one, with the names in
front of it and those behind it. -/
structure IsCut (names front : List String) (m : String) (back : List String) : Prop where
  eq : names = front ++ m :: back
  behind : ∀ b ∈ back, '.' ∉ b.toList
  here : '.' ∈ m.toList ∨ back = [] ∧ '.' ∉ m.toList ∧ ∀ f ∈ front, '.' ∉ f.toList

theorem exists_isCut {names : List String} (filled : names ≠ []) :
    ∃ front m back, IsCut names front m back := by
  induction names with
  | nil => exact absurd rfl filled
  | cons n ns ih =>
      cases ns with
      | nil =>
          refine ⟨[], n, [], rfl, by simp, ?_⟩
          by_cases dot : '.' ∈ n.toList
          · exact .inl dot
          · exact .inr ⟨rfl, dot, by simp⟩
      | cons k ks =>
          obtain ⟨front, m, back, eq, behind, here⟩ := ih (List.cons_ne_nil k ks)
          rcases here with dot | ⟨rfl, noDot, none⟩
          · exact ⟨n :: front, m, back, by rw [eq]; rfl, behind, .inl dot⟩
          · by_cases dot : '.' ∈ n.toList
            · refine ⟨[], n, k :: ks, rfl, ?_, .inl dot⟩
              rw [eq]
              simpa [or_imp, forall_and] using ⟨none, noDot⟩
            · refine ⟨n :: front, m, [], by rw [eq]; rfl, behind, .inr ⟨rfl, noDot, ?_⟩⟩
              exact List.forall_mem_cons.mpr ⟨dot, none⟩

theorem IsCut.back_eq_nil_iff {dirs front back : List String} {n m : String}
    (h : IsCut (dirs ++ [n]) front m back) :
    back = [] ↔ '.' ∈ n.toList ∨ ∀ d ∈ dirs, '.' ∉ d.toList := by
  obtain ⟨eq, behind, here⟩ := h
  rcases back.eq_nil_or_concat with rfl | ⟨back, b, rfl⟩
  · obtain ⟨rfl, last⟩ := List.append_inj' eq rfl
    obtain rfl := List.head_eq_of_cons_eq last
    exact iff_of_true rfl (here.imp_right fun h => h.2.2)
  · -- only the last name is behind the one that is cut, which then has a dot
    rw [List.concat_eq_append] at eq behind here
    rw [← List.cons_append, ← List.append_assoc] at eq
    obtain ⟨rfl, last⟩ := List.append_inj' eq rfl
    obtain rfl := List.head_eq_of_cons_eq last
    have dot : '.' ∈ m.toList := here.resolve_right fun h => by simp at h
    refine iff_of_false (by simp) ?_
    rintro (own | none)
    · exact behind n (by simp) own
    · exact none m (by simp) dot

/-! ## Paths that are made -/

theorem toList_text (front : List String) (m : String) (back : List String) :
    (text { names := front ++ m :: back }).toList
      = (front.flatMap fun f => f.toList ++ ['/']) ++ m.toList
        ++ back.flatMap fun b => '/' :: b.toList := by
  have written (ns : List String) (filled : ns ≠ []) :
      text { names := ns } = "/".intercalate ns := by
    obtain ⟨n, ms, rfl⟩ := List.exists_cons_of_ne_nil filled
    simp [text]
  have behind (n : String) (ns : List String) : ("/".intercalate (n :: ns)).toList
      = n.toList ++ ns.flatMap fun b => '/' :: b.toList := by
    induction ns generalizing n with
    | nil => simp
    | cons k ks ih =>
        rw [String.intercalate_cons_cons, String.toList_append, String.toList_append, ih]
        simp
  rw [written _ (by simp)]
  induction front with
  | nil => simpa using behind m back
  | cons f fs ih =>
      obtain ⟨g, gs, shape⟩ := List.exists_cons_of_ne_nil (l := fs ++ m :: back) (by simp)
      rw [List.cons_append, shape, String.intercalate_cons_cons, ← shape, String.toList_append,
        String.toList_append, ih]
      simp

theorem text_eq_iff {s : String} {front : List String} {m : String} {back : List String} :
    s = text { names := front ++ m :: back } ↔
      s.toList = (front.flatMap fun f => f.toList ++ ['/']) ++ m.toList
        ++ back.flatMap fun b => '/' :: b.toList := by
  rw [← toList_text, String.toList_inj]

namespace IsCut

variable {names front back : List String} {m : String}

/-- The name that is cut is cut where the path is. -/
theorem splitLast?_text (h : IsCut names front m back) :
    Text.splitLast? '.' (text { names }).toList = (Text.splitLast? '.' m.toList).map fun q =>
      ((front.flatMap fun f => f.toList ++ ['/']) ++ q.1,
        q.2 ++ back.flatMap fun b => '/' :: b.toList) := by
  have behind : '.' ∉ back.flatMap fun b => '/' :: b.toList := by
    simpa using fun b hb => h.behind b hb
  rw [h.eq, toList_text]
  rcases h.here with dot | ⟨rfl, noDot, none⟩
  · obtain ⟨stem, ext, cut, last⟩ := exists_last_of_mem dot
    have whole : (front.flatMap fun f => f.toList ++ ['/']) ++ m.toList
        ++ (back.flatMap fun b => '/' :: b.toList)
        = ((front.flatMap fun f => f.toList ++ ['/']) ++ stem)
          ++ '.' :: (ext ++ back.flatMap fun b => '/' :: b.toList) := by
      simp [cut]
    rw [whole, cut, Text.splitLast?_append_cons last, Text.splitLast?_append_cons]
    · rfl
    · rw [List.mem_append, not_or]
      exact ⟨last, behind⟩
  · rw [Text.splitLast?_of_notMem noDot, Text.splitLast?_of_notMem]
    · rfl
    · simpa using ⟨fun f hf => none f hf, noDot⟩

/-- Behind a name without a dot there is no other. -/
theorem eq_of_none (h : IsCut names front m back) (none : Text.splitLast? '.' m.toList = none) :
    names = front ++ [m] ∧ back = [] := by
  rcases h.here with dot | ⟨rfl, -, -⟩
  · obtain ⟨stem, ext, cut, last⟩ := exists_last_of_mem dot
    rw [cut, Text.splitLast?_append_cons last] at none
    cases none
  · exact ⟨h.eq, rfl⟩

/-- The path of a template leads to the page where the name that is cut is changed. -/
theorem output_text (h : IsCut names front m back) :
    Names.output (text { names }) = text { names := front ++ Names.output m :: back } := by
  rw [text_eq_iff, Names.output, h.splitLast?_text, Names.output]
  cases cut : Text.splitLast? '.' m.toList with
  | none =>
      obtain ⟨rfl, rfl⟩ := h.eq_of_none cut
      simp [toList_text]
  | some q => simp

/-- The path of a page leads to its body script where the name that is cut was. -/
theorem body_text (h : IsCut names front m back) :
    Names.body (text { names }) = text { names := front ++ [Names.body m] } := by
  rw [text_eq_iff, Names.body, h.splitLast?_text, Names.body]
  cases cut : Text.splitLast? '.' m.toList with
  | none =>
      obtain ⟨rfl, rfl⟩ := h.eq_of_none cut
      simp [toList_text]
  | some q => simp

end IsCut

/-! ## Names that are made -/

namespace Names

variable {n : String}

theorem body_eq (s : String) :
    ∃ stem, stem <+: s.toList ∧ body s = String.ofList stem ++ "_b.js" := by
  by_cases dot : '.' ∈ s.toList
  · obtain ⟨stem, ext, cut, last⟩ := exists_last_of_mem dot
    exact ⟨stem, ⟨_, cut.symm⟩, by rw [body, cut, Text.splitLast?_append_cons last]⟩
  · refine ⟨s.toList, List.prefix_rfl, ?_⟩
    rw [body, Text.splitLast?_of_notMem dot, String.ofList_toList]

theorem body_ne (s : String) : body s ≠ s := by
  intro same
  by_cases dot : '.' ∈ s.toList
  · obtain ⟨stem, ext, cut, last⟩ := exists_last_of_mem dot
    rw [body, cut, Text.splitLast?_append_cons last, ← String.toList_inj, cut,
      String.toList_append, String.toList_ofList, List.append_cancel_left_eq] at same
    cases same
  · rw [body, Text.splitLast?_of_notMem dot] at same
    exact absurd (congrArg String.length same) (by simp)

theorem output_ne (s : String) : output s ≠ s := by
  intro same
  by_cases dot : '.' ∈ s.toList
  · obtain ⟨stem, ext, cut, last⟩ := exists_last_of_mem dot
    rw [output, cut, Text.splitLast?_append_cons last, ← String.toList_inj, cut] at same
    simp at same
  · rw [output, Text.splitLast?_of_notMem dot] at same
    exact absurd (congrArg String.length same) (by simp)

theorem isPlainName_body (h : IsPlainName n) : IsPlainName (body n) := by
  obtain ⟨stem, front, made⟩ := body_eq n
  rw [made]
  refine ⟨?_, ?_, ?_, ?_⟩
  · rw [String.toList_append, String.toList_ofList, List.mem_append, not_or]
    exact ⟨fun slash => h.noSlash (front.subset slash), by decide⟩
  all_goals exact append_ne_of_length _ (by decide)

theorem isPlainName_output (h : IsPlainName n) : IsPlainName (output n) := by
  have long (s t : String) : 2 ≤ (s ++ ("_t" ++ t)).length := by
    simp only [String.length_append]
    have two : "_t".length = 2 := rfl
    omega
  have plain {s t : String} (left : '/' ∉ s.toList) (right : '/' ∉ t.toList) :
      IsPlainName (s ++ ("_t" ++ t)) := by
    refine ⟨?_, ?_, ?_, ?_⟩
    · rw [String.toList_append, String.toList_append, List.mem_append, List.mem_append]
      rintro (slash | slash | slash)
      exacts [left slash, absurd slash (by decide), right slash]
    · exact fun same => absurd (same ▸ long s t) (by decide)
    · exact fun same => absurd (same ▸ long s t) (by decide)
    · intro same
      -- two dots have no other characters
      have mem : '_' ∈ (s ++ ("_t" ++ t)).toList := by simp
      rw [same] at mem
      exact absurd mem (by decide)
  by_cases dot : '.' ∈ n.toList
  · obtain ⟨stem, ext, cut, last⟩ := exists_last_of_mem dot
    have noSlash := h.noSlash
    rw [cut, List.mem_append, List.mem_cons, not_or, not_or] at noSlash
    rw [output, cut, Text.splitLast?_append_cons last]
    have whole := plain (s := String.ofList stem) (t := "." ++ String.ofList ext)
      (by simpa using noSlash.1) (by simpa using noSlash.2.2)
    have made : String.ofList stem ++ "_t." ++ String.ofList ext
        = String.ofList stem ++ ("_t" ++ ("." ++ String.ofList ext)) := by
      rw [← String.toList_inj]
      simp
    rw [← made] at whole
    exact whole
  · rw [output, Text.splitLast?_of_notMem dot]
    exact plain h.noSlash (t := "") (by simp)

end Names

/-! ## The spots of paths that are made -/

theorem Disk.spot_append (d : Disk) (p : DiskPath) {ns : List String} (noUp : ".." ∉ ns) :
    d.spot { p with names := p.names ++ ns } = d.spot p ++ ns := by
  unfold spot DiskPath.resolve DiskPath.join DiskPath.isAbsolute
  dsimp only
  split
  · rw [climb_append, climb_of_noUp noUp]
  · rw [← List.append_assoc, climb_append, climb_of_noUp noUp]

end PageTemplates
