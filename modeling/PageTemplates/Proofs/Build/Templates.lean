import Mathlib.Data.List.Nodup
import PageTemplates.Build.Folder
import PageTemplates.Proofs.Disk.Names

/-!
# The names of templates and of what is built from them

A template is known by an id, and its page and its body script are written under
names made from its own. The main facts:

* `IsTemplate`: the names that lead to a template, taken apart;
* `idOf_injective`: different templates have different ids;
* `eq_of_mem_targets`, `manifest_notMem_targets`: what is written for one template
  is not written for another one, and the manifest is written for none.
-/

namespace PageTemplates.Build

open DiskPath

/-- The id of the template that names lead to. -/
def idOf (names : List String) : String :=
  "/" ++ (withoutExtension { names }).text

/-- The names that lead to the body script of a template. -/
def bodyOf (names : List String) : List String :=
  (withName { names } (stem { names } ++ "_b.js")).names

/-- The files that a template is compiled into, by their names from the output
folder. -/
def Job.targets (j : Job) (names : List String) : List (List String) :=
  names :: if j.cacheable then [bodyOf names] else []

/-- Names that lead to a template: the last one ends in `.html`, none begins with a
dot, and each can be the name of a file. -/
structure IsTemplate (names : List String) : Prop where
  path : isTemplatePath names
  plain : ∀ n ∈ names, IsPlainName n

/-- The part of the name of a template that other names are made from. -/
structure IsStem (base : String) : Prop where
  noSlash : '/' ∉ base.toList
  notEmpty : base ≠ ""
  notHidden : base.toList.head? ≠ some '.'

theorem IsStem.plain_append {base : String} (h : IsStem base) {ending : String}
    (noSlash : '/' ∉ ending.toList) : IsPlainName (base ++ ending) := by
  obtain ⟨c, cs, shape⟩ := List.exists_cons_of_ne_nil
    (show base.toList ≠ [] by simpa using h.notEmpty)
  have visible : c ≠ '.' := by
    have first := h.notHidden
    rw [shape] at first
    simpa using first
  have different {dots : String} (dotted : dots.toList = [] ∨ ∃ ds, dots.toList = '.' :: ds) :
      base ++ ending ≠ dots := by
    intro same
    have written := congrArg String.toList same
    rw [String.toList_append, shape, List.cons_append] at written
    rcases dotted with none | ⟨ds, dot⟩
    · rw [none] at written
      cases written
    · rw [dot] at written
      exact visible (List.cons.inj written).1
  refine ⟨?_, different (.inl rfl), different (.inr ⟨[], rfl⟩), different (.inr ⟨['.'], rfl⟩)⟩
  rw [String.toList_append, List.mem_append, not_or]
  exact ⟨h.noSlash, noSlash⟩

theorem IsStem.plain {base : String} (h : IsStem base) : IsPlainName base := by
  have plain : IsPlainName (base ++ "") := h.plain_append (by simp)
  rwa [String.append_empty] at plain

/-- A name without its extension. -/
theorem stem_append (folder : List String) {base : String} (filled : base ≠ "") (ext : List Char)
    (extended : ext ≠ []) (noDot : '.' ∉ ext) :
    stem { names := folder ++ [base ++ String.ofList ('.' :: ext)] } = base := by
  have last : (name { names := folder ++ [base ++ String.ofList ('.' :: ext)] }).toList
      = base.toList ++ '.' :: ext := by
    simp [name]
  have found : (base.toList ++ '.' :: ext).reverse.takeWhile (· != '.') = ext.reverse := by
    rw [List.reverse_append, List.reverse_cons, List.append_assoc, List.takeWhile_append_of_pos]
    · simp
    · intro c hc
      rw [bne_iff_ne]
      rintro rfl
      exact noDot (List.mem_reverse.mp hc)
  have front : (base.toList ++ '.' :: ext).take
      ((base.toList ++ '.' :: ext).length - ext.reverse.length - 1) = base.toList := by
    rw [List.length_append, List.length_cons, List.length_reverse]
    rw [show base.toList.length + (ext.length + 1) - ext.length - 1 = base.toList.length by omega]
    exact List.take_left
  unfold stem
  rw [last]
  simp only [found, front]
  rw [if_neg (by simpa using ⟨extended, filled⟩), String.ofList_toList]

namespace IsTemplate

variable {names names' : List String}

/-- The names of a template taken apart. -/
theorem exists_stem (h : IsTemplate names) :
    ∃ folder base, names = folder ++ [base ++ ".html"] ∧ IsStem base ∧
      ∀ n ∈ folder, IsPlainName n := by
  have path := h.path
  rw [isTemplatePath, Bool.and_eq_true, List.isSuffixOf_iff_suffix, List.all_eq_true] at path
  obtain ⟨⟨cs, ending⟩, visible⟩ := path
  rcases List.eq_nil_or_concat names with rfl | ⟨folder, last, rfl⟩
  · simp at ending
  · rw [List.concat_eq_append] at *
    rw [List.getLast?_concat, Option.getD_some] at ending
    have here : last ∈ folder ++ [last] := by simp
    have named : last = String.ofList cs ++ ".html" := by
      rw [← String.toList_inj, String.toList_append, String.toList_ofList, ending]
    -- a name that is the extension alone begins with a dot, and is no template
    have shown := visible last here
    rw [← ending, bne_iff_ne] at shown
    refine ⟨folder, String.ofList cs, by rw [named], ⟨?_, ?_, ?_⟩, fun n hn => ?_⟩
    · rw [String.toList_ofList]
      intro slash
      refine (h.plain last here).noSlash ?_
      rw [← ending]
      exact List.mem_append_left _ slash
    · rintro none
      have empty : cs = [] := by simpa using none
      rw [empty] at shown
      exact shown rfl
    · rw [String.toList_ofList]
      cases cs with
      | nil => exact absurd rfl shown
      | cons c cs => exact shown
    · exact h.plain n (List.mem_append_left _ hn)

theorem noUp (h : isTemplatePath names) : ".." ∉ names := by
  rw [isTemplatePath, Bool.and_eq_true, List.all_eq_true] at h
  intro up
  have visible := h.2 _ up
  exact absurd visible (by decide)

end IsTemplate

/-- The names made from those of a template. -/
theorem made_eq {folder : List String} {base : String} (stem : IsStem base) :
    withoutExtension { names := folder ++ [base ++ ".html"] } = { names := folder ++ [base] } ∧
      bodyOf (folder ++ [base ++ ".html"]) = folder ++ [base ++ "_b.js"] := by
  have found : DiskPath.stem { names := folder ++ [base ++ ".html"] } = base :=
    stem_append folder stem.notEmpty "html".toList (by decide) (by decide)
  unfold withoutExtension bodyOf withName
  rw [found]
  simp

theorem mem_targets {folder : List String} {base : String} (stem : IsStem base) {j : Job}
    {target : List String} (h : target ∈ j.targets (folder ++ [base ++ ".html"])) :
    target = folder ++ [base ++ ".html"] ∨ target = folder ++ [base ++ "_b.js"] := by
  rw [Job.targets, (made_eq stem).2] at h
  rcases List.mem_cons.mp h with page | body
  · exact .inl page
  · split at body
    · exact .inr (List.mem_singleton.mp body)
    · cases body

theorem last_eq {folder folder' : List String} {n n' : String}
    (same : folder ++ [n] = folder' ++ [n']) : n = n' :=
  (List.cons.inj (List.append_inj' same rfl).2).1

theorem html_ne_js (base base' : String) : base ++ ".html" ≠ base' ++ "_b.js" := by
  intro same
  have last := congrArg (·.toList.getLast?) same
  simp at last

namespace IsTemplate

variable {names names' : List String}

/-- Different templates have different ids. -/
theorem idOf_injective (h : IsTemplate names) (h' : IsTemplate names')
    (same : idOf names = idOf names') : names = names' := by
  obtain ⟨folder, base, rfl, stem, plain⟩ := h.exists_stem
  obtain ⟨folder', base', rfl, stem', plain'⟩ := h'.exists_stem
  unfold idOf at same
  rw [(made_eq stem).1, (made_eq stem').1, String.append_right_inj] at same
  have found : folder ++ [base] = folder' ++ [base'] := by
    refine text_injective (by simp) (by simp) ?_ ?_ same
    · simpa [or_imp, forall_and] using ⟨plain, stem.plain⟩
    · simpa [or_imp, forall_and] using ⟨plain', stem'.plain⟩
  rw [(List.append_inj' found rfl).1, last_eq found]

/-- What is written for a template leads to files. -/
theorem targets_plain (h : IsTemplate names) {j : Job} {target : List String}
    (ht : target ∈ j.targets names) : target ≠ [] ∧ ∀ n ∈ target, IsPlainName n := by
  obtain ⟨folder, base, rfl, stem, plain⟩ := h.exists_stem
  rcases mem_targets stem ht with rfl | rfl
  · exact ⟨by simp, by
      simpa [or_imp, forall_and] using ⟨plain, stem.plain_append (by decide)⟩⟩
  · exact ⟨by simp, by
      simpa [or_imp, forall_and] using ⟨plain, stem.plain_append (by decide)⟩⟩

/-- Nothing is written for two templates. -/
theorem eq_of_mem_targets (h : IsTemplate names) (h' : IsTemplate names') {j : Job}
    {target : List String} (ht : target ∈ j.targets names) (ht' : target ∈ j.targets names') :
    names = names' := by
  obtain ⟨folder, base, rfl, stem, -⟩ := h.exists_stem
  obtain ⟨folder', base', rfl, stem', -⟩ := h'.exists_stem
  rcases mem_targets stem ht with rfl | rfl <;> rcases mem_targets stem' ht' with same | same
  · exact same
  · exact absurd (last_eq same) (html_ne_js _ _)
  · exact absurd (last_eq same).symm (html_ne_js _ _)
  · have base_eq := last_eq same
    rw [String.append_left_inj] at base_eq
    rw [(List.append_inj' same rfl).1, base_eq]

/-- The page and the body script of a template are two files. -/
theorem targets_nodup (h : IsTemplate names) (j : Job) : (j.targets names).Nodup := by
  obtain ⟨folder, base, rfl, stem, -⟩ := h.exists_stem
  rw [Job.targets, (made_eq stem).2]
  split
  · rw [List.nodup_cons, List.mem_singleton]
    exact ⟨fun same => html_ne_js _ _ (last_eq same), List.nodup_singleton _⟩
  · exact List.nodup_singleton _

/-- The manifest is not written for a template. -/
theorem manifest_notMem_targets (h : IsTemplate names) (j : Job) :
    ["manifest.json"] ∉ j.targets names := by
  obtain ⟨folder, base, rfl, stem, -⟩ := h.exists_stem
  intro ht
  have found : [] ++ ["manifest.json"] = folder ++ [base ++ ".html"] ∨
      [] ++ ["manifest.json"] = folder ++ [base ++ "_b.js"] := mem_targets stem ht
  rcases found with same | same
  · have last := congrArg (·.toList.getLast?) (last_eq same)
    simp at last
  · have last := congrArg (·.toList.getLast?) (last_eq same)
    simp at last

end IsTemplate

end PageTemplates.Build
