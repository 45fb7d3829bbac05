import PageTemplates.Proofs.Disk.Frame

/-!
# Files that are deleted

A file is deleted through a path that leads to it. A path that leads nowhere
deletes nothing, and neither does one that leads to a folder. The main facts:

* `FilesGone ps d d'`: from `d` to `d'` just the files went away that one of the
  paths `ps` led to;
* `remove_filesGone`, `remove_error_filesGone`: what deleting a file does, and
  that nothing happens if it is refused;
* `SameBut.place_iff`: a path leads to where it led to as long as no folder comes
  or goes.
-/

namespace PageTemplates.Disk

/-- From `d` to `d'` the files that a path in `ps` led to went away, and all else is
as it was. -/
structure FilesGone (ps : List DiskPath) (d d' : Disk) : Prop where
  here : d'.here = d.here
  folders : ∀ ns, d'.item? ns = some .folder ↔ d.item? ns = some .folder
  files : ∀ ns content time, d'.item? ns = some (.file content time) ↔
    d.item? ns = some (.file content time) ∧ ∀ p ∈ ps, d.place p ≠ .ok ns

namespace FilesGone

variable {ps qs : List DiskPath} {d d' d'' : Disk}

/-- Nothing is deleted through paths that lead to no file. -/
theorem refl (h : ∀ p ∈ ps, ∀ ns, d.place p = .ok ns →
    ∀ content time, d.item? ns ≠ some (.file content time)) : FilesGone ps d d :=
  ⟨rfl, fun _ => Iff.rfl, fun ns content time =>
    ⟨fun hf => ⟨hf, fun p hp hplace => h p hp ns hplace content time hf⟩, And.left⟩⟩

theorem sameBut (h : FilesGone ps d d') : SameBut (fun ns => ∃ p ∈ ps, d.place p = .ok ns) d d' := by
  refine ⟨h.here, fun ns => (h.folders ns).mpr, fun ns hns content time => ?_⟩
  refine (h.files ns content time).trans ⟨And.left, fun hf => ⟨hf, fun p hp hplace => ?_⟩⟩
  exact hns ⟨p, hp, hplace⟩

/-- Without the files gone, the way to them is still the same. -/
theorem place_iff (h : FilesGone ps d d') (p : DiskPath) (ns : List String) :
    d'.place p = .ok ns ↔ d.place p = .ok ns := by
  have back : SameBut (fun _ => True) d' d :=
    ⟨h.here.symm, fun ns => (h.folders ns).mp, fun _ hns => absurd trivial hns⟩
  exact ⟨back.place_ok, h.sameBut.place_ok⟩

theorem trans (h : FilesGone ps d d') (h' : FilesGone qs d' d'') : FilesGone (ps ++ qs) d d'' := by
  refine ⟨h'.here.trans h.here, fun ns => (h'.folders ns).trans (h.folders ns),
    fun ns content time => ?_⟩
  rw [h'.files, h.files, and_assoc]
  refine and_congr_right fun _ => ?_
  simp only [List.forall_mem_append, ne_eq, h.place_iff]

end FilesGone

theorem item?_of_file_error {d : Disk} {p : DiskPath} {err : DiskError} (h : d.file p = .error err)
    {ns : List String} (hp : d.place p = .ok ns) (content : Bytes) (time : Nat) :
    d.item? ns ≠ some (.file content time) := by
  intro hf
  rw [file_of_place hp hf] at h
  cases h

theorem file_of_remove_error {d : Disk} {p : DiskPath} {err : DiskError}
    (h : d.remove p = .error err) : d.file p = .error err := by
  unfold remove at h
  cases hf : d.file p with
  | error e =>
      rw [hf] at h
      cases h
      rfl
  | ok r =>
      rw [hf] at h
      cases h

/-- A refusal deletes nothing, for there was nothing to delete. -/
theorem remove_error_filesGone {d : Disk} {p : DiskPath} {err : DiskError}
    (h : d.remove p = .error err) : FilesGone [p] d d := by
  refine .refl ?_
  simp only [List.mem_singleton, forall_eq]
  exact fun ns hp => item?_of_file_error (file_of_remove_error h) hp

theorem remove_filesGone {d d' : Disk} {p : DiskPath} (h : d.remove p = .ok d') :
    FilesGone [p] d d' := by
  unfold remove at h
  cases hf : d.file p with
  | error e => rw [hf] at h; cases h
  | ok r =>
      obtain ⟨names, content, time⟩ := r
      rw [hf] at h
      cases h
      obtain ⟨hplace, rfl, hitem⟩ := standing_of_file hf
      have some : d.item? (d.spot p) = some (.file content time) := hitem
      have root : d.spot p ≠ [] := ne_nil_of_item? (d := d) (by simp [some])
      refine ⟨rfl, fun ns => ?_, fun ns content' time' => ?_⟩
      · rw [item?_drop d root]
        split
        · rename_i here
          simp [here, some]
        · rfl
      · rw [item?_drop d root]
        simp only [List.mem_singleton, forall_eq, hplace, ne_eq, Except.ok.injEq]
        by_cases here : ns = d.spot p
        · simp [here]
        · simp [here, Ne.symm here]

/-- Deleting a file is impossible only for a path with a NUL. -/
theorem hasNul_of_remove {d : Disk} {p : DiskPath} (h : d.remove p = .error .nulInPath) :
    p.hasNul := by
  have refused := file_of_remove_error h
  unfold file at refused
  cases hp : d.place p with
  | error e =>
      rw [hp] at refused
      cases refused
      unfold place at hp
      split at hp
      · assumption
      · split at hp
        · cases hp
        · cases hf : d.follow [] (d.here.join p).names with
          | error e => rw [hf] at hp; cases hp
          | ok ns => rw [hf] at hp; cases hp
  | ok ns =>
      rw [hp] at refused
      simp only [bind, Except.bind] at refused
      split at refused <;> cases refused

end PageTemplates.Disk
