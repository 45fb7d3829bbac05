import PageTemplates.Disk.Store

/-!
# What file operations leave alone

A path that leads somewhere leads to its *spot*, the names that are left when
`..` is followed; the files decide only whether the spot can be reached. So an
operation is described by the spots it may write to:

* `SameBut s d d'`: from `d` to `d'` no folder goes away, and files come, go
  and change only at spots in `s`;
* every operation of `Disk` that the library uses is `SameBut` the spot of its
  path, and making folders is `SameBut` nothing;
* `SameBut.file_eq`: a file that could be read can still be read, unless its
  own spot was written to.
-/

namespace PageTemplates

namespace DiskPath

theorem climb_append (done ns ms : List String) :
    climb done (ns ++ ms) = climb (climb done ns) ms := by
  induction ns generalizing done with
  | nil => rfl
  | cons n ns ih =>
      simp only [List.cons_append, climb]
      split <;> exact ih _

/-- A name that a path can end with: it stays as it is when the path is read
and when `..` is followed. -/
structure IsPlainName (n : String) : Prop where
  noSlash : '/' ∉ n.toList
  notEmpty : n ≠ ""
  notDot : n ≠ "."
  notUp : n ≠ ".."

theorem pieces_of_noSlash {cs : List Char} (h : '/' ∉ cs) : pieces cs = [cs] := by
  unfold pieces
  induction cs with
  | nil => rfl
  | cons c cs ih =>
      rw [List.mem_cons, not_or] at h
      have hc : (c == '/') = false := by simpa using fun e => h.1 e.symm
      simp [Text.splitAtEach, hc, ih h.2]

theorem ofText_of_plain {n : String} (h : IsPlainName n) : ofText n = { names := [n] } := by
  have hroot : ∀ cs, n.toList ≠ '/' :: cs := by
    intro cs e
    exact h.noSlash (e ▸ List.mem_cons_self)
  unfold ofText
  rw [pieces_of_noSlash h.noSlash]
  split
  · rename_i e; exact absurd e (hroot _)
  · rename_i e; exact absurd e (hroot _)
  · rename_i e; exact absurd e (hroot _)
  · simp [h.notEmpty, h.notDot]

theorem joinText_of_plain (p : DiskPath) {n : String} (h : IsPlainName n) :
    p.joinText n = { p with names := p.names ++ [n] } := by
  simp [joinText, join, isAbsolute, ofText_of_plain h]

theorem joinText_injective (p : DiskPath) {n m : String} (hn : IsPlainName n)
    (hm : IsPlainName m) (h : p.joinText n = p.joinText m) : n = m := by
  rw [joinText_of_plain p hn, joinText_of_plain p hm] at h
  simpa using congrArg DiskPath.names h

theorem parent_joinText (p : DiskPath) {n : String} (h : IsPlainName n) :
    (p.joinText n).parent = p := by
  simp [joinText_of_plain p h, parent]

end DiskPath

namespace Disk

/-! ## Spots -/

/-- The only place that a path can lead to. -/
def spot (d : Disk) (p : DiskPath) : List String := (d.here.resolve p).names

theorem spot_joinText (d : Disk) (p : DiskPath) {n : String} (h : DiskPath.IsPlainName n) :
    d.spot (p.joinText n) = d.spot p ++ [n] := by
  have hup : (n == "..") = false := by simpa using h.notUp
  rw [DiskPath.joinText_of_plain p h]
  unfold spot DiskPath.resolve DiskPath.join DiskPath.isAbsolute
  dsimp only
  split
  · simp [DiskPath.climb_append, DiskPath.climb, hup]
  · simp [← List.append_assoc, DiskPath.climb_append, DiskPath.climb, hup]

theorem follow_eq_climb {d : Disk} {start ns r : List String} (h : d.follow start ns = .ok r) :
    r = DiskPath.climb start ns := by
  induction ns generalizing start with
  | nil => simpa [follow, DiskPath.climb] using h.symm
  | cons n ns ih =>
      simp only [follow] at h
      split at h
      · cases h
      · cases h
      · split at h
        · cases h
        · rw [ih h, DiskPath.climb]
          split <;> rfl

theorem place_eq_spot {d : Disk} {p : DiskPath} {names : List String}
    (h : d.place p = .ok names) : names = d.spot p := by
  unfold place at h
  split at h
  · cases h
  · split at h
    · cases h
    · cases hf : d.follow [] (d.here.join p).names with
      | error e => rw [hf] at h; cases h
      | ok r =>
          rw [hf] at h
          cases h
          exact follow_eq_climb hf

/-- What stands at the spot of a path, whether it can be reached or not. -/
def standing (d : Disk) (p : DiskPath) : Option Item := d.item? (d.spot p)

private theorem lookup_filter_ne (items : List (List String × Item)) (names ns : List String) :
    (items.filter (·.1 != names)).lookup ns
      = if ns = names then none else items.lookup ns := by
  induction items with
  | nil => simp
  | cons x xs ih =>
      by_cases hx : x.1 = names <;> by_cases hn : ns = x.1 <;> grind

theorem item?_drop (d : Disk) {names : List String} (h : names ≠ []) (ns : List String) :
    (d.drop names).item? ns = if ns = names then none else d.item? ns := by
  cases ns with
  | nil => simp [item?, h.symm]
  | cons n ns => simpa [item?, drop] using lookup_filter_ne d.items names (n :: ns)

theorem item?_put (d : Disk) {names : List String} (i : Item) (h : names ≠ [])
    (ns : List String) :
    (d.put names i).item? ns = if ns = names then some i else d.item? ns := by
  cases ns with
  | nil => simp [item?, h.symm]
  | cons n ns =>
      simp only [item?, put, List.isEmpty_cons, Bool.false_eq_true, if_false,
        List.lookup_append, lookup_filter_ne]
      by_cases hn : n :: ns = names
      · simp [hn]
      · simp [hn, List.lookup_cons, beq_false_of_ne hn]

theorem item?_nil (d : Disk) : d.item? [] = some .folder := rfl

/-- A spot with no folder is not the root. -/
theorem ne_nil_of_item? {d : Disk} {names : List String} (h : d.item? names ≠ some .folder) :
    names ≠ [] := by
  rintro rfl
  exact h d.item?_nil

/-! ## Changes that leave most spots alone -/

/-- From `d` to `d'` no folder goes away, and files come, go and change only at
spots in `s`. -/
structure SameBut (s : List String → Prop) (d d' : Disk) : Prop where
  here : d'.here = d.here
  folders : ∀ ns, d.item? ns = some .folder → d'.item? ns = some .folder
  files : ∀ ns, ¬ s ns → ∀ content time,
    d'.item? ns = some (.file content time) ↔ d.item? ns = some (.file content time)

namespace SameBut

variable {s t : List String → Prop} {d d' d'' : Disk}

theorem refl (s : List String → Prop) (d : Disk) : SameBut s d d :=
  ⟨rfl, fun _ h => h, fun _ _ _ _ => Iff.rfl⟩

theorem trans (h : SameBut s d d') (h' : SameBut s d' d'') : SameBut s d d'' :=
  ⟨h'.here.trans h.here, fun ns hf => h'.folders ns (h.folders ns hf),
    fun ns hs content time => (h'.files ns hs content time).trans (h.files ns hs content time)⟩

theorem mono (h : SameBut s d d') (sub : ∀ ns, s ns → t ns) : SameBut t d d' :=
  ⟨h.here, h.folders, fun ns ht => h.files ns fun hs => ht (sub ns hs)⟩

theorem spot_eq (h : SameBut s d d') (p : DiskPath) : d'.spot p = d.spot p := by
  unfold spot
  rw [h.here]

theorem standing_iff (h : SameBut s d d') {p : DiskPath} (hs : ¬ s (d.spot p))
    (content : Bytes) (time : Nat) :
    d'.standing p = some (.file content time) ↔ d.standing p = some (.file content time) := by
  unfold standing
  rw [h.spot_eq]
  exact h.files _ hs content time

theorem follow_ok (h : SameBut s d d') {start ns r : List String}
    (hf : d.follow start ns = .ok r) : d'.follow start ns = .ok r := by
  induction ns generalizing start with
  | nil => exact hf
  | cons n ns ih =>
      simp only [follow] at hf ⊢
      split at hf
      · cases hf
      · cases hf
      · rename_i hfolder
        rw [h.folders start hfolder]
        dsimp only
        split at hf
        · cases hf
        · rename_i hshort
          rw [if_neg hshort]
          exact ih hf

theorem place_ok (h : SameBut s d d') {p : DiskPath} {names : List String}
    (hp : d.place p = .ok names) : d'.place p = .ok names := by
  unfold place at hp ⊢
  rw [h.here]
  split at hp
  · cases hp
  · rename_i hnul
    rw [if_neg hnul]
    split at hp
    · cases hp
    · rename_i hlong
      rw [if_neg hlong]
      cases hf : d.follow [] (d.here.join p).names with
      | error e => rw [hf] at hp; cases hp
      | ok r =>
          rw [hf] at hp
          rw [h.follow_ok hf]
          exact hp

end SameBut

/-- A file that can be read stands at its spot. -/
theorem standing_of_file {d : Disk} {p : DiskPath} {names : List String} {content : Bytes}
    {time : Nat} (h : d.file p = .ok (names, content, time)) :
    d.place p = .ok names ∧ names = d.spot p ∧ d.standing p = some (.file content time) := by
  unfold file at h
  cases hp : d.place p with
  | error e => rw [hp] at h; cases h
  | ok ns =>
      rw [hp] at h
      simp only [bind, Except.bind] at h
      split at h
      · cases h
      · cases h
      · rename_i hi
        cases h
        refine ⟨rfl, place_eq_spot hp, ?_⟩
        rw [standing, ← place_eq_spot hp]
        exact hi

theorem file_of_place {d : Disk} {p : DiskPath} {names : List String} {content : Bytes}
    {time : Nat} (hp : d.place p = .ok names) (hi : d.item? names = some (.file content time)) :
    d.file p = .ok (names, content, time) := by
  simp [file, hp, bind, Except.bind, hi]

theorem SameBut.file_eq {s : List String → Prop} {d d' : Disk} (h : SameBut s d d')
    {p : DiskPath} (hs : ¬ s (d.spot p)) {names : List String} {content : Bytes} {time : Nat}
    (hf : d.file p = .ok (names, content, time)) : d'.file p = .ok (names, content, time) := by
  obtain ⟨hp, hn, hi⟩ := standing_of_file hf
  refine file_of_place (h.place_ok hp) ?_
  rw [hn]
  exact (h.files _ hs content time).mpr hi

/-! ## The operations -/

theorem read_ok_iff {d : Disk} {p : DiskPath} {content : Bytes} :
    d.read p = .ok content ↔ ∃ names time, d.file p = .ok (names, content, time) := by
  unfold read
  cases hf : d.file p with
  | error e => simp [bind, Except.bind]
  | ok r =>
      obtain ⟨names, c, time⟩ := r
      simp [bind, Except.bind, pure, Except.pure]

theorem modified_of_file {d : Disk} {p : DiskPath} {names : List String} {content : Bytes}
    {time : Nat} (h : d.file p = .ok (names, content, time)) : d.modified p = .ok time := by
  simp [modified, h]

theorem sameBut_put_file (d : Disk) {names : List String} (h : d.item? names ≠ some .folder)
    (content : Bytes) (time : Nat) :
    SameBut (· = names) d (d.put names (.file content time)) := by
  have hn := ne_nil_of_item? h
  refine ⟨rfl, fun ns hf => ?_, fun ns hs _ _ => ?_⟩
  · rw [item?_put d _ hn, if_neg (by rintro rfl; exact h hf)]
    exact hf
  · rw [item?_put d _ hn, if_neg hs]

theorem sameBut_put_folder (d : Disk) {names : List String} (h : d.item? names = none) :
    SameBut (fun _ => False) d (d.put names .folder) := by
  have hn : names ≠ [] := ne_nil_of_item? (d := d) (by simp [h])
  refine ⟨rfl, fun ns hf => ?_, fun ns _ content time => ?_⟩
  · rw [item?_put d _ hn]
    split
    · rfl
    · exact hf
  · rw [item?_put d _ hn]
    split
    · rename_i e
      simp [e, h]
    · rfl

theorem sameBut_drop (d : Disk) {names : List String} {content : Bytes} {time : Nat}
    (h : d.item? names = some (.file content time)) : SameBut (· = names) d (d.drop names) := by
  have hf : d.item? names ≠ some .folder := by simp [h]
  have hn := ne_nil_of_item? hf
  refine ⟨rfl, fun ns hns => ?_, fun ns hs _ _ => ?_⟩
  · rw [item?_drop d hn, if_neg (by rintro rfl; exact hf hns)]
    exact hns
  · rw [item?_drop d hn, if_neg hs]

theorem writeAt_ok {d d' : Disk} {p : DiskPath} {content : Bytes} {time : Nat}
    (h : d.writeAt p content time = .ok d') :
    SameBut (· = d.spot p) d d' ∧ d'.standing p = some (.file content time) := by
  unfold writeAt at h
  cases hp : d.place p with
  | error e => rw [hp] at h; cases h
  | ok names =>
      rw [hp] at h
      simp only [bind, Except.bind] at h
      split at h
      · cases h
      · rename_i hfolder
        cases h
        have hn := ne_nil_of_item? hfolder
        have hs := place_eq_spot hp
        refine ⟨hs ▸ sameBut_put_file d hfolder content time, ?_⟩
        change (d.put names _).item? (d.spot p) = _
        rw [item?_put d _ hn, if_pos hs.symm]

/-- A file that can be read can be written. -/
theorem writeAt_of_file {d : Disk} {p : DiskPath} {names : List String} {content : Bytes}
    {time : Nat} (h : d.file p = .ok (names, content, time)) (content' : Bytes) (time' : Nat) :
    d.writeAt p content' time' = .ok (d.put names (.file content' time')) := by
  obtain ⟨hplace, hnames, hstands⟩ := standing_of_file h
  rw [standing, ← hnames] at hstands
  simp only [writeAt, hplace, bind, Except.bind, hstands]

/-- A file that was overwritten is read as it was written. -/
theorem file_put {d : Disk} {p : DiskPath} {names : List String} {content : Bytes} {time : Nat}
    (h : d.file p = .ok (names, content, time)) (content' : Bytes) (time' : Nat) :
    (d.put names (.file content' time')).file p = .ok (names, content', time') := by
  obtain ⟨same, stands⟩ := writeAt_ok (writeAt_of_file h content' time')
  obtain ⟨hp, hn, -⟩ := standing_of_file h
  rw [standing, same.spot_eq, ← hn] at stands
  exact file_of_place (same.place_ok hp) stands

theorem write_ok {d d' : Disk} {p : DiskPath} {content : Bytes} (h : d.write p content = .ok d') :
    SameBut (· = d.spot p) d d' ∧ d'.standing p = some (.file content d.now) :=
  writeAt_ok h

theorem remove_ok {d d' : Disk} {p : DiskPath} (h : d.remove p = .ok d') :
    SameBut (· = d.spot p) d d' ∧ d'.standing p = none := by
  unfold remove at h
  cases hf : d.file p with
  | error e => rw [hf] at h; cases h
  | ok r =>
      obtain ⟨names, content, time⟩ := r
      rw [hf] at h
      cases h
      obtain ⟨-, hn, hi⟩ := standing_of_file hf
      subst hn
      have hfile : d.item? (d.spot p) = some (.file content time) := hi
      refine ⟨sameBut_drop d hi, ?_⟩
      change (d.drop _).item? (d.spot p) = _
      rw [item?_drop d (ne_nil_of_item? (d := d) (by simp [hfile])), if_pos rfl]

/-! ## Making folders

Making a folder puts folders at free places, one after the other, so whatever each
of these steps keeps is kept. -/

section

variable {R : Disk → Disk → Prop} (refl : ∀ d, R d d)
  (trans : ∀ {d d' d''}, R d d' → R d' d'' → R d d'')
  (put : ∀ d names, d.item? names = none → R d (d.put names .folder))

include put in
theorem makeOne_keeps {d d' : Disk} {p : DiskPath} (h : d.makeOne p = .ok d') : R d d' := by
  unfold makeOne at h
  cases hp : d.place p with
  | error e => rw [hp] at h; cases h
  | ok names =>
      rw [hp] at h
      simp only [bind, Except.bind] at h
      split at h
      · cases h
      · rename_i hnone
        cases h
        exact put d names (by simpa using hnone)

include refl put in
theorem ensureOne_keeps {d d' : Disk} {p : DiskPath} (h : d.ensureOne p = .ok d') : R d d' := by
  unfold ensureOne at h
  split at h
  · rename_i hm
    cases h
    exact makeOne_keeps put hm
  · cases h
  · cases h
  · cases hi : d.isFolder p with
    | error e => rw [hi] at h; cases h
    | ok b =>
        rw [hi] at h
        cases b with
        | false => cases h
        | true => cases h; exact refl d

include refl trans put in
theorem makeTo_keeps {d d' : Disk} {p : DiskPath} {depth : Nat}
    (h : makeTo depth d p = .ok d') : R d d' := by
  induction depth generalizing d d' p with
  | zero => exact ensureOne_keeps refl put h
  | succ depth ih =>
      unfold makeTo at h
      split at h
      · cases hm : makeTo depth d p.parent with
        | error e => rw [hm] at h; cases h
        | ok d₁ =>
            rw [hm] at h
            exact trans (ih hm) (ensureOne_keeps refl put h)
      · exact ensureOne_keeps refl put h

end

theorem makeFolder_ok {d d' : Disk} {p : DiskPath} (h : d.makeFolder p = .ok d') :
    SameBut (fun _ => False) d d' :=
  makeTo_keeps (.refl _) .trans (fun d _ => sameBut_put_folder d) h

end Disk

end PageTemplates
