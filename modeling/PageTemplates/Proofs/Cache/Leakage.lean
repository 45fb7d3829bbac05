import PageTemplates.Proofs.Cache.Orderly

/-!
# No file is left behind

A cache that has the snapshot folder to itself knows every file in it. The main
facts:

* `Entry.Owns`: the files of an entry's names are the ones that it lists, and
  they can be reached;
* `page_owns`: asking for a page writes no other file, and a snapshot that is
  given up is deleted;
* `Accounted`: the invariant of a cache, with every file in the folder listed by a
  registered entry and every page in memory that of one;
* `nothing_leaks`: in every run each file is listed once, and closing the cache
  leaves none.
-/

namespace PageTemplates.Cache

/-! ## Files in the folder -/

/-- The places below the snapshot folder. -/
def belowFolder (config : Config) (d : Disk) (ns : List String) : Prop :=
  ∃ n rest, ns = d.spot config.snapshotFolder ++ n :: rest

theorem inFolder_append {config : Config} {d : Disk} {s : String → Prop} {n : String} :
    inFolder config d s (d.spot config.snapshotFolder ++ [n]) ↔ s n := by
  simp [inFolder]

/-- A file named `n` in the snapshot folder can be reached by the path `file?`. -/
def OwnsFile (config : Config) (d : Disk) (file? : Option DiskPath) (n : String) : Prop :=
  ∀ content time, d.item? (d.spot config.snapshotFolder ++ [n]) = some (.file content time) →
    ∃ p, file? = some p ∧ d.place p = .ok (d.spot config.snapshotFolder ++ [n])

/-- What stands under the names of an entry's files, the entry lists. -/
structure Entry.Owns (config : Config) (d : Disk) (e : Entry) : Prop where
  page : OwnsFile config d e.snapshot (pageName e.baseName)
  body : OwnsFile config d e.body (bodyName e.baseName)

section

variable {config : Config} {d d' : Disk}

theorem OwnsFile.sameBut {s : String → Prop} {file? : Option DiskPath} {n : String}
    (h : OwnsFile config d file? n) (same : Disk.SameBut (inFolder config d s) d d') (hn : ¬ s n) :
    OwnsFile config d' file? n := by
  intro content time hf
  rw [same.spot_eq] at hf ⊢
  have before := (same.files _ (fun hs => hn (inFolder_append.mp hs)) content time).mp hf
  obtain ⟨p, hp, hplace⟩ := h content time before
  exact ⟨p, hp, same.place_ok hplace⟩

theorem Entry.Owns.sameBut {e : Entry} (h : e.Owns config d)
    (same : Disk.SameBut (inFolder config d (· = readmeName)) d d') : e.Owns config d' :=
  ⟨h.page.sameBut same (pageName_ne_readmeName _), h.body.sameBut same (bodyName_ne_readmeName _)⟩

/-- A snapshot that was written can be reached. -/
theorem writeSnapshot_place {p : DiskPath} {content : Bytes}
    (h : writeSnapshot p content d = (none, d')) : d'.place p = .ok (d'.spot p) := by
  unfold writeSnapshot at h
  split at h
  · cases h
  · rename_i d₁ _
    split at h
    · cases h
    · rename_i d₂ hw
      cases h
      cases hp : d₁.place p with
      | error err =>
          rw [Disk.write, Disk.writeAt, hp] at hw
          cases hw
      | ok names =>
          have same := (Disk.write_ok hw).1
          rw [same.place_ok hp, same.spot_eq, Disk.place_eq_spot hp]

theorem ownsFile_of_written {n : String} (hn : DiskPath.IsPlainName n) {content : Bytes}
    (h : writeSnapshot (config.snapshotFolder.joinText n) content d = (none, d')) :
    OwnsFile config d' (some (config.snapshotFolder.joinText n)) n := by
  intro _ _ _
  refine ⟨_, rfl, ?_⟩
  rw [writeSnapshot_place h, Disk.spot_joinText _ _ hn]

/-- Giving a snapshot up takes it away: it could be reached. -/
theorem Entry.Owns.giveUp {e : Entry} {p : DiskPath} (owns : e.Owns config d)
    (placed : e.WellPlaced config) (hp : e.snapshot = some p) :
    ({ e with snapshot := none } : Entry).Owns config ((d.remove p).toOption.getD d) := by
  obtain rfl := placed.snapshot p hp
  have hplain := pageName_plain placed.noSlash
  cases hr : d.remove (config.snapshotFolder.joinText (pageName e.baseName)) with
  | ok d₁ =>
      obtain ⟨same, gone⟩ := Disk.remove_ok hr
      have only : Disk.SameBut (inFolder config d (· = pageName e.baseName)) d d₁ := by
        refine same.mono ?_
        rintro _ rfl
        exact (inFolder_spot hplain).mpr rfl
      refine ⟨?_, owns.body.sameBut only (pageName_ne_bodyName _ _).symm⟩
      intro content time hf
      rw [Disk.standing, Disk.spot_joinText _ _ hplain] at gone
      cases gone.symm.trans hf
  | error err =>
      refine ⟨?_, owns.body⟩
      intro content time hf
      obtain ⟨q, hq, hplace⟩ := owns.page content time hf
      obtain rfl := Option.some.inj (hp.symm.trans hq)
      exact absurd hf (Disk.item?_of_file_error (Disk.file_of_remove_error hr) hplace content time)

end

namespace Context

/-! ## Asking for a page -/

theorem storeBody_owns {e : Entry} {script? : Option Bytes} {c c' : Context}
    {r : Except Failure Unit} (placed : e.WellPlaced c.config) (owns : e.Owns c.config c.disk)
    (h : perform (storeBody e script?) c = (r, c')) : e.Owns c'.config c'.disk := by
  unfold storeBody at h
  split at h
  · rename_i path script hbody
    have hpath := placed.body path hbody
    subst hpath
    have hplain := bodyName_plain placed.noSlash
    rcases hw : writeSnapshot (c.config.snapshotFolder.joinText (bodyName e.baseName)) script
      c.disk with ⟨err?, d⟩
    simp only [perform_bind, perform_get, hw, perform_modify] at h
    rcases writeSnapshot_sameBut hplain script c.disk hw with ⟨rfl, same, -⟩ | ⟨err, rfl, same⟩
    · cases h
      refine ⟨owns.page.sameBut same ?_, hbody ▸ ownsFile_of_written hplain hw⟩
      exact not_or.mpr ⟨pageName_ne_bodyName _ _, pageName_ne_readmeName _⟩
    · have owned := owns.sameBut same
      dsimp only at h
      split at h <;> cases h
      · exact owned
      · rw [tell_disk]
        exact owned
  · cases h
    exact owns

/-- A snapshot is written where the entry finds it, or it is deleted when the
entry gives it up. -/
theorem storePage_owns {i : Nat} {e e₁ : Entry} {content : Bytes} {c c' : Context}
    {r : Except Failure Unit} (here : c.entries[i]? = some e₁) (same : e.SameTemplate e₁)
    (snapshot : e₁.snapshot = e.snapshot) (placed : e.WellPlaced c.config)
    (owns : e₁.Owns c.config c.disk) (h : perform (storePage i e content) c = (r, c')) :
    ∃ e', c'.entries[i]? = some e' ∧ e'.Owns c'.config c'.disk := by
  unfold storePage at h
  split at h
  · rename_i path hsnap
    have known : e₁.snapshot = some path := snapshot.trans hsnap
    have placed₁ := same.wellPlaced placed
    have hpath := placed₁.snapshot path known
    have hplain := pageName_plain placed₁.noSlash
    rcases hw : writeSnapshot path content c.disk with ⟨err?, d⟩
    simp only [perform_bind, perform_get, hw, perform_modify] at h
    rw [hpath] at hw
    rcases writeSnapshot_sameBut hplain content c.disk hw with ⟨rfl, only, -⟩ | ⟨err, rfl, only⟩
    · cases h
      refine ⟨e₁, here, ?_, owns.body.sameBut only ?_⟩
      · rw [known, hpath]
        exact ownsFile_of_written hplain hw
      · exact not_or.mpr ⟨(pageName_ne_bodyName _ _).symm, bodyName_ne_readmeName _⟩
    -- refused: whatever stands there now is the entry's own, until it gives the snapshot up
    · have owned := owns.sameBut only
      dsimp only at h
      split at h
      · cases h
        exact ⟨e₁, here, owned⟩
      · simp only [perform_bind, perform_modify, Prod.mk.injEq] at h
        obtain ⟨rfl, rfl⟩ := h
        refine ⟨_, updateEntry_self here _, ?_⟩
        change Entry.Owns c.config
          (((tell _ _ _).disk.remove path).toOption.getD (tell _ _ _).disk) _
        rw [tell_disk]
        exact owned.giveUp placed₁ known
  · cases h
    exact ⟨e₁, here, owns⟩

theorem settle_owns {i : Nat} {e e₁ : Entry} {a : Artifact} {modified : Nat} {c c' : Context}
    {r : Except Failure Unit} (here : c.entries[i]? = some e₁) (same : e.SameTemplate e₁)
    (snapshot : e₁.snapshot = e.snapshot) (placed : e.WellPlaced c.config)
    (owns : e₁.Owns c.config c.disk) (h : perform (settle i e a modified) c = (r, c')) :
    ∃ e', c'.entries[i]? = some e' ∧ e'.Owns c'.config c'.disk := by
  unfold settle at h
  rw [perform_bind_ok (perform_modify _ _)] at h
  let e₂ : Entry := { e₁ with modelInit := a.modelInit, modelEnd := a.modelEnd }
  have here₂ := updateEntry_self here
    fun e => { e with modelInit := a.modelInit, modelEnd := a.modelEnd }
  have owns₂ : e₂.Owns c.config c.disk := ⟨owns.page, owns.body⟩
  have same₂ : e.SameTemplate e₂ := same.trans ⟨rfl, rfl, rfl, rfl, rfl, .inl rfl⟩
  rcases hs : perform (storePage i e a.content) (c.updateEntry i fun e =>
    { e with modelInit := a.modelInit, modelEnd := a.modelEnd }) with ⟨r₃, c₃⟩
  obtain ⟨e₃, here₃, owns₃⟩ := storePage_owns here₂ same₂ snapshot placed owns₂ hs
  cases r₃ with
  | error err =>
      rw [perform_bind_error hs] at h
      cases h
      exact ⟨e₃, here₃, owns₃⟩
  | ok _ =>
      rw [perform_bind_ok hs] at h
      cases h
      exact ⟨_, updateEntry_self here₃ _, owns₃.page, owns₃.body⟩

/-- Taking in a page writes no file that the entry does not list. -/
theorem accept_owns {i : Nat} {e : Entry} {p : Compile.Compilation} {modified : Nat}
    {c c' : Context} {r : Except Failure Unit} (here : c.entries[i]? = some e)
    (placed : e.WellPlaced c.config) (owns : e.Owns c.config c.disk)
    (h : perform (accept i e p modified) c = (r, c')) :
    ∃ e', c'.entries[i]? = some e' ∧ e'.Owns c'.config c'.disk := by
  rw [accept_eq, perform_bind_ok (perform_modify _ _)] at h
  let e₁ : Entry := { e with charset := some p.charset }
  let c₁ := c.updateEntry i fun e => { e with charset := some p.charset }
  have here₁ : c₁.entries[i]? = some e₁ := updateEntry_self here _
  rcases hb : perform (storeBody e (p.bodyScript.map (·.2))) c₁ with ⟨r₂, c₂⟩
  have files := storeBody_onlyFiles e (p.bodyScript.map (·.2)) (c := c₁) placed
  rw [Leaves, hb] at files
  have owns₁ := storeBody_owns (c := c₁) placed owns hb
  have here₂ : c₂.entries[i]? = some e₁ := files.entries ▸ here₁
  have owns₂ : e₁.Owns c₂.config c₂.disk := ⟨owns₁.page, owns₁.body⟩
  cases r₂ with
  | error err =>
      rw [perform_bind_error hb] at h
      cases h
      exact ⟨e₁, here₂, owns₂⟩
  | ok _ =>
      rw [perform_bind_ok hb] at h
      have same : e.SameTemplate e₁ := ⟨rfl, rfl, rfl, rfl, rfl, .inl rfl⟩
      exact settle_owns here₂ same rfl (files.config ▸ placed) owns₂ h

/-- Asking for the page of an entry writes no file that the entry does not list
afterwards. -/
theorem page_owns {i : Nat} {e : Entry} {c c' : Context} {r : Except Failure Artifact}
    (here : c.entries[i]? = some e) (placed : e.WellPlaced c.config)
    (owns : e.Owns c.config c.disk) (h : perform (page i) c = (r, c')) :
    ∃ e', c'.entries[i]? = some e' ∧ e'.Owns c'.config c'.disk := by
  have quiet : ∀ {c₁ : Context}, OnlyLog c c₁ →
      c₁.entries[i]? = some e ∧ e.WellPlaced c₁.config ∧ e.Owns c₁.config c₁.disk := by
    rintro _ ⟨log, rfl⟩
    exact ⟨here, placed, owns⟩
  cases page_asked here h with
  | atHand _ _ _ => exact ⟨e, here, owns⟩
  | tried h =>
      cases h with
      | failed quiet' => exact ⟨e, (quiet quiet').1, (quiet quiet').2.2⟩
      | compiled quiet' _ done =>
          obtain ⟨here₁, placed₁, owns₁⟩ := quiet quiet'
          exact accept_owns here₁ placed₁ owns₁ done

/-! ## The invariant -/

/-- The entry of a number is registered, and lists the file at a place. -/
def Lists (c : Context) (i : Nat) (ns : List String) : Prop :=
  ∃ e, c.Registered i e ∧ ∃ p ∈ e.files, c.disk.place p = .ok ns

/-- The place of the note that the snapshot folder holds about itself. -/
def readmeSpot (c : Context) : List String := c.disk.spot c.config.snapshotFolder ++ [readmeName]

/-- Every file in the snapshot folder, apart from the note, is listed by a
registered entry, and every page in memory is one of a registered entry. -/
structure Accounted (c : Context) : Prop extends Orderly c where
  files : ∀ ns content time, belowFolder c.config c.disk ns →
    c.disk.item? ns = some (.file content time) → ns = c.readmeSpot ∨ ∃ i, c.Lists i ns
  memory : ∀ k v, (k, v) ∈ c.memory.held → ∃ i e, c.Registered i e ∧ e.key = k

/-- Who lists a file has the name for it. -/
theorem Orderly.spot_of_lists {c : Context} (h : Orderly c) {i : Nat} {e : Entry}
    (hi : c.Registered i e) {p : DiskPath} (hp : p ∈ e.files) {ns : List String}
    (hplace : c.disk.place p = .ok ns) :
    ∃ n, (n = pageName e.baseName ∨ n = bodyName e.baseName) ∧
      p = c.config.snapshotFolder.joinText n ∧
      ns = c.disk.spot c.config.snapshotFolder ++ [n] := by
  obtain ⟨n, hn, plain, rfl⟩ := (h.placed i e hi).mem_files hp
  exact ⟨n, hn, rfl, (Disk.place_eq_spot hplace).trans (Disk.spot_joinText _ _ plain)⟩

/-- No file is listed by two entries. -/
theorem Orderly.lists_unique {c : Context} (h : Orderly c) {i j : Nat} {ns : List String}
    (hi : c.Lists i ns) (hj : c.Lists j ns) : i = j := by
  obtain ⟨e, hi, p, hp, hplace⟩ := hi
  obtain ⟨e', hj, p', hp', hplace'⟩ := hj
  obtain ⟨n, hn, -, rfl⟩ := h.spot_of_lists hi hp hplace
  obtain ⟨n', hn', -, spot⟩ := h.spot_of_lists hj hp' hplace'
  obtain rfl : n = n' := by simpa using spot
  by_contra hne
  exact h.apart i j e e' hi hj hne (List.ne_nil_of_mem hp') (baseName_eq hn' hn)

namespace Accounted

variable {c c' : Context}

/-- A registered entry lists the files that have its names. -/
theorem owns (h : Accounted c) {i : Nat} {e : Entry} (hi : c.Registered i e) :
    e.Owns c.config c.disk := by
  have listed : ∀ n, n = pageName e.baseName ∨ n = bodyName e.baseName → ∀ content time,
      c.disk.item? (c.disk.spot c.config.snapshotFolder ++ [n]) = some (.file content time) →
      ∃ p ∈ e.files, p = c.config.snapshotFolder.joinText n ∧
        c.disk.place p = .ok (c.disk.spot c.config.snapshotFolder ++ [n]) := by
    intro n hn content time hf
    rcases h.files _ content time ⟨n, [], rfl⟩ hf with readme | ⟨j, e', hj, p, hp, hplace⟩
    · obtain rfl : n = readmeName := by simpa [readmeSpot] using readme
      rcases hn with hn | hn
      · exact absurd hn.symm (pageName_ne_readmeName _)
      · exact absurd hn.symm (bodyName_ne_readmeName _)
    · obtain ⟨n', hn', path, spot⟩ := h.spot_of_lists hj hp hplace
      obtain rfl : n = n' := by simpa using spot
      by_cases hij : i = j
      · subst hij
        obtain rfl : e = e' := Option.some.inj (hi.2.symm.trans hj.2)
        exact ⟨p, hp, path, hplace⟩
      · exact absurd (baseName_eq hn' hn) (h.apart i j e e' hi hj hij (List.ne_nil_of_mem hp))
  -- the page and the body script are told apart by their names
  have placed := h.placed i e hi
  have other := fun hn => pageName_ne_bodyName e.baseName e.baseName
    (c.config.snapshotFolder.joinText_injective (pageName_plain placed.noSlash)
      (bodyName_plain placed.noSlash) hn)
  constructor
  · intro content time hf
    obtain ⟨p, hp, path, hplace⟩ := listed _ (.inl rfl) content time hf
    rw [Entry.files, List.mem_append, Option.mem_toList, Option.mem_toList] at hp
    rcases hp with hp | hp
    · exact ⟨p, hp, hplace⟩
    · exact absurd (path.symm.trans (placed.body p hp)) other
  · intro content time hf
    obtain ⟨p, hp, path, hplace⟩ := listed _ (.inr rfl) content time hf
    rw [Entry.files, List.mem_append, Option.mem_toList, Option.mem_toList] at hp
    rcases hp with hp | hp
    · exact absurd ((placed.snapshot p hp).symm.trans path) other
    · exact ⟨p, hp, hplace⟩

theorem page (h : Accounted c) {i : Nat} {e : Entry} (hi : c.Registered i e)
    {r : Except Failure Artifact} (done : perform (page i) c = (r, c')) : Accounted c' := by
  have only := page_onlyEntry hi.2 (h.placed i e hi) done
  obtain ⟨e', here', owns'⟩ := page_owns hi.2 (h.placed i e hi) (h.owns hi) done
  obtain ⟨e'', here'', same⟩ := only.own
  obtain rfl : e' = e'' := Option.some.inj (here'.symm.trans here'')
  have hi' : c'.Registered i e' := ⟨only.registered ▸ hi.1, here'⟩
  have still : ∀ {j e₁}, j ≠ i → c.Registered j e₁ → c'.Registered j e₁ := fun hj hr =>
    ⟨only.registered ▸ hr.1, only.others _ hj ▸ hr.2⟩
  have folder : c'.disk.spot c'.config.snapshotFolder = c.disk.spot c.config.snapshotFolder := by
    rw [only.config, only.disk.spot_eq]
  -- a file or a key belongs to this entry, or it is one that was there before
  refine ⟨h.toOrderly.page hi only, fun ns content time below hf => ?_, fun k v hm => ?_⟩
  · by_cases own : inFolder c.config c.disk e.ownName ns
    · -- what stands there now belongs to the entry, wherever it comes from
      obtain ⟨n, hn, rfl⟩ := own
      rw [← folder] at hf
      rw [readmeSpot, folder]
      rcases hn with rfl | rfl | rfl
      · rw [← same.baseName] at hf
        obtain ⟨p, hp, hplace⟩ := owns'.page content time hf
        rw [← same.baseName, ← folder]
        exact .inr ⟨i, e', hi', p, by simp [Entry.files, hp], hplace⟩
      · rw [← same.baseName] at hf
        obtain ⟨p, hp, hplace⟩ := owns'.body content time hf
        rw [← same.baseName, ← folder]
        exact .inr ⟨i, e', hi', p, by simp [Entry.files, hp], hplace⟩
      · exact .inl rfl
    · have before := (only.disk.files ns own content time).mp hf
      unfold belowFolder at below
      rw [folder] at below
      rw [readmeSpot, folder]
      refine (h.files ns content time below before).imp_right ?_
      rintro ⟨j, e₁, hj, p, hp, hplace⟩
      have hji : j ≠ i := by
        rintro rfl
        obtain rfl : e = e₁ := Option.some.inj (hi.2.symm.trans hj.2)
        obtain ⟨n, hn, -, rfl⟩ := h.spot_of_lists hj hp hplace
        exact own ⟨n, hn.imp_right .inl, rfl⟩
      exact ⟨j, e₁, still hji hj, p, hp, only.disk.place_ok hplace⟩
  · by_cases hk : k = e.key
    · exact ⟨i, e', hi', by rw [same.key_eq, hk]⟩
    · obtain ⟨j, e₁, hj, rfl⟩ := h.memory k v (only.memory k v hk hm)
      have hji : j ≠ i := by
        rintro rfl
        exact hk (congrArg Entry.key (Option.some.inj (hj.2.symm.trans hi.2)))
      exact ⟨j, e₁, still hji hj, rfl⟩

/-- Files and pages are accounted for as long as none is new and who had them stays
registered. -/
theorem of_noneNew (h : Accounted c) (orderly : Orderly c')
    (folder : c'.disk.spot c'.config.snapshotFolder = c.disk.spot c.config.snapshotFolder)
    (files : ∀ ns content time, belowFolder c.config c.disk ns →
      c'.disk.item? ns = some (.file content time) →
      c.disk.item? ns = some (.file content time) ∧ ∀ i, c.Lists i ns → c'.Lists i ns)
    (memory : ∀ k v, (k, v) ∈ c'.memory.held → (k, v) ∈ c.memory.held ∧
      ∀ i e, c.Registered i e → e.key = k → c'.Registered i e) : Accounted c' := by
  refine ⟨orderly, fun ns content time below hf => ?_, fun k v hm => ?_⟩
  · unfold belowFolder at below
    rw [folder] at below
    obtain ⟨before, still⟩ := files ns content time below hf
    rw [readmeSpot, folder]
    exact (h.files ns content time below before).imp_right fun ⟨i, hi⟩ => ⟨i, still i hi⟩
  · obtain ⟨before, still⟩ := memory k v hm
    obtain ⟨i, e, hi, hk⟩ := h.memory k v before
    exact ⟨i, e, still i e hi hk, hk⟩

/-- Nothing is written when an entry is registered. -/
theorem register (h : Accounted c) {templateId : String} {source : Source}
    (mode? : Option CacheMode)
    (fresh : (c.register templateId source mode?).2.host.named ≠ c.host.named →
      ∀ i e, c.Registered i e → e.baseName ≠ Names.snapshot templateId (c.host.named + 1)) :
    Accounted (c.register templateId source mode?).2 := by
  have orderly : Orderly (c.register templateId source mode?).2 := h.toOrderly.register mode? fresh
  rcases c.register_cases templateId source mode? with same | ⟨number, -, added⟩
  · rwa [same]
  · have still : ∀ {i e}, c.Registered i e →
        (c.register templateId source mode?).2.Registered i e := by
      rintro i e ⟨⟨name, hn⟩, he⟩
      refine ⟨⟨name, ?_⟩, added.old he⟩
      rw [added.registered]
      exact List.mem_append_left _ hn
    refine h.of_noneNew orderly (by rw [added.config, added.disk])
      (fun ns content time _ hf => ⟨added.disk ▸ hf, ?_⟩)
      fun k v hm => ⟨added.memory ▸ hm, fun i e hi _ => still hi⟩
    rintro i ⟨e, hi, p, hp, hplace⟩
    exact ⟨e, still hi, p, hp, added.disk ▸ hplace⟩

/-- Others change files outside the snapshot folder. -/
theorem edit (h : Accounted c) {disk : Disk}
    (change : Disk.SameBut (fun ns => ¬ belowFolder c.config c.disk ns) c.disk disk) :
    Accounted (c.withDisk disk) := by
  refine h.of_noneNew (h.toOrderly.shrunk rfl (List.Sublist.refl _) rfl) (change.spot_eq _)
    (fun ns content time below hf => ?_) fun k v hm => ⟨hm, fun i e hi _ => hi⟩
  refine ⟨(change.files ns (not_not.mpr below) content time).mp hf, ?_⟩
  rintro i ⟨e, hi, p, hp, hplace⟩
  exact ⟨e, hi, p, hp, change.place_ok hplace⟩

/-- Pages in memory are forgotten. -/
theorem evict (h : Accounted c) {memory : Recency EntryKey Artifact}
    (fewer : ∀ x ∈ memory.held, x ∈ c.memory.held) : Accounted { c with memory } :=
  h.of_noneNew (h.toOrderly.shrunk rfl (List.Sublist.refl _) rfl) rfl
    (fun _ _ _ _ hf => ⟨hf, fun _ hi => hi⟩) fun _ _ hm => ⟨fewer _ hm, fun _ _ hi _ => hi⟩

/-- Dropping entries takes their files and pages away. -/
theorem invalidate (h : Accounted c) {templateId? : Option String} {names : List String}
    (done : perform (Context.invalidate templateId?) c = (.ok names, c')) : Accounted c' := by
  have cleared := perform_invalidate_ok done
  -- who is not dropped stays registered
  have stays : ∀ {i e}, c.Registered i e → e ∉ c.droppedEntries templateId? →
      c'.Registered i e := by
    rintro i e ⟨⟨name, hn⟩, he⟩ kept
    refine ⟨⟨name, ?_⟩, cleared.entries ▸ he⟩
    rw [cleared.registered, unregister, List.mem_filter]
    refine ⟨hn, ?_⟩
    by_contra dropped
    refine kept (List.mem_filterMap.mpr ⟨(name, i), List.mem_filter.mpr ⟨hn, ?_⟩, he⟩)
    simpa using dropped
  have orderly : Orderly c' := by
    refine h.toOrderly.shrunk cleared.config ?_ cleared.entries
    rw [cleared.registered]
    exact List.filter_sublist
  refine h.of_noneNew orderly ?_ (fun ns content time _ hf => ?_) fun k v hm => ?_
  · rw [cleared.config, cleared.gone.sameBut.spot_eq]
    rfl
  · obtain ⟨before, spared⟩ := (cleared.gone.files ns content time).mp hf
    refine ⟨before, ?_⟩
    rintro i ⟨e, hi, p, hp, hplace⟩
    have kept : e ∉ c.droppedEntries templateId? := fun dropped =>
      spared p (List.mem_flatMap.mpr ⟨e, dropped, hp⟩) hplace
    exact ⟨e, stays hi kept, p, hp, (cleared.gone.place_iff p ns).mpr hplace⟩
  · rw [cleared.memory] at hm
    obtain ⟨others, before⟩ := Recency.mem_foldl_erase.mp hm
    refine ⟨before, ?_⟩
    rintro i e hi rfl
    exact stays hi fun dropped => others e dropped rfl

end Accounted

/-! ## Runs -/

/-- A cache starts with the files that are there, and at most adds the note. -/
theorem start_ok {config : Config} {host : Host} {c : Context}
    (h : Context.start config host = .ok c) :
    c.config = config ∧ c.memory.held = [] ∧
      Disk.SameBut (inFolder config host.disk (· = readmeName)) host.disk c.disk := by
  have told : ∀ (host : Host) l m, (host.tell l m).disk = host.disk := by
    intro host l m
    unfold Host.tell
    split <;> rfl
  unfold Context.start at h
  have quiet : (if config.logging then host else { host with quiet := true }).disk = host.disk := by
    split <;> rfl
  generalize (if config.logging then host else { host with quiet := true }) = host₁ at h quiet
  rw [← quiet]
  simp only [bind, Except.bind, pure, Except.pure] at h
  split at h
  · cases h
    refine ⟨rfl, rfl, ?_⟩
    rw [Context.disk, told]
    exact .refl _ _
  · split at h
    · cases h
    · rename_i d hd
      cases h
      refine ⟨rfl, rfl, ?_⟩
      rw [Context.disk, told]
      exact makeSnapshotFolder_sameBut hd

theorem accounted_start {config : Config} {host : Host} {c : Context}
    (h : Context.start config host = .ok c)
    (empty : ∀ ns content time, belowFolder config host.disk ns →
      host.disk.item? ns ≠ some (.file content time)) : Accounted c := by
  obtain ⟨hconfig, hmemory, only⟩ := start_ok h
  refine ⟨orderly_start h, fun ns content time below hf => ?_, fun k v hm => ?_⟩
  · unfold belowFolder at below
    rw [readmeSpot]
    rw [hconfig, only.spot_eq] at below ⊢
    by_cases readme : inFolder config host.disk (· = readmeName) ns
    · obtain ⟨_, rfl, spot⟩ := readme
      exact .inl spot
    · exact absurd ((only.files ns readme content time).mp hf) (empty ns content time below)
  · rw [hmemory] at hm
    cases hm

/-- One thing that happens to a cache whose snapshot folder nobody else writes to: a
template is registered, and a name that is made up for its files is not in use; a
registered page is asked for, whether that succeeds or not; others change files
elsewhere; pages in memory are forgotten; or entries are dropped, without giving up
half way. -/
inductive Undisturbed : Context → Context → Prop where
  | register {c : Context} (templateId : String) (source : Source) (mode? : Option CacheMode)
      (fresh : (c.register templateId source mode?).2.host.named ≠ c.host.named →
        ∀ i e, c.Registered i e → e.baseName ≠ Names.snapshot templateId (c.host.named + 1)) :
      Undisturbed c (c.register templateId source mode?).2
  | page {c c' : Context} {i : Nat} {e : Entry} {r : Except Failure Artifact}
      (registered : c.Registered i e) (done : perform (Context.page i) c = (r, c')) :
      Undisturbed c c'
  | edit {c : Context} {disk : Disk}
      (change : Disk.SameBut (fun ns => ¬ belowFolder c.config c.disk ns) c.disk disk) :
      Undisturbed c (c.withDisk disk)
  | evict {c : Context} {memory : Recency EntryKey Artifact}
      (fewer : ∀ x ∈ memory.held, x ∈ c.memory.held) : Undisturbed c { c with memory }
  | invalidate {c c' : Context} {names : List String} (templateId? : Option String)
      (done : perform (Context.invalidate templateId?) c = (.ok names, c')) : Undisturbed c c'

theorem Accounted.step {c c' : Context} (h : Accounted c) (step : Undisturbed c c') :
    Accounted c' := by
  cases step with
  | register templateId source mode? fresh => exact h.register mode? fresh
  | page registered done => exact h.page registered done
  | edit change => exact h.edit change
  | evict fewer => exact h.evict fewer
  | invalidate templateId? done => exact h.invalidate done

theorem Accounted.run {c c' : Context} (h : Accounted c)
    (run : Relation.ReflTransGen Undisturbed c c') : Accounted c' := by
  induction run with
  | refl => exact h
  | tail _ step ih => exact ih.step step

/-! ## Closing -/

theorem close_ok {c c' : Context} (h : perform close c = (.ok (), c')) :
    ∃ c₁ names, perform (invalidate none) c = (.ok names, c₁) ∧
      c' = { c₁ with memory := c₁.memory.clear } := by
  unfold close at h
  obtain ⟨_, c₁, dropped, h⟩ := perform_bind_eq_ok.mp h
  obtain ⟨names, c₂, done, dropped⟩ := perform_bind_eq_ok.mp dropped
  cases dropped
  cases h
  exact ⟨c₁, names, done, rfl⟩

theorem close_possible {c : Context}
    (possible : ∀ i e, c.Registered i e → ∀ p ∈ e.files, ¬ p.hasNul) :
    ∃ c', perform close c = (.ok (), c') := by
  have dropped : ∀ e ∈ c.droppedEntries none, ∀ p ∈ e.files, ¬ p.hasNul := by
    intro e he
    obtain ⟨⟨name, i⟩, hn, hi⟩ := List.mem_filterMap.mp he
    exact possible i e ⟨⟨name, (List.mem_filter.mp hn).1⟩, hi⟩
  obtain ⟨names, c₁, done⟩ := invalidate_ok none dropped
  refine ⟨{ c₁ with memory := c₁.memory.clear }, ?_⟩
  exact perform_bind_eq_ok.mpr ⟨(), c₁, perform_bind_eq_ok.mpr ⟨names, c₁, done, rfl⟩, rfl⟩

/-- Closing leaves no entry, no page and no file but the note. -/
theorem Accounted.close {c c' : Context} (h : Accounted c)
    (done : perform Context.close c = (.ok (), c')) :
    c'.registered = [] ∧ c'.memory.held = [] ∧ ∀ ns content time,
      belowFolder c'.config c'.disk ns → c'.disk.item? ns = some (.file content time) →
        ns = c'.readmeSpot := by
  obtain ⟨c₁, names, dropped, rfl⟩ := close_ok done
  have accounted := h.invalidate dropped
  have none : c₁.registered = [] := by
    rw [(perform_invalidate_ok dropped).registered]
    simp [unregister, isDropped]
  refine ⟨none, rfl, fun ns content time below hf => ?_⟩
  refine (accounted.files ns content time below hf).resolve_right ?_
  rintro ⟨i, e, ⟨⟨name, hn⟩, -⟩, -⟩
  rw [none] at hn
  cases hn

/-- In every run of a cache that starts with no file in the snapshot folder and has
the folder to itself, each file in it, apart from the note, is listed by exactly
one registered entry, and memory holds pages of registered entries alone. Closing
the cache then fails only for a file with a path that nothing can have, and leaves
no entry, no page and no file but the note. -/
theorem nothing_leaks {config : Config} {host : Host} {start c : Context}
    (started : Context.start config host = .ok start)
    (empty : ∀ ns content time, belowFolder config host.disk ns →
      host.disk.item? ns ≠ some (.file content time))
    (run : Relation.ReflTransGen Undisturbed start c) :
    (∀ ns content time, belowFolder c.config c.disk ns →
      c.disk.item? ns = some (.file content time) → ns = c.readmeSpot ∨ ∃! i, c.Lists i ns) ∧
    (∀ k v, (k, v) ∈ c.memory.held → ∃ i e, c.Registered i e ∧ e.key = k) ∧
    ((∀ i e, c.Registered i e → ∀ p ∈ e.files, ¬ p.hasNul) →
      ∃ c', perform close c = (.ok (), c')) ∧
    ∀ c', perform close c = (.ok (), c') → c'.registered = [] ∧ c'.memory.held = [] ∧
      ∀ ns content time, belowFolder c'.config c'.disk ns →
        c'.disk.item? ns = some (.file content time) → ns = c'.readmeSpot := by
  have accounted := (accounted_start started empty).run run
  refine ⟨fun ns content time below hf => ?_, accounted.memory, close_possible,
    fun c' done => accounted.close done⟩
  refine (accounted.files ns content time below hf).imp_right ?_
  rintro ⟨i, hi⟩
  exact ⟨i, hi, fun j hj => accounted.lists_unique hj hi⟩

/-- The run: a template is registered and its page asked for. -/
theorem nothing_leaks_oneTemplate :
    ∃ c, Context.start oneTemplateCache.config oneTemplate = .ok oneTemplateCache ∧
      (∀ ns content time, belowFolder oneTemplateCache.config oneTemplate.disk ns →
        oneTemplate.disk.item? ns ≠ some (.file content time)) ∧
      Relation.ReflTransGen Undisturbed oneTemplateCache c ∧
      (∃ i ns, c.Lists i ns ∧ (c.disk.item? ns).isSome) ∧
      ∃ c', perform close c = (.ok (), c') ∧ c'.registered = [] ∧ c'.memory.held = [] ∧
        ∀ ns content time, belowFolder c'.config c'.disk ns →
          c'.disk.item? ns = some (.file content time) → ns = c'.readmeSpot := by
  have started : Context.start oneTemplateCache.config oneTemplate = .ok oneTemplateCache := rfl
  have empty : ∀ ns content time, belowFolder oneTemplateCache.config oneTemplate.disk ns →
      oneTemplate.disk.item? ns ≠ some (.file content time) := by
    rintro _ content time ⟨n, rest, rfl⟩ hf
    cases hf
  have step₁ : Undisturbed oneTemplateCache oneTemplateKnown :=
    .register "t" { path := ⟨"/", ["t"]⟩ } (some .compiled)
      (by rintro - i e ⟨⟨name, hn⟩, -⟩; cases hn)
  have accounted₁ := (accounted_start started empty).step step₁
  have listed : ("T_file_t", 0) ∈ oneTemplateKnown.registered := by decide +kernel
  have stands : ((perform (page 0) oneTemplateKnown).2.entries[0]?.any fun e =>
      e.files.any fun p => ((perform (page 0) oneTemplateKnown).2.disk.file p).isOk) = true := by
    decide +kernel
  have closes : (perform close (perform (page 0) oneTemplateKnown).2).1.isOk = true := by
    decide +kernel
  obtain ⟨e₁, he₁, -⟩ := accounted₁.known "T_file_t" 0 listed
  rcases asked : perform (page 0) oneTemplateKnown with ⟨r, c⟩
  rw [asked] at stands closes
  have registered : oneTemplateKnown.Registered 0 e₁ := ⟨⟨_, listed⟩, he₁⟩
  have run := (Relation.ReflTransGen.single step₁).tail (.page registered asked)
  have leaks := nothing_leaks started empty run
  refine ⟨c, started, empty, run, ?_, ?_⟩
  · obtain ⟨e, here, written⟩ := (Option.any_eq_true _ _).mp stands
    obtain ⟨p, hp, found⟩ := List.any_eq_true.mp written
    cases hf : c.disk.file p with
    | error err => rw [hf] at found; cases found
    | ok r =>
        obtain ⟨ns, content, time⟩ := r
        obtain ⟨hplace, spot, standing⟩ := Disk.standing_of_file hf
        have still := (page_onlyEntry he₁ (accounted₁.placed 0 e₁ registered) asked).registered
        refine ⟨0, ns, ⟨e, ⟨⟨_, still ▸ listed⟩, here⟩, p, hp, hplace⟩, ?_⟩
        rw [Disk.standing, ← spot] at standing
        rw [standing]
        rfl
  · rcases closed : perform close c with ⟨_ | _, c'⟩
    · rw [closed] at closes
      cases closes
    · exact ⟨c', rfl, leaks.2.2.2 c' closed⟩

end Context

end PageTemplates.Cache
