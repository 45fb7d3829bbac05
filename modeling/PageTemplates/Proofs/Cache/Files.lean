import PageTemplates.Cache.Context
import PageTemplates.Proofs.Disk.Frame

/-!
# The files of the cache

An operation may fail half way, so each is described by the cache it leaves
behind, whatever its outcome. Here are those that touch nothing but files:

* `OnlyFiles s c c'`: only files changed, and of those in the snapshot folder
  only the ones whose names are in `s`;
* `writeSnapshot_sameBut`: a snapshot is written to its own spot, apart from
  the note that the folder holds about itself;
* `storeBody_onlyFiles`, `removeFiles_onlyFiles`: an entry writes and deletes
  files of its own names, which no other entry has.
-/

namespace PageTemplates.Cache

/-! ## Outcomes -/

/-- The outcome of an operation on a cache, and the cache it leaves behind. -/
def perform {ε α : Type} (x : Operation ε α) (c : Context) : Except ε α × Context := x.run.run c

section

variable {ε α β : Type}

@[simp] theorem perform_pure (a : α) (c : Context) :
    perform (pure a : Operation ε α) c = (.ok a, c) := rfl

@[simp] theorem perform_get (c : Context) : perform (get : Operation ε Context) c = (.ok c, c) :=
  rfl

@[simp] theorem perform_modify (f : Context → Context) (c : Context) :
    perform (modify f : Operation ε Unit) c = (.ok (), f c) := rfl

theorem perform_bind (x : Operation ε α) (f : α → Operation ε β) (c : Context) :
    perform (x >>= f) c =
      match perform x c with
      | (.ok a, c') => perform (f a) c'
      | (.error e, c') => (.error e, c') := by
  unfold perform
  simp only [ExceptT.run_bind, StateT.run_bind]
  rcases x.run.run c with ⟨r, c'⟩
  cases r <;> rfl

theorem perform_bind_ok {x : Operation ε α} {c c' : Context} {a : α}
    (h : perform x c = (.ok a, c')) (f : α → Operation ε β) :
    perform (x >>= f) c = perform (f a) c' := by
  rw [perform_bind, h]

/-- An operation succeeds when both of its halves do. -/
theorem perform_bind_eq_ok {x : Operation ε α} {f : α → Operation ε β} {c c' : Context} {b : β} :
    perform (x >>= f) c = (.ok b, c') ↔
      ∃ a c₁, perform x c = (.ok a, c₁) ∧ perform (f a) c₁ = (.ok b, c') := by
  rw [perform_bind]
  rcases perform x c with ⟨_ | a, c₁⟩
  · simp
  · simp only [Prod.mk.injEq, Except.ok.injEq]
    exact ⟨fun h => ⟨a, c₁, ⟨rfl, rfl⟩, h⟩, fun ⟨_, _, ⟨rfl, rfl⟩, h⟩ => h⟩

theorem perform_bind_error {x : Operation ε α} {c c' : Context} {e : ε}
    (h : perform x c = (.error e, c')) (f : α → Operation ε β) :
    perform (x >>= f) c = (.error e, c') := by
  rw [perform_bind, h]

end

/-! ## Pages in memory

A key with a page in memory is followed through the list itself: forgetting
takes members away, so membership is all that a later look-up rests on. -/

namespace Recency

variable {κ ν : Type} [BEq κ] [LawfulBEq κ]

theorem mem_of_find? {s : Recency κ ν} {k : κ} {v : ν} (h : s.find? k = some v) :
    (k, some v) ∈ s.held := by
  unfold find? at h
  rw [Option.join_eq_some_iff] at h
  obtain ⟨l₁, l₂, hl, -⟩ := List.lookup_eq_some_iff.mp h
  rw [hl]
  exact List.mem_append_right _ List.mem_cons_self

theorem mem_erase {s : Recency κ ν} {k k' : κ} {v : Option ν} :
    (k', v) ∈ (s.erase k).held ↔ k' ≠ k ∧ (k', v) ∈ s.held := by
  simp [erase, and_comm]

omit [BEq κ] [LawfulBEq κ] in
theorem mem_of_mem_trim {s : Recency κ ν} {x : κ × Option ν} (h : x ∈ s.trim.held) :
    x ∈ s.held := by
  unfold trim at h
  split at h
  · exact h
  · exact List.mem_of_mem_drop h

theorem mem_of_mem_insert {s : Recency κ ν} {k k' : κ} {v w : Option ν}
    (h : (k', w) ∈ (s.insert k v).held) : k' = k ∧ w = v ∨ k' ≠ k ∧ (k', w) ∈ s.held := by
  have hm := mem_of_mem_trim h
  simp only [List.mem_append, List.mem_singleton, Prod.mk.injEq] at hm
  rcases hm with hm | hm
  · exact .inr (mem_erase.mp hm)
  · exact .inl hm

/-- Looking a page up moves it, and changes nothing else. -/
theorem mem_of_mem_get {s : Recency κ ν} {k : κ} {x : κ × Option ν}
    (h : x ∈ (s.get k).2.held) : x ∈ s.held := by
  unfold get at h
  split at h
  · exact h
  · rename_i v hv
    simp only [List.mem_append, List.mem_singleton] at h
    rcases h with h | h
    · exact (mem_erase.mp h).2
    · rw [h]
      exact mem_of_find? hv

theorem mem_foldl_erase {α : Type} {f : α → κ} {xs : List α} {s : Recency κ ν}
    {k : κ} {v : Option ν} : (k, v) ∈ (xs.foldl (fun m x => m.erase (f x)) s).held ↔
      (∀ x ∈ xs, k ≠ f x) ∧ (k, v) ∈ s.held := by
  induction xs generalizing s with
  | nil => simp
  | cons x xs ih =>
      rw [List.foldl_cons, ih, mem_erase, List.forall_mem_cons, ← and_assoc, and_comm (b := k ≠ _)]

end Recency

/-! ## The files of an entry -/

/-- The note that the snapshot folder holds about itself. -/
def readmeName : String := "README.txt"

theorem readmeName_plain : DiskPath.IsPlainName readmeName := by
  constructor <;> decide

/-- The name of a snapshot. -/
def pageName (baseName : String) : String := baseName ++ ".html.tmp"

/-- The name of a body script. -/
def bodyName (baseName : String) : String := baseName ++ ".js.tmp"

/-- An entry whose files have the names that belong to it. -/
structure Entry.WellPlaced (config : Config) (e : Entry) : Prop where
  noSlash : '/' ∉ e.baseName.toList
  named : e.snapshot ≠ none → e.baseName ≠ ""
  snapshot : ∀ p, e.snapshot = some p → p = config.snapshotFolder.joinText (pageName e.baseName)
  body : ∀ p, e.body = some p → p = config.snapshotFolder.joinText (bodyName e.baseName)

private theorem plain_of_ending {base ending : String} (h : '/' ∉ base.toList)
    (he : '/' ∉ ending.toList) (hl : 2 < ending.length) :
    DiskPath.IsPlainName (base ++ ending) := by
  have hlen : ∀ s : String, s.length ≤ 2 → base ++ ending ≠ s := by
    intro s hs e
    have := congrArg String.length e
    rw [String.length_append] at this
    omega
  exact ⟨by simp [h, he], hlen _ (by decide), hlen _ (by decide), hlen _ (by decide)⟩

theorem pageName_plain {base : String} (h : '/' ∉ base.toList) :
    DiskPath.IsPlainName (pageName base) :=
  plain_of_ending h (by decide) (by decide)

theorem bodyName_plain {base : String} (h : '/' ∉ base.toList) :
    DiskPath.IsPlainName (bodyName base) :=
  plain_of_ending h (by decide) (by decide)

/-- The files of an entry are in the snapshot folder and go by its name. -/
theorem Entry.WellPlaced.mem_files {config : Config} {e : Entry} (placed : e.WellPlaced config)
    {p : DiskPath} (hp : p ∈ e.files) :
    ∃ n, (n = pageName e.baseName ∨ n = bodyName e.baseName) ∧ DiskPath.IsPlainName n ∧
      p = config.snapshotFolder.joinText n := by
  rw [Entry.files, List.mem_append, Option.mem_toList, Option.mem_toList] at hp
  rcases hp with hp | hp
  · exact ⟨_, .inl rfl, pageName_plain placed.noSlash, placed.snapshot p hp⟩
  · exact ⟨_, .inr rfl, bodyName_plain placed.noSlash, placed.body p hp⟩

/-- The spots in the snapshot folder that the names satisfying `p` stand for. -/
def inFolder (config : Config) (d : Disk) (p : String → Prop) (ns : List String) : Prop :=
  ∃ n, p n ∧ ns = d.spot config.snapshotFolder ++ [n]

theorem inFolder_mono {config : Config} {d : Disk} {p q : String → Prop}
    (h : ∀ n, p n → q n) (ns : List String) (hp : inFolder config d p ns) :
    inFolder config d q ns := by
  obtain ⟨n, hn, he⟩ := hp
  exact ⟨n, h n hn, he⟩

theorem inFolder_spot {config : Config} {d : Disk} {p : String → Prop} {n : String}
    (hn : DiskPath.IsPlainName n) :
    inFolder config d p (d.spot (config.snapshotFolder.joinText n)) ↔ p n := by
  unfold inFolder
  rw [Disk.spot_joinText d _ hn]
  simp

theorem sameBut_of_readme {config : Config} {d d' : Disk} (m : String)
    (h : Disk.SameBut (inFolder config d (· = readmeName)) d d') :
    Disk.SameBut (inFolder config d fun n => n = m ∨ n = readmeName) d d' :=
  h.mono (inFolder_mono fun _ => Or.inr)

/-! ## Writing snapshots -/

theorem makeSnapshotFolder_sameBut {config : Config} {d d' : Disk}
    (h : makeSnapshotFolder config.snapshotFolder d = .ok d') :
    Disk.SameBut (inFolder config d (· = readmeName)) d d' := by
  unfold makeSnapshotFolder at h
  cases hm : d.makeFolder config.snapshotFolder with
  | error e => rw [hm] at h; cases h
  | ok d₁ =>
      rw [hm] at h
      simp only [bind, Except.bind] at h
      have h₁ := Disk.makeFolder_ok hm
      have h₂ : Disk.SameBut (inFolder config d (· = readmeName)) d d₁ :=
        h₁.mono fun _ hf => hf.elim
      cases ht : d₁.isThere (config.snapshotFolder.joinText "README.txt") with
      | error e => rw [ht] at h; cases h
      | ok there =>
          rw [ht] at h
          cases there with
          | true => cases h; exact h₂
          | false =>
              refine h₂.trans ((Disk.write_ok h).1.mono ?_)
              rintro ns rfl
              rw [h₁.spot_eq]
              exact (inFolder_spot readmeName_plain).mpr rfl

/-- A snapshot is written to its own spot or not at all; the folder's note may
be written either way. -/
theorem writeSnapshot_sameBut {config : Config} {n : String} (hn : DiskPath.IsPlainName n)
    (content : Bytes) (d : Disk) {err? : Option DiskError} {d' : Disk}
    (h : writeSnapshot (config.snapshotFolder.joinText n) content d = (err?, d')) :
    (err? = none ∧ Disk.SameBut (inFolder config d fun m => m = n ∨ m = readmeName) d d' ∧
      ∃ time, d'.standing (config.snapshotFolder.joinText n) = some (.file content time)) ∨
    (∃ err, err? = some err ∧ Disk.SameBut (inFolder config d (· = readmeName)) d d') := by
  unfold writeSnapshot at h
  rw [DiskPath.parent_joinText _ hn] at h
  cases hm : makeSnapshotFolder config.snapshotFolder d with
  | error e =>
      rw [hm] at h
      cases h
      exact .inr ⟨e, rfl, .refl _ d⟩
  | ok d₁ =>
      rw [hm] at h
      dsimp only at h
      have h₁ := makeSnapshotFolder_sameBut hm
      cases hw : d₁.write (config.snapshotFolder.joinText n) content with
      | error e =>
          rw [hw] at h
          cases h
          exact .inr ⟨e, rfl, h₁⟩
      | ok d₂ =>
          rw [hw] at h
          cases h
          obtain ⟨h₂, hs⟩ := Disk.write_ok hw
          refine .inl ⟨rfl, ?_, d₁.now, hs⟩
          refine (sameBut_of_readme n h₁).trans (h₂.mono ?_)
          rintro ns rfl
          rw [h₁.spot_eq]
          exact (inFolder_spot hn).mpr (.inl rfl)

/-! ## Names of files do not clash -/

theorem pageName_injective {a b : String} (h : pageName a = pageName b) : a = b := by
  unfold pageName at h
  have hl := congrArg String.toList h
  simpa [String.toList_inj] using hl

theorem pageName_ne_bodyName (a b : String) : pageName a ≠ bodyName b := by
  intro h
  have hl := congrArg (fun s => s.toList.reverse) h
  simp [pageName, bodyName] at hl

theorem pageName_ne_readmeName (a : String) : pageName a ≠ readmeName := by
  intro h
  have hl := congrArg (fun s => s.toList.reverse) h
  simp [pageName, readmeName] at hl

theorem bodyName_injective {a b : String} (h : bodyName a = bodyName b) : a = b := by
  unfold bodyName at h
  have hl := congrArg String.toList h
  simpa [String.toList_inj] using hl

theorem bodyName_ne_readmeName (a : String) : bodyName a ≠ readmeName := by
  intro h
  have hl := congrArg (fun s => s.toList.reverse) h
  simp [bodyName, readmeName] at hl

/-! ## Operations on files alone -/

/-- Only the files and the log differ. -/
structure Context.SameEntries (c c' : Context) : Prop where
  config : c'.config = c.config
  memory : c'.memory = c.memory
  entries : c'.entries = c.entries
  registered : c'.registered = c.registered

theorem Context.SameEntries.trans {c c' c'' : Context} (h : c.SameEntries c')
    (h' : c'.SameEntries c'') : c.SameEntries c'' :=
  ⟨h'.config.trans h.config, h'.memory.trans h.memory, h'.entries.trans h.entries,
    h'.registered.trans h.registered⟩

/-- Only files differ, and the log: no folder went away, and what files are new,
gone or changed have names in `s` and are in the snapshot folder. -/
structure OnlyFiles (s : String → Prop) (c c' : Context) : Prop extends c.SameEntries c' where
  disk : Disk.SameBut (inFolder c.config c.disk s) c.disk c'.disk

namespace OnlyFiles

variable {s t : String → Prop} {c c' c'' : Context}

theorem refl (s : String → Prop) (c : Context) : OnlyFiles s c c :=
  ⟨⟨rfl, rfl, rfl, rfl⟩, .refl _ _⟩

theorem trans (h : OnlyFiles s c c') (h' : OnlyFiles s c' c'') : OnlyFiles s c c'' := by
  refine ⟨h.toSameEntries.trans h'.toSameEntries, h.disk.trans (h'.disk.mono ?_)⟩
  rintro ns ⟨n, hn, rfl⟩
  refine ⟨n, hn, ?_⟩
  rw [h.config, h.disk.spot_eq]

theorem mono (h : OnlyFiles s c c') (sub : ∀ n, s n → t n) : OnlyFiles t c c' :=
  ⟨h.toSameEntries, h.disk.mono (inFolder_mono sub)⟩

/-- Only the log differs. -/
theorem of_quiet (h : c.SameEntries c') (disk : c'.disk = c.disk) : OnlyFiles s c c' := by
  refine ⟨h, ?_⟩
  rw [disk]
  exact .refl _ _

/-- A file of the snapshot folder of another name is as it was. -/
theorem standing_iff (h : OnlyFiles s c c') {n : String} (hn : DiskPath.IsPlainName n)
    (hs : ¬ s n) (content : Bytes) (time : Nat) :
    c'.disk.standing (c.config.snapshotFolder.joinText n) = some (.file content time) ↔
      c.disk.standing (c.config.snapshotFolder.joinText n) = some (.file content time) :=
  h.disk.standing_iff (fun hf => hs ((inFolder_spot hn).mp hf)) content time

end OnlyFiles

/-- Every run of an operation leaves the cache behind as `R` says. -/
def Leaves {ε α : Type} (R : Context → Context → Prop) (x : Operation ε α) (c : Context) : Prop :=
  R c (perform x c).2

theorem Leaves.bind {ε α β : Type} {R : Context → Context → Prop} {x : Operation ε α}
    {f : α → Operation ε β} {c : Context} (trans : ∀ {a b c}, R a b → R b c → R a c)
    (hx : Leaves R x c) (hf : ∀ a c', R c c' → Leaves R (f a) c') : Leaves R (x >>= f) c := by
  unfold Leaves at hx ⊢
  rw [perform_bind]
  rcases h : perform x c with ⟨r, c'⟩
  rw [h] at hx
  cases r with
  | error e => exact hx
  | ok a => exact trans hx (hf a c' hx)

namespace Context

theorem tell_disk (c : Context) (l : Level) (m : String) : (c.tell l m).disk = c.disk := by
  unfold tell disk Host.tell
  split <;> rfl

theorem tell_named (c : Context) (l : Level) (m : String) :
    (c.tell l m).host.named = c.host.named := by
  unfold tell Host.tell
  split <;> rfl

theorem tellAll_disk (c : Context) (records : List Record) :
    (c.tellAll records).disk = c.disk := by
  unfold tellAll disk Host.tellAll
  generalize c.host = host
  induction records generalizing host with
  | nil => rfl
  | cons r rs ih =>
      rw [List.foldl_cons, ih]
      unfold Host.tell
      split <;> rfl

theorem tell_onlyFiles (s : String → Prop) (c : Context) (l : Level) (m : String) :
    OnlyFiles s c (c.tell l m) :=
  .of_quiet ⟨rfl, rfl, rfl, rfl⟩ (tell_disk c l m)

theorem storeBody_onlyFiles (e : Entry) (script? : Option Bytes) {c : Context}
    (placed : e.WellPlaced c.config) :
    Leaves (OnlyFiles fun n => n = bodyName e.baseName ∨ n = readmeName)
      (storeBody e script?) c := by
  unfold Leaves storeBody
  split
  · rename_i path script hbody
    have hpath := placed.body path hbody
    subst hpath
    rcases hw : writeSnapshot (c.config.snapshotFolder.joinText (bodyName e.baseName)) script
      c.disk with ⟨err?, d⟩
    simp only [perform_bind, perform_get, hw, perform_modify]
    rcases writeSnapshot_sameBut (bodyName_plain placed.noSlash) script c.disk hw with
      ⟨rfl, same, -⟩ | ⟨err, rfl, same⟩
    · exact ⟨⟨rfl, rfl, rfl, rfl⟩, same⟩
    · have written : OnlyFiles (fun n => n = bodyName e.baseName ∨ n = readmeName)
          c (c.withDisk d) :=
        ⟨⟨rfl, rfl, rfl, rfl⟩, sameBut_of_readme _ same⟩
      dsimp only
      split
      · exact written
      · exact written.trans (tell_onlyFiles _ _ _ _)
  · exact .refl _ _

/-- Taking away what is left of a file, if that is possible. -/
theorem remove_onlyFiles {n : String} (hn : DiskPath.IsPlainName n) (c : Context) :
    OnlyFiles (· = n) c (c.withDisk
      ((c.disk.remove (c.config.snapshotFolder.joinText n)).toOption.getD c.disk)) := by
  cases hr : c.disk.remove (c.config.snapshotFolder.joinText n) with
  | error err => exact .refl _ _
  | ok d =>
      refine ⟨⟨rfl, rfl, rfl, rfl⟩, (Disk.remove_ok hr).1.mono ?_⟩
      rintro ns rfl
      exact (inFolder_spot hn).mpr rfl

theorem removeFile_onlyFiles {n : String} (hn : DiskPath.IsPlainName n) (c : Context) :
    Leaves (OnlyFiles (· = n)) (removeFile (c.config.snapshotFolder.joinText n)) c := by
  unfold Leaves removeFile
  rw [perform_bind_ok (perform_get c)]
  have removed := remove_onlyFiles hn c
  cases hr : c.disk.remove (c.config.snapshotFolder.joinText n) with
  | ok d =>
      rw [hr] at removed
      exact removed
  | error err =>
      dsimp only
      split
      · contradiction
      · exact .refl _ _
      · split
        · exact .refl _ _
        · exact tell_onlyFiles _ _ _ _

theorem removeEach_onlyFiles {s : String → Prop} {paths : List DiskPath} {c : Context}
    (h : ∀ p ∈ paths, ∃ n, s n ∧ DiskPath.IsPlainName n ∧ p = c.config.snapshotFolder.joinText n) :
    Leaves (OnlyFiles s) (removeEach paths) c := by
  induction paths generalizing c with
  | nil => exact .refl _ _
  | cons p ps ih =>
      obtain ⟨n, hs, hn, rfl⟩ := h p List.mem_cons_self
      have first : Leaves (OnlyFiles s) (removeFile (c.config.snapshotFolder.joinText n)) c :=
        (removeFile_onlyFiles hn c).mono (by rintro m rfl; exact hs)
      refine first.bind .trans fun _ c₁ h₁ => ?_
      refine (ih ?_).bind .trans fun _ c₂ _ => .refl s c₂
      rw [h₁.config]
      exact fun q hq => h q (List.mem_cons_of_mem _ hq)

/-- Deleting the files of an entry. -/
theorem removeFiles_onlyFiles (e : Entry) {c : Context} (placed : e.WellPlaced c.config) :
    Leaves (OnlyFiles fun n => n = pageName e.baseName ∨ n = bodyName e.baseName)
      (removeFiles e) c := by
  exact removeEach_onlyFiles fun _ => placed.mem_files

/-- Deleting the files of several entries. -/
theorem forM_removeFiles_onlyFiles {s : String → Prop} {es : List Entry} {c : Context}
    (placed : ∀ e ∈ es, e.WellPlaced c.config)
    (names : ∀ e ∈ es, ∀ n, n = pageName e.baseName ∨ n = bodyName e.baseName → s n) :
    Leaves (OnlyFiles s) (es.forM fun e => discard (removeFiles e)) c := by
  induction es generalizing c with
  | nil => exact .refl _ _
  | cons e es ih =>
      have first : Leaves (OnlyFiles s) (discard (removeFiles e)) c :=
        Leaves.bind .trans ((removeFiles_onlyFiles e (placed e List.mem_cons_self)).mono
          (names e List.mem_cons_self)) fun _ c₁ _ => .refl s c₁
      refine first.bind .trans fun _ c₁ h₁ => ih ?_ ?_
      · rw [h₁.config]
        exact fun e' he' => placed e' (List.mem_cons_of_mem _ he')
      · exact fun e' he' => names e' (List.mem_cons_of_mem _ he')

/-! ## What deleting files leaves alone -/

section

variable {R : Context → Context → Prop} (refl : ∀ c, R c c)
  (trans : ∀ {c₁ c₂ c₃}, R c₁ c₂ → R c₂ c₃ → R c₁ c₃)
  (disk : ∀ c d, R c (c.withDisk d)) (tell : ∀ c level message, R c (c.tell level message))

include refl disk tell

/-- Deleting a file changes other files, or none, and the log. -/
theorem removeFile_leaves (p : DiskPath) (c : Context) : Leaves R (removeFile p) c := by
  unfold Leaves removeFile
  rw [perform_bind_ok (perform_get c)]
  cases c.disk.remove p with
  | ok d => exact disk c d
  | error err =>
      dsimp only
      split
      · contradiction
      · exact refl c
      · split
        · exact refl c
        · exact tell c _ _

include trans

theorem removeEach_leaves (ps : List DiskPath) (c : Context) : Leaves R (removeEach ps) c := by
  induction ps generalizing c with
  | nil => exact refl c
  | cons p ps ih =>
      refine (removeFile_leaves refl disk tell p c).bind trans fun _ c₁ _ => ?_
      exact (ih c₁).bind trans fun _ c₂ _ => refl c₂

theorem forM_removeFiles_leaves (es : List Entry) (c : Context) :
    Leaves R (es.forM fun e => discard (removeFiles e)) c := by
  induction es generalizing c with
  | nil => exact refl c
  | cons e es ih =>
      refine Leaves.bind trans ?_ fun _ c₁ _ => ih c₁
      exact (removeEach_leaves refl trans disk tell e.files c).bind trans fun _ c₁ _ => refl c₁

end

end Context

end PageTemplates.Cache
