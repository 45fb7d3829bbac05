import PageTemplates.Proofs.Cache.Asking
import PageTemplates.Proofs.Disk.Removal

/-!
# Entries with files of their own

No two registered entries share a key or the name of a file. The main facts:

* `Orderly c`: the invariant, which unlike `Sound` says nothing about pages, and
  covers body scripts too;
* `Orderly.page`, `Orderly.register`, `Orderly.shrunk`: asking, registering and
  forgetting keep it;
* `perform_invalidate_ok`: what dropping entries does, when it succeeds.
-/

namespace PageTemplates.Cache

/-- A file that an entry has now it had before. -/
theorem Entry.SameTemplate.files_subset {e e' : Entry} (h : e.SameTemplate e') :
    e'.files ⊆ e.files := by
  intro p hp
  rw [Entry.files, List.mem_append, Option.mem_toList, Option.mem_toList] at hp ⊢
  rw [h.body] at hp
  exact hp.imp_left h.snapshot_eq

theorem Entry.SameTemplate.files_ne_nil {e e' : Entry} (h : e.SameTemplate e')
    (files : e'.files ≠ []) : e.files ≠ [] := by
  intro none
  exact files (List.subset_nil.mp (none ▸ h.files_subset))

/-- Entries of two names have no name of a file in common. -/
theorem baseName_eq {a b n : String} (ha : n = pageName a ∨ n = bodyName a)
    (hb : n = pageName b ∨ n = bodyName b) : a = b := by
  rcases ha with rfl | rfl <;> rcases hb with hb | hb
  · exact pageName_injective hb
  · exact absurd hb (pageName_ne_bodyName _ _)
  · exact absurd hb.symm (pageName_ne_bodyName _ _)
  · exact bodyName_injective hb

namespace Context

/-- Registered entries have keys of their own, and those that write files have
names of their own for them. -/
structure Orderly (c : Context) : Prop where
  known : c.NamesKnown
  once : (c.registered.map (·.1)).Nodup
  placed : ∀ i e, c.Registered i e → e.WellPlaced c.config
  named : ∀ i e, c.Registered i e → e.files ≠ [] → e.baseName ≠ ""
  apart : ∀ i j e e', c.Registered i e → c.Registered j e' → i ≠ j →
    e'.files ≠ [] → e'.baseName ≠ e.baseName

namespace Orderly

variable {c c' : Context}

/-- Entries that stay as they are keep the invariant. -/
theorem shrunk (h : Orderly c) (config : c'.config = c.config)
    (registered : c'.registered.Sublist c.registered) (entries : c'.entries = c.entries) :
    Orderly c' := by
  have before : ∀ {i e}, c'.Registered i e → c.Registered i e := by
    rintro i e ⟨⟨name, hn⟩, he⟩
    exact ⟨⟨name, registered.subset hn⟩, entries ▸ he⟩
  refine ⟨fun name i hn => ?_, h.once.sublist (registered.map _), fun i e hr => ?_,
    fun i e hr => h.named i e (before hr),
    fun i j e e' hi hj => h.apart i j e e' (before hi) (before hj)⟩
  · rw [entries]
    exact h.known name i (registered.subset hn)
  · rw [config]
    exact h.placed i e (before hr)

/-- Work on one entry keeps the invariant. -/
theorem page (h : Orderly c) {i : Nat} {e : Entry} (hi : c.Registered i e)
    (only : OnlyEntry i e c c') : Orderly c' := by
  obtain ⟨e', here', same⟩ := only.own
  have before : ∀ {j e₁}, c'.Registered j e₁ → j = i ∧ e₁ = e' ∨ j ≠ i ∧ c.Registered j e₁ :=
    registered_of_onlyEntry only here'
  refine ⟨h.known.onlyEntry hi.2 only, only.registered ▸ h.once, ?_, ?_, ?_⟩
  · intro j e₁ hr
    rw [only.config]
    rcases before hr with ⟨rfl, rfl⟩ | ⟨-, hr⟩
    · exact same.wellPlaced (h.placed _ e hi)
    · exact h.placed j e₁ hr
  · intro j e₁ hr files
    rcases before hr with ⟨rfl, rfl⟩ | ⟨-, hr⟩
    · rw [same.baseName]
      exact h.named _ e hi (same.files_ne_nil files)
    · exact h.named j e₁ hr files
  · intro j k e₁ e₂ hj hk hne files
    rcases before hj with ⟨rfl, rfl⟩ | ⟨hji, hj⟩ <;> rcases before hk with ⟨rfl, rfl⟩ | ⟨hki, hk⟩
    · exact absurd rfl hne
    · rw [same.baseName]
      exact h.apart _ k e e₂ hi hk hne files
    · rw [same.baseName]
      exact h.apart j _ e₁ e hj hi hne (same.files_ne_nil files)
    · exact h.apart j k e₁ e₂ hj hk hne files

/-- Registering keeps the invariant, if a name that is made up for the new entry's
files is one that no other entry has. -/
theorem register (h : Orderly c) {templateId : String} {source : Source}
    (mode? : Option CacheMode)
    (fresh : (c.register templateId source mode?).2.host.named ≠ c.host.named →
      ∀ i e, c.Registered i e → e.baseName ≠ Names.snapshot templateId (c.host.named + 1)) :
    Orderly (c.register templateId source mode?).2 := by
  rcases c.register_cases templateId source mode? with same | ⟨number, unique, added⟩
  · rwa [same]
  · -- a template that is served as it is has no name and no files
    have made : (Entry.make c.config (c.modeOf mode?) templateId source number).baseName = "" ∧
          (Entry.make c.config (c.modeOf mode?) templateId source number).files = [] ∨
        (Entry.make c.config (c.modeOf mode?) templateId source number).baseName
            = Names.snapshot templateId (c.host.named + 1) ∧
          ∀ i e, c.Registered i e → e.baseName ≠ Names.snapshot templateId (c.host.named + 1) := by
      by_cases basic : c.modeOf mode? = .basic
      · rw [basic]
        exact .inl ⟨rfl, rfl⟩
      · obtain ⟨rfl, named⟩ := unique.resolve_left basic
        have unused := fresh (by omega)
        cases mode : c.modeOf mode? with
        | basic => exact absurd mode basic
        | compiled | browserCacheable => exact .inr ⟨rfl, unused⟩
    have placed := make_wellPlaced c.config (c.modeOf mode?) templateId source number
    generalize Entry.make c.config (c.modeOf mode?) templateId source number = new
      at added made placed
    have before : ∀ {i e}, (c.register templateId source mode?).2.Registered i e →
        i = c.entries.size ∧ e = new ∨ i ≠ c.entries.size ∧ c.Registered i e :=
      added.registered_before h.known
    -- each entry is the new one or was there before, which is enough to tell names apart
    refine ⟨added.known h.known, added.once h.once, ?_, ?_, ?_⟩
    · intro i e hr
      rw [added.config]
      rcases before hr with ⟨rfl, rfl⟩ | ⟨-, hr⟩
      · exact placed
      · exact h.placed i e hr
    · intro i e hr files
      rcases before hr with ⟨rfl, rfl⟩ | ⟨-, hr⟩
      · rcases made with ⟨-, none⟩ | ⟨name, -⟩
        · exact absurd none files
        · rw [name]
          exact snapshot_ne_empty _ _
      · exact h.named i e hr files
    · intro i j e e' hi hj hne files
      rcases before hi with ⟨rfl, rfl⟩ | ⟨-, hi⟩ <;> rcases before hj with ⟨rfl, rfl⟩ | ⟨-, hj⟩
      · exact absurd rfl hne
      · rcases made with ⟨name, -⟩ | ⟨name, unused⟩
        · rw [name]
          exact h.named j e' hj files
        · rw [name]
          exact unused j e' hj
      · rcases made with ⟨-, none⟩ | ⟨name, unused⟩
        · exact absurd none files
        · rw [name]
          exact (unused i e hi).symm
      · exact h.apart i j e e' hi hj hne files

/-- Nothing is out of order as long as nothing is registered. -/
theorem of_empty (empty : c.registered = []) : Orderly c := by
  have none : ∀ {i e}, ¬ c.Registered i e := by
    rintro i e ⟨⟨name, hn⟩, -⟩
    rw [empty] at hn
    cases hn
  refine ⟨fun name i hn => ?_, ?_, fun _ _ hr => (none hr).elim, fun _ _ hr => (none hr).elim,
    fun _ _ _ _ hr => (none hr).elim⟩
  · rw [empty] at hn
    cases hn
  · rw [empty]
    exact List.nodup_nil

end Orderly

theorem orderly_start {config : Config} {host : Host} {c : Context}
    (h : Context.start config host = .ok c) : Orderly c :=
  .of_empty (start_registered h)

/-! ## Dropping entries -/

/-- From `c` to `c'` just the files went away that one of the paths led to. -/
structure Cleared (ps : List DiskPath) (c c' : Context) : Prop extends c.SameEntries c' where
  gone : Disk.FilesGone ps c.disk c'.disk

namespace Cleared

variable {ps qs : List DiskPath} {c c' c'' : Context}

theorem nil (c : Context) : Cleared [] c c := ⟨⟨rfl, rfl, rfl, rfl⟩, .refl fun _ hp => by cases hp⟩

theorem trans (h : Cleared ps c c') (h' : Cleared qs c' c'') : Cleared (ps ++ qs) c c'' :=
  ⟨⟨h'.config.trans h.config, h'.memory.trans h.memory, h'.entries.trans h.entries,
    h'.registered.trans h.registered⟩, h.gone.trans h'.gone⟩

end Cleared

theorem removeFile_cleared {p : DiskPath} {c c' : Context} {n : Nat}
    (h : perform (removeFile p) c = (.ok n, c')) : Cleared [p] c c' := by
  unfold removeFile at h
  rw [perform_bind_ok (perform_get c)] at h
  cases hr : c.disk.remove p with
  | ok d =>
      rw [hr] at h
      cases h
      exact ⟨⟨rfl, rfl, rfl, rfl⟩, Disk.remove_filesGone hr⟩
  | error err =>
      have kept := Disk.remove_error_filesGone hr
      rw [hr] at h
      dsimp only at h
      split at h
      · contradiction
      · cases h
        exact ⟨⟨rfl, rfl, rfl, rfl⟩, kept⟩
      · split at h
        · cases h
        · cases h
          exact ⟨⟨rfl, rfl, rfl, rfl⟩, by rwa [tell_disk]⟩

theorem removeEach_cleared {ps : List DiskPath} {c c' : Context} {n : Nat}
    (h : perform (removeEach ps) c = (.ok n, c')) : Cleared ps c c' := by
  induction ps generalizing c n with
  | nil => cases h; exact .nil _
  | cons p ps ih =>
      unfold removeEach at h
      obtain ⟨m, c₁, first, h⟩ := perform_bind_eq_ok.mp h
      obtain ⟨k, c₂, rest, h⟩ := perform_bind_eq_ok.mp h
      cases h
      exact (removeFile_cleared first).trans (ih rest)

theorem forM_removeFiles_cleared {es : List Entry} {c c' : Context}
    (h : perform (es.forM fun e => discard (removeFiles e)) c = (.ok (), c')) :
    Cleared (es.flatMap Entry.files) c c' := by
  induction es generalizing c with
  | nil => cases h; exact .nil _
  | cons e es ih =>
      obtain ⟨_, c₁, first, h⟩ := perform_bind_eq_ok.mp h
      obtain ⟨n, c₂, removed, first⟩ := perform_bind_eq_ok.mp first
      cases first
      exact (removeEach_cleared removed).trans (ih h)

/-- Dropping entries, if it is not given up half way, takes their files away. -/
theorem perform_invalidate_ok {c c' : Context} {templateId? : Option String} {names : List String}
    (h : perform (invalidate templateId?) c = (.ok names, c')) :
    Cleared ((c.droppedEntries templateId?).flatMap Entry.files) (c.unregister templateId?) c' := by
  rw [perform_invalidate] at h
  obtain ⟨_, c₁, removed, h⟩ := perform_bind_eq_ok.mp h
  cases h
  exact forM_removeFiles_cleared removed

/-- Only a path that nothing can have keeps a file from being deleted. -/
theorem removeFile_ok {p : DiskPath} (possible : ¬ p.hasNul) (c : Context) :
    ∃ n c', perform (removeFile p) c = (.ok n, c') := by
  unfold removeFile
  rw [perform_bind_ok (perform_get c)]
  cases hr : c.disk.remove p with
  | ok d => exact ⟨_, _, rfl⟩
  | error err =>
      have refused : err.isRefusal := by
        by_contra nul
        obtain rfl : err = .nulInPath := eq_nulInPath (by simpa using nul)
        exact possible (Disk.hasNul_of_remove hr)
      dsimp only
      split
      · contradiction
      · exact ⟨_, _, rfl⟩
      · rename_i given
        cases given
        rw [refused]
        exact ⟨_, _, rfl⟩

theorem removeEach_ok {ps : List DiskPath} (possible : ∀ p ∈ ps, ¬ p.hasNul) (c : Context) :
    ∃ n c', perform (removeEach ps) c = (.ok n, c') := by
  induction ps generalizing c with
  | nil => exact ⟨_, _, rfl⟩
  | cons p ps ih =>
      rw [List.forall_mem_cons] at possible
      obtain ⟨n, c₁, first⟩ := removeFile_ok possible.1 c
      obtain ⟨m, c₂, rest⟩ := ih possible.2 c₁
      exact ⟨n + m, c₂, perform_bind_eq_ok.mpr ⟨n, c₁, first,
        perform_bind_eq_ok.mpr ⟨m, c₂, rest, rfl⟩⟩⟩

theorem invalidate_ok {c : Context} (templateId? : Option String)
    (possible : ∀ e ∈ c.droppedEntries templateId?, ∀ p ∈ e.files, ¬ p.hasNul) :
    ∃ names c', perform (invalidate templateId?) c = (.ok names, c') := by
  have removed : ∀ {es : List Entry}, (∀ e ∈ es, ∀ p ∈ e.files, ¬ p.hasNul) → ∀ c,
      ∃ c', perform (es.forM fun e => discard (removeFiles e)) c = (.ok (), c') := by
    intro es possible
    induction es with
    | nil => exact fun c => ⟨c, rfl⟩
    | cons e es ih =>
        intro c
        rw [List.forall_mem_cons] at possible
        obtain ⟨n, c₁, first⟩ := removeEach_ok possible.1 c
        obtain ⟨c₂, rest⟩ := ih possible.2 c₁
        refine ⟨c₂, perform_bind_eq_ok.mpr ⟨(), c₁, ?_, rest⟩⟩
        exact perform_bind_eq_ok.mpr ⟨n, c₁, first, rfl⟩
  obtain ⟨c', done⟩ := removed possible (c.unregister templateId?)
  rw [perform_invalidate]
  exact ⟨_, c', perform_bind_eq_ok.mpr ⟨(), c', done, rfl⟩⟩

end Context

end PageTemplates.Cache
