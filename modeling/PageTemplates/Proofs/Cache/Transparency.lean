import Mathlib.Data.List.Nodup
import Mathlib.Logic.Relation
import PageTemplates.Proofs.Cache.Loading
import PageTemplates.Proofs.Text.Ascii

/-!
# The cache cannot be noticed

Whoever asks for a page gets what its source is compiled to at that moment,
wherever the page is taken from. The main facts:

* `Coherent c e`: the source of a loaded entry is not older than the page, and
  if it is not newer either, the entry holds the page it is compiled to;
* `Sound`: the invariant of a cache, with every registered entry coherent and
  no two of them sharing a key or a file;
* `Sound.step`: asking for pages, registering, dropping, and what others do to
  the files keeps a cache sound;
* `page_eq_compiled`: in every run, a page that is given is the one that its
  source is compiled to.
-/

namespace PageTemplates.Cache

namespace Context

/-! ## Coherent entries -/

/-- What an entry can be asked for without compiling is what its source is
compiled to, unless the source has become newer. -/
def Coherent (c : Context) (e : Entry) : Prop :=
  ∀ time, e.lastLoad = some time → ∃ names data t,
    c.disk.file e.source.path = .ok (names, data, t) ∧ time ≤ t ∧
      (t = time → ∃ p, (e.compile c.config data).value = .ok p ∧ Holds c e p.artifact)

/-- The source at a path is as it was or newer. -/
def Renewed (path : DiskPath) (d d' : Disk) : Prop :=
  ∀ names data t, d.file path = .ok (names, data, t) → ∃ names' data' t',
    d'.file path = .ok (names', data', t') ∧ (data' = data ∧ t' = t ∨ t < t')

theorem Renewed.of_sameBut {path : DiskPath} {d d' : Disk} {s : List String → Prop}
    (h : Disk.SameBut s d d') (hs : ¬ s (d.spot path)) : Renewed path d d' := by
  intro names data t hf
  exact ⟨names, data, t, h.file_eq hs hf, .inl ⟨rfl, rfl⟩⟩

/-- An entry stays coherent when nothing comes up that it could be asked for. -/
theorem Coherent.mono {c c' : Context} {e : Entry} (h : Coherent c e)
    (config : c'.config = c.config) (source : Renewed e.source.path c.disk c'.disk)
    (hu : Untouched c c' e e) : Coherent c' e := by
  intro time hl
  obtain ⟨names, data, t, hf, hle, fresh⟩ := h time hl
  obtain ⟨names', data', t', hf', hsame⟩ := source names data t hf
  refine ⟨names', data', t', hf', ?_⟩
  rcases hsame with ⟨rfl, rfl⟩ | hlt
  · refine ⟨hle, fun ht => ?_⟩
    obtain ⟨p, hp, holds⟩ := fresh ht
    rw [config]
    exact ⟨p, hp, holds.of_untouched rfl hu holds.modelInit holds.modelEnd⟩
  · exact ⟨by omega, fun ht => by omega⟩

theorem Coherent.of_quiet {c c' : Context} {e : Entry} (h : Coherent c e)
    (kept : SameEntries c c') (disk : c'.disk = c.disk) : Coherent c' e := by
  refine h.mono kept.config ?_ (.of_quiet kept disk)
  intro names data t hf
  exact ⟨names, data, t, disk ▸ hf, .inl ⟨rfl, rfl⟩⟩

/-- A path that does not lead into the snapshot folder. -/
def Outlying (c : Context) (path : DiskPath) : Prop :=
  (c.disk.here.resolve path).isBelow (c.disk.here.resolve c.config.snapshotFolder) = false

/-- Such a path is not one of a file that an entry writes. -/
theorem Outlying.not_inFolder {c : Context} {path : DiskPath} (h : c.Outlying path)
    (s : String → Prop) : ¬ inFolder c.config c.disk s (c.disk.spot path) := by
  rintro ⟨n, -, hn⟩
  have hroot : ∀ p, (c.disk.here.resolve p).root = "/" := fun _ => rfl
  have hpre : ∀ ns : List String, ns.isPrefixOf (ns ++ [n]) = true := by
    intro ns
    exact List.isPrefixOf_iff_prefix.mpr (List.prefix_append _ _)
  unfold Outlying DiskPath.isBelow at h
  unfold Disk.spot at hn
  simp [hn, hroot, hpre] at h

/-! ## Asking for a page -/

/-- What a call for the page of an entry is to do: it works on that entry
alone, leaves it coherent, and gives only what the source is compiled to. -/
structure Answers (i : Nat) (e : Entry) (c c' : Context) (r : Except Failure Artifact) : Prop where
  only : OnlyEntry i e c c'
  coherent : ∃ e', c'.entries[i]? = some e' ∧ Coherent c' e'
  answer : ∀ a, r = .ok a → ∃ time p, Compiles c e time p ∧ a = p.artifact

/-- Compiling leaves an entry coherent, whether it succeeds or not. -/
theorem load_answers {i : Nat} {e : Entry} {c c' : Context} {r : Except Failure Artifact}
    (here : c.entries[i]? = some e) (placed : e.WellPlaced c.config)
    (apart : c.Outlying e.source.path)
    (coherent : Coherent c e) (h : perform (load i e) c = (r, c')) : Answers i e c c' r := by
  obtain ⟨only, e', here', ending⟩ := load_effect here placed h
  obtain ⟨e'', here'', same⟩ := only.own
  obtain rfl : e' = e'' := Option.some.inj (here'.symm.trans here'')
  have kept : ∀ {names data t}, c.disk.file e.source.path = .ok (names, data, t) →
      c'.disk.file e'.source.path = .ok (names, data, t) := by
    intro names data t hf
    rw [same.source]
    exact only.disk.file_eq (apart.not_inFolder _) hf
  cases ending with
  | @loaded time p compiles lastLoad holds =>
      refine ⟨only, ⟨e', here', ?_⟩, fun a ha => ⟨time, p, compiles, (Except.ok.inj ha).symm⟩⟩
      obtain ⟨names, data, hf, hv⟩ := compiles
      intro time' hl
      obtain rfl : time = time' := Option.some.inj (lastLoad.symm.trans hl)
      refine ⟨names, data, time, kept hf, Nat.le_refl _, fun _ => ⟨p, ?_, holds⟩⟩
      rw [same.compile_eq, only.config]
      exact hv
  | failed untouched bounds =>
      refine ⟨only, ⟨e', here', ?_⟩, fun a ha => by cases ha⟩
      intro time hl
      rw [untouched.lastLoad] at hl
      obtain ⟨names, data, t, hf, hle, fresh⟩ := coherent time hl
      refine ⟨names, data, t, kept hf, hle, fun ht => ?_⟩
      obtain ⟨p, hp, holds⟩ := fresh ht
      refine ⟨p, ?_, ?_⟩
      · rw [same.compile_eq, only.config]
        exact hp
      -- new bounds come from the same source, so they are the ones that were held
      have hb : e'.modelInit = p.artifact.modelInit ∧ e'.modelEnd = p.artifact.modelEnd := by
        rcases bounds with ⟨hi, he⟩ | ⟨t', p', ⟨names', data', hf', hv'⟩, hi, he⟩
        · exact ⟨hi.trans holds.modelInit, he.trans holds.modelEnd⟩
        · rw [hf] at hf'
          cases hf'
          rw [hp] at hv'
          cases hv'
          exact ⟨hi, he⟩
      exact holds.of_untouched same.key_eq untouched hb.1 hb.2

/-- A record in the log before compiling makes no difference. -/
theorem tell_load_answers {i : Nat} {e : Entry} {c c' : Context} {r : Except Failure Artifact}
    {level : Level} {message : String} (here : c.entries[i]? = some e)
    (placed : e.WellPlaced c.config) (apart : c.Outlying e.source.path) (coherent : Coherent c e)
    (h : perform (load i e) (c.tell level message) = (r, c')) : Answers i e c c' r := by
  have disk := tell_disk c level message
  have apart' : (c.tell level message).Outlying e.source.path := by
    unfold Outlying at apart ⊢
    rw [disk]
    exact apart
  have told := load_answers (c := c.tell level message) here placed apart'
    (coherent.of_quiet ⟨rfl, rfl, rfl, rfl⟩ disk) h
  refine ⟨?_, told.coherent, fun a ha => ?_⟩
  · exact (OnlyEntry.of_onlyFiles here (.refl e) (tell_onlyFiles (fun _ => False) c level message)
      fun _ hn => hn.elim).trans told.only
  · obtain ⟨time, p, ⟨names, data, hf, hv⟩, hp⟩ := told.answer a ha
    exact ⟨time, p, ⟨names, data, disk ▸ hf, hv⟩, hp⟩

/-- A snapshot of a page that the entry holds gives the page. -/
theorem readSnapshot_of_holds {c : Context} {e : Entry} {a b : Artifact} (holds : Holds c e a)
    (h : c.readSnapshot e = .ok b) : b = a := by
  unfold readSnapshot at h
  split at h
  · cases h
  · rename_i path hpath
    split at h
    · cases h
    · rename_i content hr
      split at h
      · cases h
      · cases h
        obtain ⟨names, time, hf⟩ := Disk.read_ok_iff.mp hr
        have hc := holds.snapshot path hpath content time (Disk.standing_of_file hf).2.2
        rw [hc, holds.modelInit, holds.modelEnd]

/-- An entry whose page is as new as its source. -/
theorem holds_of_fresh {c : Context} {e : Entry} {time : Nat} (coherent : Coherent c e)
    (loaded : e.lastLoad = some time) (fresh : e.isStale c.disk = .ok false) :
    ∃ p, Compiles c e time p ∧ Holds c e p.artifact := by
  obtain ⟨names, data, t, hf, hle, held⟩ := coherent time loaded
  have ht : ¬ time < t := by
    simpa [Entry.isStale, loaded, Source.modified, Disk.modified_of_file hf, bind, Except.bind,
      pure, Except.pure] using fresh
  obtain rfl : t = time := by omega
  obtain ⟨p, hp, holds⟩ := held rfl
  exact ⟨p, ⟨names, data, hf, hp⟩, holds⟩

/-- An answer from what the entry holds, which at most is put into memory. -/
theorem held_answers {i : Nat} {e : Entry} {c c' : Context} {time : Nat}
    {p : Compile.Compilation} (here : c.entries[i]? = some e) (coherent : Coherent c e)
    (compiles : Compiles c e time p) (holds : Holds c e p.artifact)
    {memory : Recency EntryKey Artifact} (hc : c' = { c with memory })
    (own : ∀ v, (e.key, v) ∈ memory.held → (e.key, v) ∈ c.memory.held ∨ v = some p.artifact)
    (others : ∀ k v, k ≠ e.key → (k, v) ∈ memory.held → (k, v) ∈ c.memory.held) :
    Answers i e c c' (.ok p.artifact) := by
  subst hc
  refine ⟨⟨rfl, rfl, fun _ _ => rfl, ⟨e, here, .refl e⟩, others, .refl _ _⟩, ⟨e, here, ?_⟩, ?_⟩
  · intro time' hl
    obtain ⟨names, data, t, hf, hle, fresh⟩ := coherent time' hl
    refine ⟨names, data, t, hf, hle, fun ht => ?_⟩
    obtain ⟨p', hp', holds'⟩ := fresh ht
    obtain ⟨names', data', hf', hv⟩ := compiles
    rw [hf] at hf'
    cases hf'
    rw [hp'] at hv
    cases hv
    refine ⟨p, hp', ⟨fun b hb => ?_, holds.modelInit, holds.modelEnd, holds.snapshot⟩⟩
    rcases own _ hb with hm | hm
    · exact holds.memory b hm
    · exact Option.some.inj hm
  · intro a ha
    exact ⟨time, p, compiles, (Except.ok.inj ha).symm⟩

/-- A failure that leaves the cache as it was. -/
theorem failed_answers {i : Nat} {e : Entry} {c : Context} (err : Failure)
    (here : c.entries[i]? = some e) (coherent : Coherent c e) : Answers i e c c (.error err) :=
  ⟨.of_onlyFiles here (.refl e) (.refl (fun _ => False) c) fun _ hn => hn.elim,
    ⟨e, here, coherent⟩, fun a ha => by cases ha⟩

theorem pageOf_answers {i : Nat} {e : Entry} {c c' : Context} {r : Except Failure Artifact}
    (here : c.entries[i]? = some e) (placed : e.WellPlaced c.config)
    (apart : c.Outlying e.source.path)
    (coherent : Coherent c e) (h : perform (pageOf i e) c = (r, c')) : Answers i e c c' r := by
  unfold pageOf at h
  rw [perform_bind_ok (perform_get c)] at h
  cases hl : e.lastLoad with
  | none =>
      rw [hl] at h
      exact load_answers here placed apart coherent h
  | some time =>
      simp only [hl, Option.isNone_some, Bool.false_eq_true, if_false] at h
      cases hs : e.isStale c.disk with
      | error err =>
          rw [hs] at h
          cases h
          exact failed_answers _ here coherent
      | ok stale =>
          rw [hs, liftDisk] at h
          rw [perform_bind_ok (perform_pure _ _)] at h
          cases stale with
          | true =>
              -- the source is newer than the page
              rw [if_pos rfl, perform_bind_ok (perform_modify _ _)] at h
              exact tell_load_answers here placed apart coherent h
          | false =>
              obtain ⟨p, compiles, holds⟩ := holds_of_fresh coherent hl hs
              rw [if_neg Bool.false_ne_true] at h
              split at h
              · -- the page is in memory
                rename_i page memory hget
                cases h
                have hfind : c.memory.find? e.key = some page := by
                  unfold Recency.get at hget
                  split at hget
                  · cases hget
                  · rename_i v hv
                    cases hget
                    exact hv
                have hmem : ∀ x ∈ memory.held, x ∈ c.memory.held := by
                  intro x hx
                  refine Recency.mem_of_mem_get (k := e.key) ?_
                  rw [hget]
                  exact hx
                obtain rfl := holds.memory page (Recency.mem_of_find? hfind)
                exact held_answers here coherent compiles holds rfl
                  (fun v hv => .inl (hmem _ hv)) fun k v _ hv => hmem _ hv
              · split at h
                · exact load_answers here placed apart coherent h
                · split at h
                  · -- memory has forgotten the page, but the snapshot is there
                    rename_i page hread
                    obtain rfl := readSnapshot_of_holds holds hread
                    cases h
                    refine held_answers here coherent compiles holds rfl ?_ ?_
                    · intro v hv
                      rcases Recency.mem_of_mem_insert hv with ⟨-, rfl⟩ | ⟨hne, -⟩
                      · exact .inr rfl
                      · exact absurd rfl hne
                    · intro k v hk hv
                      rcases Recency.mem_of_mem_insert hv with ⟨rfl, -⟩ | ⟨-, hm⟩
                      · exact absurd rfl hk
                      · exact hm
                  · cases h
                    exact failed_answers _ here coherent
                  · rw [perform_bind_ok (perform_modify _ _)] at h
                    exact tell_load_answers here placed apart coherent h

/-! ## The invariant -/

/-- The entry of a number is in use. -/
def Registered (c : Context) (i : Nat) (e : Entry) : Prop :=
  (∃ name, (name, i) ∈ c.registered) ∧ c.entries[i]? = some e

/-- Entries are registered under the names of their keys. -/
def NamesKnown (c : Context) : Prop :=
  ∀ name i, (name, i) ∈ c.registered → ∃ e, c.entries[i]? = some e ∧ name = e.key.name

/-- Registered entries have keys of their own. -/
theorem NamesKnown.key_ne {c : Context} (known : c.NamesKnown)
    (once : (c.registered.map (·.1)).Nodup) {i j : Nat} {e e' : Entry}
    (hi : c.Registered i e) (hj : c.Registered j e') (hne : i ≠ j) : e'.key ≠ e.key := by
  intro hk
  obtain ⟨⟨n, hn⟩, hei⟩ := hi
  obtain ⟨⟨m, hm⟩, hej⟩ := hj
  obtain ⟨e₁, he₁, rfl⟩ := known n i hn
  obtain ⟨e₂, he₂, rfl⟩ := known m j hm
  obtain rfl : e = e₁ := Option.some.inj (hei.symm.trans he₁)
  obtain rfl : e' = e₂ := Option.some.inj (hej.symm.trans he₂)
  rw [hk] at hm
  have hpair := List.inj_on_of_nodup_map once hn hm rfl
  exact hne (Prod.mk.inj hpair).2

theorem NamesKnown.onlyEntry {c c' : Context} (known : c.NamesKnown) {i : Nat} {e : Entry}
    (here : c.entries[i]? = some e) (only : OnlyEntry i e c c') : c'.NamesKnown := by
  intro name j hn
  rw [only.registered] at hn
  obtain ⟨e₁, he₁, rfl⟩ := known name j hn
  by_cases hj : j = i
  · subst hj
    obtain rfl : e = e₁ := Option.some.inj (here.symm.trans he₁)
    obtain ⟨e', here', same⟩ := only.own
    exact ⟨e', here', by rw [same.key_eq]⟩
  · exact ⟨e₁, only.others j hj ▸ he₁, rfl⟩

/-- After work on one entry, that entry is registered as it is now and the others
as before. -/
theorem registered_of_onlyEntry {i j : Nat} {e e' e₁ : Entry} {c c' : Context}
    (only : OnlyEntry i e c c') (here : c'.entries[i]? = some e') (h : c'.Registered j e₁) :
    j = i ∧ e₁ = e' ∨ j ≠ i ∧ c.Registered j e₁ := by
  obtain ⟨hn, he⟩ := h
  by_cases hj : j = i
  · subst hj
    exact .inl ⟨rfl, Option.some.inj (he.symm.trans here)⟩
  · exact .inr ⟨hj, only.registered ▸ hn, only.others j hj ▸ he⟩

/-- The invariant of a cache. Entries are registered under the names of their
keys, no two of them under one name or with one snapshot. -/
structure Sound (c : Context) : Prop where
  known : ∀ name i, (name, i) ∈ c.registered → ∃ e, c.entries[i]? = some e ∧ name = e.key.name
  once : (c.registered.map (·.1)).Nodup
  placed : ∀ i e, c.Registered i e → e.WellPlaced c.config
  apart : ∀ i j e e', c.Registered i e → c.Registered j e' → i ≠ j →
    e'.snapshot ≠ none → e'.baseName ≠ e.baseName
  outlying : ∀ i e, c.Registered i e → c.Outlying e.source.path
  coherent : ∀ i e, c.Registered i e → c.Coherent e

/-- The entries that stay registered keep the invariant if none of them can be
asked for anything new. -/
theorem Sound.mono {c c' : Context} (h : Sound c) (config : c'.config = c.config)
    (here : c'.disk.here = c.disk.here) (registered : c'.registered.Sublist c.registered)
    (entries : c'.entries = c.entries)
    (sources : ∀ i e, c'.Registered i e → Renewed e.source.path c.disk c'.disk)
    (untouched : ∀ i e, c'.Registered i e → Untouched c c' e e) : Sound c' := by
  have before : ∀ {i e}, c'.Registered i e → c.Registered i e := by
    rintro i e ⟨⟨name, hn⟩, he⟩
    exact ⟨⟨name, registered.subset hn⟩, entries ▸ he⟩
  refine ⟨?_, h.once.sublist (registered.map _), ?_, ?_, ?_, ?_⟩
  · intro name i hn
    rw [entries]
    exact h.known name i (registered.subset hn)
  · intro i e hr
    rw [config]
    exact h.placed i e (before hr)
  · intro i j e e' hi hj
    exact h.apart i j e e' (before hi) (before hj)
  · intro i e hr
    unfold Outlying
    rw [here, config]
    exact h.outlying i e (before hr)
  · intro i e hr
    exact (h.coherent i e (before hr)).mono config (sources i e hr) (untouched i e hr)

/-- Asking for a page keeps the invariant: the other entries have other keys
and other files. -/
theorem Sound.page {c c' : Context} (h : Sound c) {i : Nat} {e : Entry} (hi : c.Registered i e)
    {r : Except Failure Artifact} (answers : Answers i e c c' r) : Sound c' := by
  obtain ⟨only, ⟨e', here', coherent⟩, -⟩ := answers
  obtain ⟨e'', here'', same⟩ := only.own
  obtain rfl : e' = e'' := Option.some.inj (here'.symm.trans here'')
  have before : ∀ {j e₁}, c'.Registered j e₁ → j = i ∧ e₁ = e' ∨ j ≠ i ∧ c.Registered j e₁ :=
    registered_of_onlyEntry only here'
  have outlying : ∀ path, c.Outlying path → c'.Outlying path := by
    intro path ho
    unfold Outlying at ho ⊢
    rwa [only.disk.here, only.config]
  -- only this entry has changed, and others have files and keys of their own
  refine ⟨NamesKnown.onlyEntry h.known hi.2 only, only.registered ▸ h.once, ?_, ?_, ?_, ?_⟩
  · intro j e₁ hr
    rw [only.config]
    rcases before hr with ⟨rfl, rfl⟩ | ⟨-, hr⟩
    · exact same.wellPlaced (h.placed _ e hi)
    · exact h.placed j e₁ hr
  · intro j k e₁ e₂ hj hk hne hs
    rcases before hj with ⟨rfl, rfl⟩ | ⟨hji, hj⟩ <;> rcases before hk with ⟨rfl, rfl⟩ | ⟨hki, hk⟩
    · exact absurd rfl hne
    · rw [same.baseName]
      exact h.apart _ k e e₂ hi hk hne hs
    · rw [same.baseName]
      exact h.apart j _ e₁ e hj hi hne (same.snapshot_ne_none hs)
    · exact h.apart j k e₁ e₂ hj hk hne hs
  · intro j e₁ hr
    rcases before hr with ⟨rfl, rfl⟩ | ⟨-, hr⟩
    · rw [same.source]
      exact outlying _ (h.outlying _ e hi)
    · exact outlying _ (h.outlying j e₁ hr)
  · intro j e₁ hr
    rcases before hr with ⟨rfl, rfl⟩ | ⟨hji, hj⟩
    · exact coherent
    · refine (h.coherent j e₁ hj).mono only.config
        (.of_sameBut only.disk ((h.outlying j e₁ hj).not_inFolder _)) ⟨rfl, ?_, ?_⟩
      · intro b hb
        exact only.memory _ _ (NamesKnown.key_ne h.known h.once hi hj hji.symm) hb
      · intro p hp
        refine ⟨hp, fun content time => ?_⟩
        have placed := h.placed j e₁ hj
        rw [placed.snapshot p hp]
        refine (only.disk.standing_iff ?_ content time).mp
        rw [inFolder_spot (pageName_plain placed.noSlash)]
        rintro (hn | hn | hn)
        · exact h.apart i j e e₁ hi hj hji.symm (by simp [hp]) (pageName_injective hn)
        · exact pageName_ne_bodyName _ _ hn
        · exact pageName_ne_readmeName _ hn

/-- Whether a registered entry goes when a template is dropped, or all are. -/
def isDropped (c : Context) (templateId? : Option String) (r : String × Nat) : Bool :=
  templateId?.all fun id => (c.entryAt? r.2).any (·.templateId == id)

/-- The entries that go. -/
def droppedEntries (c : Context) (templateId? : Option String) : List Entry :=
  (c.registered.filter (c.isDropped templateId?)).filterMap fun r => c.entryAt? r.2

/-- The cache before the files of the dropped entries are deleted. -/
def unregister (c : Context) (templateId? : Option String) : Context :=
  { c with
    registered := c.registered.filter (!c.isDropped templateId? ·)
    memory := (c.droppedEntries templateId?).foldl (fun m e => m.erase e.key) c.memory }

theorem perform_invalidate (c : Context) (templateId? : Option String) :
    perform (invalidate templateId?) c = perform (do
      (c.droppedEntries templateId?).forM fun e => discard (removeFiles e)
      return (c.registered.filter (c.isDropped templateId?)).map (·.1))
      (c.unregister templateId?) := rfl

/-- Once the entries are gone, dropping them changes only files and the log. -/
theorem invalidate_leaves {R : Context → Context → Prop} (refl : ∀ c, R c c)
    (trans : ∀ {c₁ c₂ c₃}, R c₁ c₂ → R c₂ c₃ → R c₁ c₃) (disk : ∀ c d, R c (c.withDisk d))
    (tell : ∀ c level message, R c (c.tell level message)) (c : Context)
    (templateId? : Option String) :
    R (c.unregister templateId?) (perform (invalidate templateId?) c).2 := by
  rw [perform_invalidate]
  exact (forM_removeFiles_leaves refl trans disk tell (c.droppedEntries templateId?) _).bind trans
    fun _ c₁ _ => refl c₁

/-- Dropping entries deletes files of theirs, and nothing else happens after they are
gone. -/
theorem invalidate_onlyFiles {c c' : Context} {templateId? : Option String}
    {r : Except DiskError (List String)}
    (placed : ∀ e ∈ c.droppedEntries templateId?, e.WellPlaced c.config)
    (h : perform (Context.invalidate templateId?) c = (r, c')) :
    OnlyFiles (fun n => ∃ e ∈ c.droppedEntries templateId?,
      n = pageName e.baseName ∨ n = bodyName e.baseName) (c.unregister templateId?) c' := by
  have removed := forM_removeFiles_onlyFiles (c := c.unregister templateId?) placed
    fun e he n hn => (⟨e, he, hn⟩ : ∃ e ∈ c.droppedEntries templateId?,
      n = pageName e.baseName ∨ n = bodyName e.baseName)
  have all := removed.bind .trans
    (f := fun _ => pure ((c.registered.filter (c.isDropped templateId?)).map (·.1)))
    fun _ c₂ _ => .refl _ c₂
  unfold Leaves at all
  rw [perform_invalidate] at h
  rwa [h] at all

/-- Only what is registered is dropped. -/
theorem registered_of_dropped {c : Context} {templateId? : Option String} {e : Entry}
    (h : e ∈ c.droppedEntries templateId?) :
    ∃ i, c.Registered i e ∧ ∀ n, c.isDropped templateId? (n, i) = true := by
  rw [droppedEntries, List.mem_filterMap] at h
  obtain ⟨⟨n, i⟩, hn, hi⟩ := h
  rw [List.mem_filter] at hn
  exact ⟨i, ⟨⟨n, hn.1⟩, hi⟩, fun m => hn.2⟩

/-- An entry that stays registered is none of those that go. -/
theorem registered_of_unregister {c : Context} {templateId? : Option String} {j : Nat} {e : Entry}
    (h : (c.unregister templateId?).Registered j e) : c.Registered j e ∧
      ∀ e₁ ∈ c.droppedEntries templateId?, ∃ i, c.Registered i e₁ ∧ i ≠ j := by
  obtain ⟨⟨n, hn⟩, he⟩ := h
  rw [unregister, List.mem_filter] at hn
  refine ⟨⟨⟨n, hn.1⟩, he⟩, fun e₁ he₁ => ?_⟩
  obtain ⟨i, hi, hall⟩ := registered_of_dropped he₁
  refine ⟨i, hi, ?_⟩
  rintro rfl
  simp [hall n] at hn

/-- Dropping entries keeps the invariant of those that stay. -/
theorem Sound.invalidate {c c' : Context} (h : Sound c) (templateId? : Option String)
    {r : Except DiskError (List String)}
    (hr : perform (Context.invalidate templateId?) c = (r, c')) : Sound c' := by
  -- the names of the files that go away
  let s (n : String) : Prop :=
    ∃ e ∈ c.droppedEntries templateId?, n = pageName e.baseName ∨ n = bodyName e.baseName
  have files : OnlyFiles s (c.unregister templateId?) c' := by
    refine invalidate_onlyFiles (fun e he => ?_) hr
    obtain ⟨i, hi, -⟩ := registered_of_dropped he
    exact h.placed i e hi
  have kept : ∀ {j e}, c'.Registered j e →
      c.Registered j e ∧ ∀ e₁ ∈ c.droppedEntries templateId?, ∃ i, c.Registered i e₁ ∧ i ≠ j := by
    rintro j e ⟨hn, he⟩
    exact registered_of_unregister ⟨files.registered ▸ hn, files.entries ▸ he⟩
  refine h.mono files.config files.disk.here ?_ files.entries ?_ ?_
  · rw [files.registered]
    exact List.filter_sublist
  · intro j e hj
    exact .of_sameBut files.disk ((h.outlying j e (kept hj).1).not_inFolder _)
  · intro j e hj
    obtain ⟨hj, others⟩ := kept hj
    refine ⟨rfl, ?_, fun p hp => ⟨hp, fun content time => ?_⟩⟩
    · intro b hb
      rw [files.memory] at hb
      exact (Recency.mem_foldl_erase.mp hb).2
    · have placed := h.placed j e hj
      rw [placed.snapshot p hp]
      refine (files.standing_iff (pageName_plain placed.noSlash) ?_ content time).mp
      rintro ⟨e₁, he₁, hn | hn⟩
      · obtain ⟨i, hi, hij⟩ := others e₁ he₁
        exact h.apart i j e₁ e hi hj hij (by simp [hp]) (pageName_injective hn)
      · exact pageName_ne_bodyName _ _ hn

/-! ## Registering -/

/-- The characters of a name are those of the template, and digits. -/
theorem mem_snapshot {ch : Char} {templateId : String} {number : Nat}
    (h : ch ∈ (Names.snapshot templateId number).toList) :
    ch = '_' ∨ ch ∈ templateId.toList ∧ ch ≠ '/' ∨ ∃ d < 16, ch = Nat.digitChar d := by
  unfold Names.snapshot Text.hexDigits at h
  simp only [String.toList_ofList, List.mem_append, List.mem_map, List.mem_replicate] at h
  rcases h with ⟨c, stem, rfl⟩ | ⟨-, rfl⟩ | digit
  · split
    · exact .inl rfl
    · rename_i plain
      refine .inr (.inl ⟨(List.dropWhile_sublist _).subset stem, ?_⟩)
      rintro rfl
      exact plain rfl
  · exact .inr (.inr ⟨0, by decide, rfl⟩)
  · exact .inr (.inr (Text.mem_toDigits (by decide) digit))

theorem slash_notMem_snapshot (templateId : String) (number : Nat) :
    '/' ∉ (Names.snapshot templateId number).toList := by
  intro h
  rcases mem_snapshot h with same | ⟨-, other⟩ | ⟨d, small, same⟩
  · exact absurd same (by decide)
  · exact other rfl
  · exact absurd same.symm ((by decide : ∀ d < 16, Nat.digitChar d ≠ '/') d small)

theorem snapshot_ne_empty (templateId : String) (number : Nat) :
    Names.snapshot templateId number ≠ "" := by
  intro h
  have hl := congrArg String.toList h
  simp [Names.snapshot, Text.hexDigits, Nat.toDigits_ne_nil] at hl

/-- The files of a new entry have the names that belong to it. -/
theorem make_wellPlaced (config : Config) (mode : CacheMode) (templateId : String)
    (source : Source) (number : Nat) :
    (Entry.make config mode templateId source number).WellPlaced config := by
  have slash := slash_notMem_snapshot templateId number
  have page : ∀ p, (if config.persistSnapshots then some (config.snapshotFolder.joinText
      (Names.snapshot templateId number ++ ".html.tmp")) else none) = some p →
      p = config.snapshotFolder.joinText (pageName (Names.snapshot templateId number)) := by
    intro p hp
    split at hp
    · exact (Option.some.inj hp).symm
    · cases hp
  have named := snapshot_ne_empty templateId number
  cases mode with
  | basic =>
      exact ⟨by simp [Entry.make], fun hs => absurd rfl hs, fun p hp => (by cases hp),
        fun p hp => (by cases hp)⟩
  | compiled => exact ⟨slash, fun _ => named, page, fun p hp => (by cases hp)⟩
  | browserCacheable =>
      exact ⟨slash, fun _ => named, page, fun p hp => (Option.some.inj hp).symm⟩

theorem make_eq (config : Config) (mode : CacheMode) (id : String) (source : Source)
    (number : Nat) : (Entry.make config mode id source number).templateId = id ∧
      (Entry.make config mode id source number).mode = mode ∧
      (Entry.make config mode id source number).source = source := by
  cases mode <;> exact ⟨rfl, rfl, rfl⟩

theorem make_key (config : Config) (mode : CacheMode) (id : String) (source : Source)
    (number : Nat) : (Entry.make config mode id source number).key = ⟨mode, source.store, id⟩ := by
  cases mode <;> rfl

/-- From `c` to `c'` the entry `e` was added, and registered under a name that was
free. -/
structure Added (e : Entry) (c c' : Context) : Prop where
  config : c'.config = c.config
  memory : c'.memory = c.memory
  disk : c'.disk = c.disk
  entries : c'.entries = c.entries.push e
  registered : c'.registered = c.registered ++ [(e.key.name, c.entries.size)]
  newName : e.key.name ∉ c.registered.map (·.1)

namespace Added

variable {e : Entry} {c c' : Context}

theorem old (h : Added e c c') {i : Nat} {e' : Entry} (he : c.entries[i]? = some e') :
    c'.entries[i]? = some e' := by
  obtain ⟨hi, -⟩ := Array.getElem?_eq_some_iff.mp he
  rw [h.entries, Array.getElem?_push_lt hi, ← he, Array.getElem?_eq_getElem hi]

theorem new (h : Added e c c') : c'.entries[c.entries.size]? = some e := by
  rw [h.entries, Array.getElem?_push_size]

/-- Who is registered now was so before, or is the entry that was added. -/
theorem registered_before (h : Added e c c')
    (known : c.NamesKnown) {i : Nat} {e' : Entry} (hr : c'.Registered i e') :
    i = c.entries.size ∧ e' = e ∨ i ≠ c.entries.size ∧ c.Registered i e' := by
  obtain ⟨⟨name, hn⟩, he⟩ := hr
  rw [h.registered, List.mem_append, List.mem_singleton, Prod.mk.injEq] at hn
  rcases hn with hn | ⟨-, rfl⟩
  · obtain ⟨e₁, he₁, -⟩ := known name i hn
    obtain rfl : e' = e₁ := Option.some.inj (he.symm.trans (h.old he₁))
    obtain ⟨hi, -⟩ := Array.getElem?_eq_some_iff.mp he₁
    exact .inr ⟨by omega, ⟨name, hn⟩, he₁⟩
  · exact .inl ⟨rfl, Option.some.inj (he.symm.trans h.new)⟩

theorem known (h : Added e c c') (known : c.NamesKnown) : c'.NamesKnown := by
  intro name i hn
  rw [h.registered, List.mem_append, List.mem_singleton, Prod.mk.injEq] at hn
  rcases hn with hn | ⟨rfl, rfl⟩
  · obtain ⟨e₁, he₁, hname⟩ := known name i hn
    exact ⟨e₁, h.old he₁, hname⟩
  · exact ⟨e, h.new, rfl⟩

theorem once (h : Added e c c') (once : (c.registered.map (·.1)).Nodup) :
    (c'.registered.map (·.1)).Nodup := by
  rw [h.registered, List.map_append, List.map_singleton, ← List.concat_eq_append]
  exact once.concat h.newName

end Added

/-- The mode that a template is registered in. -/
def modeOf (c : Context) (mode? : Option CacheMode) : CacheMode := mode?.getD c.config.cacheMode

/-- Registering changes nothing, or a new entry is added; one that may write files
gets a new name for them. -/
theorem register_cases (c : Context) (templateId : String) (source : Source)
    (mode? : Option CacheMode) :
    (c.register templateId source mode?).2 = c ∨
      ∃ number, (c.modeOf mode? = .basic ∨ number = c.host.named + 1 ∧
          (c.register templateId source mode?).2.host.named = number) ∧
        Added (Entry.make c.config (c.modeOf mode?) templateId source number) c
          (c.register templateId source mode?).2 := by
  unfold Context.register modeOf
  dsimp only
  generalize mode?.getD c.config.cacheMode = mode
  cases hl : c.registered.lookup (EntryKey.mk mode source.store templateId).name with
  | some i => exact .inl rfl
  | none =>
      refine .inr ⟨if mode = .basic then c.host.named else c.host.named + 1, ?_,
        rfl, rfl, tell_disk _ _ _, rfl, ?_, ?_⟩
      · split
        · exact .inl ‹_›
        · exact .inr ⟨rfl, tell_named _ _ _⟩
      · rw [make_key]
        rfl
      · rw [make_key]
        intro hm
        obtain ⟨⟨n, i⟩, hn, rfl⟩ := List.mem_map.mp hm
        rw [List.lookup_eq_none_iff] at hl
        simpa using hl _ hn

/-- A template is registered already, or gets the next number. -/
theorem register_index (c : Context) (id : String) (source : Source) (mode? : Option CacheMode) :
    (∃ i, ((EntryKey.mk (c.modeOf mode?) source.store id).name, i) ∈ c.registered ∧
        c.register id source mode? = (i, c)) ∨
      (c.register id source mode?).1 = c.entries.size ∧
        ∃ number, Added (Entry.make c.config (c.modeOf mode?) id source number) c
          (c.register id source mode?).2 := by
  cases found : c.registered.lookup (EntryKey.mk (c.modeOf mode?) source.store id).name with
  | some i =>
      obtain ⟨before, behind, shape, -⟩ := List.lookup_eq_some_iff.mp found
      refine .inl ⟨i, by rw [shape]; simp, ?_⟩
      unfold Context.modeOf at found
      simp only [Context.register, found]
  | none =>
      unfold Context.modeOf at found
      refine .inr ⟨by simp only [Context.register, found], ?_⟩
      rcases c.register_cases id source mode? with same | ⟨number, -, added⟩
      · have longer := congrArg (·.registered.length) same
        simp [Context.register, found, Context.tell] at longer
      · exact ⟨number, added⟩

/-- Adding an entry that was never loaded keeps the invariant, if no other entry
has files of its name. -/
theorem Sound.add {c c' : Context} {e : Entry} (h : Sound c) (added : Added e c c')
    (placed : e.WellPlaced c.config) (outlying : c.Outlying e.source.path)
    (unloaded : e.lastLoad = none)
    (newFiles : ∀ i e', c.Registered i e' → e.snapshot ≠ none ∨ e'.snapshot ≠ none →
      e'.baseName ≠ e.baseName) : Sound c' := by
  have before : ∀ {i e'}, c'.Registered i e' →
      i = c.entries.size ∧ e' = e ∨ i ≠ c.entries.size ∧ c.Registered i e' :=
    added.registered_before h.known
  have still : ∀ path, c.Outlying path → c'.Outlying path := by
    intro path ho
    unfold Outlying at ho ⊢
    rwa [added.disk, added.config]
  -- each entry is the new one, which has no page yet, or has stayed as it was
  refine ⟨added.known h.known, added.once h.once, ?_, ?_, ?_, ?_⟩
  · intro i e' hr
    rw [added.config]
    rcases before hr with ⟨rfl, rfl⟩ | ⟨-, hr⟩
    · exact placed
    · exact h.placed i e' hr
  · intro i j e₁ e₂ hi hj hne hs
    rcases before hi with ⟨rfl, rfl⟩ | ⟨-, hi⟩ <;> rcases before hj with ⟨rfl, rfl⟩ | ⟨-, hj⟩
    · exact absurd rfl hne
    · exact newFiles j e₂ hj (.inr hs)
    · exact (newFiles i e₁ hi (.inl hs)).symm
    · exact h.apart i j e₁ e₂ hi hj hne hs
  · intro i e' hr
    rcases before hr with ⟨rfl, rfl⟩ | ⟨-, hr⟩
    · exact still _ outlying
    · exact still _ (h.outlying i e' hr)
  · intro i e' hr
    rcases before hr with ⟨rfl, rfl⟩ | ⟨-, hr⟩
    · intro time hl
      rw [unloaded] at hl
      cases hl
    · refine (h.coherent i e' hr).mono added.config ?_ ⟨rfl, ?_, ?_⟩
      · intro names data t hf
        exact ⟨names, data, t, added.disk ▸ hf, .inl ⟨rfl, rfl⟩⟩
      · intro b hb
        rwa [added.memory] at hb
      · intro p hp
        rw [added.disk]
        exact ⟨hp, fun _ _ hs => hs⟩

/-- Registering keeps the invariant, if the new entry gets a name for its files
that no other entry has. -/
theorem Sound.register {c : Context} (h : Sound c) {templateId : String} {source : Source}
    (mode? : Option CacheMode) (outlying : c.Outlying source.path)
    (fresh : ∀ i e, c.Registered i e →
      e.baseName ≠ Names.snapshot templateId (c.host.named + 1)) :
    Sound (c.register templateId source mode?).2 := by
  rcases c.register_cases templateId source mode? with same | ⟨number, unique, added⟩
  · rwa [same]
  · refine h.add added (make_wellPlaced _ _ _ _ _) ?_ ?_ ?_
    · cases c.modeOf mode? <;> exact outlying
    · cases c.modeOf mode? <;> rfl
    · intro i e' hr hs
      by_cases basic : c.modeOf mode? = .basic
      · rw [basic] at hs ⊢
        exact (h.placed i e' hr).named (hs.resolve_left fun hne => hne rfl)
      · obtain ⟨rfl, -⟩ := unique.resolve_left basic
        cases mode : c.modeOf mode? with
        | basic => exact absurd mode basic
        | compiled | browserCacheable => exact fresh i e' hr

/-! ## What others do to the files -/

/-- A change to the files by others: sources are left alone or become newer, and
snapshots are left alone or go away. Everything else may change at will, so
that snapshots may turn out to be impossible to write. -/
structure Outside (c : Context) (disk : Disk) : Prop where
  here : disk.here = c.disk.here
  sources : ∀ i e, c.Registered i e → Renewed e.source.path c.disk disk
  snapshots : ∀ i e, c.Registered i e → ∀ p, e.snapshot = some p → ∀ content time,
    disk.standing p = some (.file content time) → c.disk.standing p = some (.file content time)

theorem Sound.outside {c : Context} {disk : Disk} (h : Sound c) (change : c.Outside disk) :
    Sound (c.withDisk disk) :=
  h.mono rfl change.here (List.Sublist.refl _) rfl change.sources fun i e hr =>
    ⟨rfl, fun _ hb => hb, fun p hp => ⟨hp, change.snapshots i e hr p hp⟩⟩

/-- Writing a file with a later time than it had leaves sources as they were or newer. -/
theorem Renewed.of_writeAt {d d' : Disk} {path source : DiskPath} {content : Bytes} {time : Nat}
    (written : d.writeAt path content time = .ok d')
    (later : ∀ names data t, d.file path = .ok (names, data, t) → t < time) :
    Renewed source d d' := by
  obtain ⟨same, standing⟩ := Disk.writeAt_ok written
  by_cases hs : d.spot source = d.spot path
  · intro names data t hf
    obtain ⟨hplace, rfl, hstand⟩ := Disk.standing_of_file hf
    refine ⟨_, content, time, Disk.file_of_place (same.place_ok hplace) ?_, .inr ?_⟩
    · rw [hs, ← same.spot_eq]
      exact standing
    · obtain ⟨names, hp⟩ : ∃ names, d.place path = .ok names := by
        cases hp : d.place path with
        | ok names => exact ⟨names, rfl⟩
        | error err =>
            rw [Disk.writeAt, hp] at written
            cases written
      obtain rfl := Disk.place_eq_spot hp
      refine later _ data t (Disk.file_of_place hp ?_)
      rw [← hs]
      exact hstand
  · exact .of_sameBut same hs

/-- Such a path does not lead to a file of an entry. -/
theorem Outlying.spot_ne {c : Context} {path p : DiskPath} {e : Entry} (outlying : c.Outlying path)
    (placed : e.WellPlaced c.config) (hp : p ∈ e.files) : c.disk.spot p ≠ c.disk.spot path := by
  intro hs
  obtain ⟨n, -, plain, rfl⟩ := placed.mem_files hp
  refine outlying.not_inFolder (fun _ => True) ?_
  rw [← hs]
  exact (inFolder_spot plain).mpr trivial

/-- Writing a file outside the snapshot folder leaves the files in it alone. -/
theorem Outlying.standing_writeAt {c : Context} {disk : Disk} {path p : DiskPath}
    {content : Bytes} {time : Nat} {e : Entry} (outlying : c.Outlying path)
    (written : c.disk.writeAt path content time = .ok disk) (placed : e.WellPlaced c.config)
    (hp : p ∈ e.files) (content' : Bytes) (time' : Nat) :
    disk.standing p = some (.file content' time') ↔
      c.disk.standing p = some (.file content' time') :=
  (Disk.writeAt_ok written).1.standing_iff (outlying.spot_ne placed hp) content' time'

/-- Writing a file outside the snapshot folder with a later time than it had. -/
theorem Sound.outside_writeAt {c : Context} {disk : Disk} {path : DiskPath} {content : Bytes}
    {time : Nat} (h : Sound c) (written : c.disk.writeAt path content time = .ok disk)
    (outlying : c.Outlying path)
    (later : ∀ names data t, c.disk.file path = .ok (names, data, t) → t < time) :
    c.Outside disk := by
  refine ⟨(Disk.writeAt_ok written).1.here, fun _ _ _ => .of_writeAt written later, ?_⟩
  intro i e hr p hp content' time'
  refine (outlying.standing_writeAt written (h.placed i e hr) ?_ content' time').mp
  simp [Entry.files, hp]

/-! ## Runs -/

/-- One thing that happens to a cache: a template is registered, whose source is
not in the snapshot folder and whose files get a name that is not in use; a
registered page is asked for; entries are dropped; or others change the files.
Each may end in a refusal. -/
inductive Step : Context → Context → Prop where
  | register {c : Context} (templateId : String) (source : Source) (mode? : Option CacheMode)
      (outlying : c.Outlying source.path)
      (fresh : ∀ i e, c.Registered i e →
        e.baseName ≠ Names.snapshot templateId (c.host.named + 1)) :
      Step c (c.register templateId source mode?).2
  | page {c c' : Context} {i : Nat} {e : Entry} {r : Except Failure Artifact}
      (registered : c.Registered i e) (done : perform (Context.page i) c = (r, c')) : Step c c'
  | invalidate {c c' : Context} {r : Except DiskError (List String)} (templateId? : Option String)
      (done : perform (Context.invalidate templateId?) c = (r, c')) : Step c c'
  | outside {c : Context} {disk : Disk} (change : c.Outside disk) : Step c (c.withDisk disk)

/-- What happens to a cache in a run. -/
abbrev Run : Context → Context → Prop := Relation.ReflTransGen Step

theorem perform_page {c : Context} {i : Nat} {e : Entry} (here : c.entries[i]? = some e) :
    perform (page i) c = perform (pageOf i e) c := by
  unfold page
  rw [perform_bind_ok (perform_get c), entryAt?, here]

theorem page_answers {c c' : Context} (h : Sound c) {i : Nat} {e : Entry}
    (registered : c.Registered i e) {r : Except Failure Artifact}
    (done : perform (page i) c = (r, c')) : Answers i e c c' r := by
  rw [perform_page registered.2] at done
  exact pageOf_answers registered.2 (h.placed i e registered) (h.outlying i e registered)
    (h.coherent i e registered) done

theorem Sound.step {c c' : Context} (h : Sound c) (step : Step c c') : Sound c' := by
  cases step with
  | register templateId source mode? outlying fresh => exact h.register mode? outlying fresh
  | page registered done => exact h.page registered (page_answers h registered done)
  | invalidate templateId? done => exact h.invalidate templateId? done
  | outside change => exact h.outside change

theorem Sound.run {c c' : Context} (h : Sound c) (run : Run c c') : Sound c' := by
  induction run with
  | refl => exact h
  | tail _ step ih => exact ih.step step

theorem start_registered {config : Config} {host : Host} {c : Context}
    (h : Context.start config host = .ok c) : c.registered = [] := by
  unfold Context.start at h
  simp only [bind, Except.bind, pure, Except.pure] at h
  split at h
  · cases h
    rfl
  · split at h
    · cases h
    · cases h
      rfl

/-- A cache starts without entries, so that nothing can be wrong with them. -/
theorem sound_start {config : Config} {host : Host} {c : Context}
    (h : Context.start config host = .ok c) : Sound c := by
  have empty := start_registered h
  have none : ∀ {i e}, ¬ c.Registered i e := by
    rintro i e ⟨⟨name, hn⟩, -⟩
    rw [empty] at hn
    cases hn
  refine ⟨?_, ?_, fun _ _ hr => (none hr).elim, fun _ _ _ _ hr => (none hr).elim,
    fun _ _ hr => (none hr).elim, fun _ _ hr => (none hr).elim⟩
  · intro name i hn
    rw [empty] at hn
    cases hn
  · rw [empty]
    exact List.nodup_nil

/-- Whatever happened to a cache before, a registered page that is given is
what its source is compiled to at that moment, with the same bounds of its
model section. -/
theorem page_eq_compiled {config : Config} {host : Host} {start c c' : Context}
    (started : Context.start config host = .ok start) (run : Run start c)
    {i : Nat} {e : Entry} (registered : c.Registered i e) {a : Artifact}
    (given : perform (page i) c = (.ok a, c')) :
    ∃ data p, c.disk.read e.source.path = .ok data ∧
      (e.compile c.config data).value = .ok p ∧ a = p.artifact := by
  have sound := (sound_start started).run run
  obtain ⟨time, p, ⟨names, data, hf, hv⟩, ha⟩ :=
    (page_answers sound registered given).answer a rfl
  exact ⟨data, p, Disk.read_ok_iff.mpr ⟨names, time, hf⟩, hv, ha⟩

/-- A host with a single template. -/
def oneTemplate : Host :=
  { disk := { items := [(["t"], .file (Utf8.encode "<p yst=\"value\"></p>".toList) 1)], now := 5 }
    quiet := true }

/-- A cache for it that holds one page at most. -/
def oneTemplateCache : Context :=
  { host := oneTemplate
    config := { compiles := false, snapshotFolder := ⟨"/", ["s"]⟩, memorySize := some 1,
                logging := false }
    memory := { capacity := some 1 } }

/-- The cache with the template registered as one to be compiled. -/
def oneTemplateKnown : Context :=
  (oneTemplateCache.register "t" { path := ⟨"/", ["t"]⟩ } (some .compiled)).2

/-- The cache after the template was edited. -/
def editTemplate (c : Context) : Context :=
  c.withDisk (c.disk.put ["t"] (.file (Utf8.encode "<p yst=\"apply\"></p>".toList) 2))

theorem page_eq_compiled_after_edit :
    ∃ c e a c', Context.start oneTemplateCache.config oneTemplate = .ok oneTemplateCache ∧
      Run oneTemplateCache (editTemplate c) ∧ (editTemplate c).Registered 0 e ∧
      perform (page 0) (editTemplate c) = (.ok a, c') ∧
      ∃ data p, (editTemplate c).disk.read e.source.path = .ok data ∧
        (e.compile (editTemplate c).config data).value = .ok p ∧ a = p.artifact := by
  have started : Context.start oneTemplateCache.config oneTemplate = .ok oneTemplateCache := rfl
  have step₁ : Step oneTemplateCache oneTemplateKnown :=
    .register "t" { path := ⟨"/", ["t"]⟩ } (some .compiled) (by unfold Outlying; decide)
      (by rintro i e ⟨⟨name, hn⟩, -⟩; cases hn)
  have sound₁ := (sound_start started).step step₁
  have listed : ("T_file_t", 0) ∈ oneTemplateKnown.registered := by decide +kernel
  have returns : (perform (page 0)
      (editTemplate (perform (page 0) oneTemplateKnown).2)).1.isOk = true := by decide +kernel
  have outlying : oneTemplateKnown.Outlying ⟨"/", ["t"]⟩ := by unfold Outlying; decide +kernel
  have file₁ : oneTemplateKnown.disk.file ⟨"/", ["t"]⟩
      = .ok (["t"], Utf8.encode "<p yst=\"value\"></p>".toList, 1) := by decide +kernel
  obtain ⟨e₁, he₁, -⟩ := sound₁.known "T_file_t" 0 listed
  rcases asked : perform (page 0) oneTemplateKnown with ⟨r, c⟩
  rw [asked] at returns
  -- asking leaves the template as it is, so it is the one of time 1 that is edited
  have only := (page_answers sound₁ ⟨⟨_, listed⟩, he₁⟩ asked).only
  have step₂ : Step oneTemplateKnown c := .page ⟨⟨_, listed⟩, he₁⟩ asked
  have sound₂ := sound₁.step step₂
  have outlying₂ : c.Outlying ⟨"/", ["t"]⟩ := by
    unfold Outlying at outlying ⊢
    rw [only.disk.here, only.config]
    exact outlying
  have file₂ := only.disk.file_eq (outlying.not_inFolder _) file₁
  have written := Disk.writeAt_of_file file₂ (Utf8.encode "<p yst=\"apply\"></p>".toList) 2
  have later : ∀ names data t, c.disk.file ⟨"/", ["t"]⟩ = .ok (names, data, t) → t < 2 := by
    intro names data t hf
    have ht := (Disk.modified_of_file hf).symm.trans (Disk.modified_of_file file₂)
    cases ht
    decide
  have step₃ : Step c (editTemplate c) := .outside (sound₂.outside_writeAt written outlying₂ later)
  have run : Run oneTemplateCache (editTemplate c) :=
    ((Relation.ReflTransGen.single step₁).tail step₂).tail step₃
  have listed₂ : ("T_file_t", 0) ∈ c.registered := by
    rw [only.registered]
    exact listed
  obtain ⟨e, he, -⟩ := sound₂.known "T_file_t" 0 listed₂
  have here : (editTemplate c).Registered 0 e := ⟨⟨_, listed₂⟩, he⟩
  rcases given : perform (page 0) (editTemplate c) with ⟨r', c'⟩
  cases r' with
  | error err => rw [given] at returns; cases returns
  | ok a => exact ⟨c, e, a, c', started, run, here, given, page_eq_compiled started run here given⟩

end Context

end PageTemplates.Cache
