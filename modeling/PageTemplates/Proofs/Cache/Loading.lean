import PageTemplates.Proofs.Cache.Files

/-!
# Loading a page

What compiling an entry does to the cache. The main facts:

* `OnlyEntry i e c c'`: only the entry `e` of number `i` was worked on, and
  the other entries, their pages in memory and their files are as they were;
* `Holds c e a`: whatever the entry can be asked for without compiling is the
  page `a`;
* `load_effect`: an attempt to compile an entry works on that entry alone, and
  afterwards the entry holds the page it was compiled to, or nothing new came
  up that it could be asked for.
-/

namespace PageTemplates.Cache

/-! ## Working on one entry -/

/-- Two states of one entry: it stands for the same template, and its snapshot
may have been given up. -/
structure Entry.SameTemplate (e e' : Entry) : Prop where
  templateId : e'.templateId = e.templateId
  mode : e'.mode = e.mode
  source : e'.source = e.source
  baseName : e'.baseName = e.baseName
  body : e'.body = e.body
  snapshot : e'.snapshot = e.snapshot ∨ e'.snapshot = none

namespace Entry.SameTemplate

variable {e e' e'' : Entry}

theorem refl (e : Entry) : e.SameTemplate e := ⟨rfl, rfl, rfl, rfl, rfl, .inl rfl⟩

theorem trans (h : e.SameTemplate e') (h' : e'.SameTemplate e'') : e.SameTemplate e'' := by
  refine ⟨h'.templateId.trans h.templateId, h'.mode.trans h.mode, h'.source.trans h.source,
    h'.baseName.trans h.baseName, h'.body.trans h.body, ?_⟩
  rcases h'.snapshot with hs | hs
  · rw [hs]
    exact h.snapshot
  · exact .inr hs

theorem key_eq (h : e.SameTemplate e') : e'.key = e.key := by
  unfold Entry.key
  rw [h.mode, h.source, h.templateId]

theorem snapshot_eq (h : e.SameTemplate e') {p : DiskPath} (hp : e'.snapshot = some p) :
    e.snapshot = some p := by
  rcases h.snapshot with hs | hs
  · rw [← hs, hp]
  · rw [hs] at hp
    cases hp

theorem mem_files (h : e.SameTemplate e') {p : DiskPath} (hp : p ∈ e'.files) : p ∈ e.files := by
  simp only [Entry.files, List.mem_append, Option.mem_toList, h.body] at hp ⊢
  exact hp.imp_left h.snapshot_eq

/-- What an entry is compiled to depends on what it stands for alone. -/
theorem compile_eq (h : e.SameTemplate e') (config : Config) (data : Bytes) :
    e'.compile config data = e.compile config data := by
  have hs : e'.settings config = e.settings config := by
    simp only [Entry.settings, Entry.bodyUrl, h.mode, h.baseName]
  unfold Entry.compile
  rw [hs, h.mode]

/-- A snapshot that is there now was there before. -/
theorem snapshot_ne_none (h : e.SameTemplate e') (hs : e'.snapshot ≠ none) :
    e.snapshot ≠ none := by
  obtain ⟨p, hp⟩ := Option.ne_none_iff_exists'.mp hs
  simp [h.snapshot_eq hp]

theorem wellPlaced (h : e.SameTemplate e') {config : Config} (placed : e.WellPlaced config) :
    e'.WellPlaced config := by
  refine ⟨?_, ?_, ?_, ?_⟩
  · rw [h.baseName]
    exact placed.noSlash
  · intro hs
    rw [h.baseName]
    exact placed.named (h.snapshot_ne_none hs)
  · intro p hp
    rw [h.baseName]
    exact placed.snapshot p (h.snapshot_eq hp)
  · intro p hp
    rw [h.body] at hp
    rw [h.baseName]
    exact placed.body p hp

end Entry.SameTemplate

/-- The names of the files that work on an entry may write. -/
def Entry.ownName (e : Entry) (n : String) : Prop :=
  n = pageName e.baseName ∨ n = bodyName e.baseName ∨ n = readmeName

theorem ownName_of_page {e : Entry} {n : String} (h : n = pageName e.baseName ∨ n = readmeName) :
    e.ownName n :=
  h.imp_right Or.inr

/-- From `c` to `c'` only the entry `e` of number `i` was worked on: the other
entries, their pages in memory and their files are as they were, except that
pages may have been forgotten. -/
structure OnlyEntry (i : Nat) (e : Entry) (c c' : Context) : Prop where
  config : c'.config = c.config
  registered : c'.registered = c.registered
  others : ∀ j, j ≠ i → c'.entries[j]? = c.entries[j]?
  own : ∃ e', c'.entries[i]? = some e' ∧ e.SameTemplate e'
  memory : ∀ k v, k ≠ e.key → (k, v) ∈ c'.memory.held → (k, v) ∈ c.memory.held
  disk : Disk.SameBut (inFolder c.config c.disk e.ownName) c.disk c'.disk

/-- The page `a` is the only one that an entry can be asked for without
compiling: it is the one in memory, and the snapshot makes it up with the
bounds. -/
structure Holds (c : Context) (e : Entry) (a : Artifact) : Prop where
  memory : ∀ b, (e.key, some b) ∈ c.memory.held → b = a
  modelInit : e.modelInit = a.modelInit
  modelEnd : e.modelEnd = a.modelEnd
  snapshot : ∀ p, e.snapshot = some p → ∀ content time,
    c.disk.standing p = some (.file content time) → content = a.content

/-- Nothing came up from `c` to `c'` that the entry, `e` before and `e'` now,
could be asked for without compiling; its bounds are left open. -/
structure Untouched (c c' : Context) (e e' : Entry) : Prop where
  lastLoad : e'.lastLoad = e.lastLoad
  memory : ∀ b, (e.key, some b) ∈ c'.memory.held → (e.key, some b) ∈ c.memory.held
  snapshot : ∀ p, e'.snapshot = some p → e.snapshot = some p ∧ ∀ content time,
    c'.disk.standing p = some (.file content time) →
      c.disk.standing p = some (.file content time)

theorem Holds.of_untouched {c c' : Context} {e e' : Entry} {a : Artifact} (h : Holds c e a)
    (hk : e'.key = e.key) (hu : Untouched c c' e e') (hi : e'.modelInit = a.modelInit)
    (he : e'.modelEnd = a.modelEnd) : Holds c' e' a := by
  refine ⟨?_, hi, he, ?_⟩
  · intro b hb
    rw [hk] at hb
    exact h.memory b (hu.memory b hb)
  · intro p hp content time hs
    obtain ⟨hp', back⟩ := hu.snapshot p hp
    exact h.snapshot p hp' content time (back content time hs)

theorem Untouched.trans {c c' c'' : Context} {e e' e'' : Entry} (h : Untouched c c' e e')
    (hk : e'.key = e.key) (h' : Untouched c' c'' e' e'') : Untouched c c'' e e'' := by
  refine ⟨h'.lastLoad.trans h.lastLoad, ?_, ?_⟩
  · intro b hb
    exact h.memory b (hk ▸ h'.memory b (hk ▸ hb))
  · intro p hp
    obtain ⟨hp', back'⟩ := h'.snapshot p hp
    obtain ⟨hp'', back⟩ := h.snapshot p hp'
    exact ⟨hp'', fun content time hs => back content time (back' content time hs)⟩

theorem Untouched.of_quiet {c c' : Context} {e : Entry}
    (kept : c.SameEntries c') (disk : c'.disk = c.disk) : Untouched c c' e e := by
  refine ⟨rfl, ?_, fun p hp => ⟨hp, ?_⟩⟩
  · intro b hb
    rwa [kept.memory] at hb
  · intro content time hs
    rwa [disk] at hs

namespace Context

theorem updateEntry_self {c : Context} {i : Nat} {e : Entry} (h : c.entries[i]? = some e)
    (f : Entry → Entry) : (c.updateEntry i f).entries[i]? = some (f e) := by
  simp [updateEntry, Array.getElem?_modify, h]

theorem updateEntry_other (c : Context) {i j : Nat} (h : j ≠ i) (f : Entry → Entry) :
    (c.updateEntry i f).entries[j]? = c.entries[j]? := by
  simp [updateEntry, Array.getElem?_modify, h.symm]

end Context

namespace OnlyEntry

variable {i : Nat} {e e₁ : Entry} {c c' c'' : Context}

theorem trans (h : OnlyEntry i e c c') (h' : OnlyEntry i e c' c'') : OnlyEntry i e c c'' := by
  refine ⟨h'.config.trans h.config, h'.registered.trans h.registered, ?_, h'.own, ?_, ?_⟩
  · intro j hj
    rw [h'.others j hj, h.others j hj]
  · intro k v hk hm
    exact h.memory k v hk (h'.memory k v hk hm)
  · refine h.disk.trans (h'.disk.mono ?_)
    rintro ns ⟨n, hn, rfl⟩
    refine ⟨n, hn, ?_⟩
    rw [h.config, h.disk.spot_eq]

/-- Changing the entry. -/
theorem updateEntry (here : c.entries[i]? = some e₁) (same : e.SameTemplate e₁)
    {f : Entry → Entry} (hf : e₁.SameTemplate (f e₁)) : OnlyEntry i e c (c.updateEntry i f) :=
  ⟨rfl, rfl, fun _ hj => Context.updateEntry_other c hj f,
    ⟨_, Context.updateEntry_self here f, same.trans hf⟩, fun _ _ _ hm => hm, .refl _ _⟩

/-- Changing files of the entry, and the log. -/
theorem of_onlyFiles (here : c.entries[i]? = some e₁) (same : e.SameTemplate e₁)
    {s : String → Prop} (h : OnlyFiles s c c') (hs : ∀ n, s n → e.ownName n) :
    OnlyEntry i e c c' := by
  refine ⟨h.config, h.registered, ?_, ⟨e₁, h.entries ▸ here, same⟩, ?_,
    h.disk.mono (inFolder_mono hs)⟩
  · intro j _
    rw [h.entries]
  · intro k v _ hm
    rwa [h.memory] at hm

/-- Putting a page of the entry into memory. -/
theorem remember (here : c.entries[i]? = some e₁) (same : e.SameTemplate e₁)
    (v : Option Artifact) : OnlyEntry i e c { c with memory := c.memory.insert e.key v } := by
  refine ⟨rfl, rfl, fun _ _ => rfl, ⟨e₁, here, same⟩, ?_, .refl _ _⟩
  intro k w hk hm
  rcases Recency.mem_of_mem_insert hm with ⟨rfl, -⟩ | ⟨-, hm⟩
  · exact absurd rfl hk
  · exact hm

end OnlyEntry

namespace Context

/-- The three endings of writing a page's snapshot: the snapshot holds the
page, or the entry is without one from now on, or the path is one that nothing
can have and the snapshot is as it was. -/
theorem storePage_effect (i : Nat) (e : Entry) (content : Bytes) {c c' : Context}
    {r : Except Failure Unit} (placed : e.WellPlaced c.config)
    (h : perform (storePage i e content) c = (r, c')) :
    (r = .ok () ∧ OnlyFiles (fun n => n = pageName e.baseName ∨ n = readmeName) c c' ∧
        ∀ p, e.snapshot = some p → ∃ time, c'.disk.standing p = some (.file content time)) ∨
      (r = .ok () ∧
        ∃ c₁, OnlyFiles (fun n => n = pageName e.baseName ∨ n = readmeName) c c₁ ∧
          c' = c₁.updateEntry i fun e => { e with snapshot := none }) ∨
      ((∃ err, r = .error err) ∧ OnlyFiles (· = readmeName) c c') := by
  unfold storePage at h
  split at h
  · rename_i path hsnap
    have hpath := placed.snapshot path hsnap
    subst hpath
    have hplain := pageName_plain placed.noSlash
    rcases hw : writeSnapshot (c.config.snapshotFolder.joinText (pageName e.baseName)) content
      c.disk with ⟨err?, d⟩
    simp only [perform_bind, perform_get, hw, perform_modify] at h
    rcases writeSnapshot_sameBut hplain content c.disk hw with
      ⟨rfl, same, standing⟩ | ⟨err, rfl, same⟩
    · cases h
      refine .inl ⟨rfl, ⟨⟨rfl, rfl, rfl, rfl⟩, same⟩, ?_⟩
      intro p hp
      rw [hsnap] at hp
      cases hp
      exact standing
    · have written : OnlyFiles (· = readmeName) c (c.withDisk d) := ⟨⟨rfl, rfl, rfl, rfl⟩, same⟩
      dsimp only at h
      split at h
      · cases h
        exact .inr (.inr ⟨⟨_, rfl⟩, written⟩)
      · simp only [perform_bind, perform_modify, Prod.mk.injEq] at h
        obtain ⟨rfl, rfl⟩ := h
        refine .inr (.inl ⟨rfl, _, ?_, rfl⟩)
        -- what is left of a snapshot that could not be written is taken away
        refine OnlyFiles.trans ?_ ((remove_onlyFiles hplain _).mono fun _ => Or.inl)
        exact (written.mono fun _ => Or.inr).trans (tell_onlyFiles _ _ _ _)
  · rename_i hsnap
    cases h
    refine .inl ⟨rfl, .refl _ _, ?_⟩
    intro p hp
    exact absurd hp (hsnap p)

/-- The second half of `accept`, when the body script was dealt with. -/
def settle (i : Nat) (e : Entry) (a : Artifact) (modified : Nat) : Operation Failure Unit := do
  modify (·.updateEntry i fun e => { e with modelInit := a.modelInit, modelEnd := a.modelEnd })
  storePage i e a.content
  modify fun c => { c with memory := c.memory.insert e.key (some a) }
  modify (·.updateEntry i fun e => { e with lastLoad := some modified })

theorem accept_eq (i : Nat) (e : Entry) (p : Compile.Compilation) (modified : Nat) :
    accept i e p modified = (do
      modify (·.updateEntry i fun e => { e with charset := some p.charset })
      storeBody e (p.bodyScript.map (·.2))
      settle i e p.artifact modified) := rfl

/-- The end of `settle`: the page goes into memory, and the entry counts as
loaded. -/
theorem remember_effect {i : Nat} {e e₁ : Entry} (a : Artifact) (modified : Nat) {c : Context}
    (here : c.entries[i]? = some e₁) (same : e.SameTemplate e₁)
    (hi : e₁.modelInit = a.modelInit) (he : e₁.modelEnd = a.modelEnd)
    (stored : ∀ p, e₁.snapshot = some p →
      ∃ time, c.disk.standing p = some (.file a.content time)) :
    ∃ c' e', perform (do
        modify fun c => { c with memory := c.memory.insert e.key (some a) }
        modify (·.updateEntry i fun e => { e with lastLoad := some modified }) :
          Operation Failure Unit) c = (.ok (), c') ∧
      OnlyEntry i e c c' ∧ c'.entries[i]? = some e' ∧ e'.lastLoad = some modified ∧
      Holds c' e' a := by
  let e₂ : Entry := { e₁ with lastLoad := some modified }
  have same₂ : e₁.SameTemplate e₂ := ⟨rfl, rfl, rfl, rfl, rfl, .inl rfl⟩
  refine ⟨_, e₂, rfl, ?_, updateEntry_self here _, rfl, ⟨?_, hi, he, ?_⟩⟩
  · refine (OnlyEntry.remember here same (some a)).trans ?_
    exact OnlyEntry.updateEntry (c := { c with memory := c.memory.insert e.key (some a) })
      (f := fun e => { e with lastLoad := some modified }) here same same₂
  · intro b hb
    rw [same₂.key_eq, same.key_eq] at hb
    -- what memory holds under the key is the page that was just put there
    rcases Recency.mem_of_mem_insert hb with ⟨-, hv⟩ | ⟨hne, -⟩
    · exact Option.some.inj hv
    · exact absurd rfl hne
  · intro p hp content time hst
    obtain ⟨t, ht⟩ := stored p hp
    change c.disk.standing p = _ at hst
    rw [ht] at hst
    cases hst
    rfl

/-- The page goes into memory and, if at all, into the snapshot. Where that is
impossible, only the bounds are new. -/
theorem settle_effect {i : Nat} {e e₁ : Entry} (a : Artifact) (modified : Nat) {c c' : Context}
    {r : Except Failure Unit} (here : c.entries[i]? = some e₁) (same : e.SameTemplate e₁)
    (snapshot : e₁.snapshot = e.snapshot) (placed : e.WellPlaced c.config)
    (h : perform (settle i e a modified) c = (r, c')) :
    OnlyEntry i e c c' ∧ ∃ e', c'.entries[i]? = some e' ∧
      ((r = .ok () ∧ e'.lastLoad = some modified ∧ Holds c' e' a) ∨
        ((∃ err, r = .error err) ∧ Untouched c c' e₁ e' ∧
          e'.modelInit = a.modelInit ∧ e'.modelEnd = a.modelEnd)) := by
  unfold settle at h
  rw [perform_bind_ok (perform_modify _ _)] at h
  let e₂ : Entry := { e₁ with modelInit := a.modelInit, modelEnd := a.modelEnd }
  have same₂ : e₁.SameTemplate e₂ := ⟨rfl, rfl, rfl, rfl, rfl, .inl rfl⟩
  have only₂ := OnlyEntry.updateEntry here same
    (f := fun e => { e with modelInit := a.modelInit, modelEnd := a.modelEnd }) same₂
  have here₂ := updateEntry_self here
    fun e => { e with modelInit := a.modelInit, modelEnd := a.modelEnd }
  have back₂ : ∀ b, (e.key, some b) ∈ (c.updateEntry i fun e =>
      { e with modelInit := a.modelInit, modelEnd := a.modelEnd }).memory.held →
      (e.key, some b) ∈ c.memory.held := fun _ hm => hm
  have disk₂ : (c.updateEntry i fun e =>
      { e with modelInit := a.modelInit, modelEnd := a.modelEnd }).disk = c.disk := rfl
  generalize c.updateEntry i _ = c₂ at h only₂ here₂ back₂ disk₂
  have placed₂ : e.WellPlaced c₂.config := only₂.config ▸ placed
  -- with the bounds set, the page is stored: in the snapshot, or in memory only, or not at all
  rcases hs : perform (storePage i e a.content) c₂ with ⟨r₃, c₃⟩
  rcases storePage_effect i e a.content placed₂ hs with
    ⟨rfl, files₃, stored⟩ | ⟨rfl, c₄, files₄, rfl⟩ | ⟨⟨err, rfl⟩, files₃⟩
  · -- the snapshot holds the page
    have here₃ : c₃.entries[i]? = some e₂ := files₃.entries ▸ here₂
    have only₃ := only₂.trans
      (.of_onlyFiles here₂ (same.trans same₂) files₃ fun _ => ownName_of_page)
    obtain ⟨c₄, e₄, h₄, only₄, here₄, loaded, holds⟩ :=
      remember_effect a modified here₃ (same.trans same₂) rfl rfl
        fun p hp => stored p (snapshot ▸ hp)
    rw [perform_bind_ok hs, h₄] at h
    cases h
    exact ⟨only₃.trans only₄, e₄, here₄, .inl ⟨rfl, loaded, holds⟩⟩
  · -- the snapshot was given up
    let e₃ : Entry := { e₂ with snapshot := none }
    have same₃ : e₂.SameTemplate e₃ := ⟨rfl, rfl, rfl, rfl, rfl, .inr rfl⟩
    have here₃ : c₄.entries[i]? = some e₂ := files₄.entries ▸ here₂
    have only₃ := only₂.trans
      (.of_onlyFiles here₂ (same.trans same₂) files₄ fun _ => ownName_of_page)
    have only₄ := only₃.trans (.updateEntry here₃ (same.trans same₂)
      (f := fun e => { e with snapshot := none }) same₃)
    obtain ⟨c₅, e₅, h₅, only₅, here₅, loaded, holds⟩ :=
      remember_effect a modified (updateEntry_self here₃ fun e => { e with snapshot := none })
        ((same.trans same₂).trans same₃) rfl rfl fun p hp => by cases hp
    rw [perform_bind_ok hs, h₅] at h
    cases h
    exact ⟨only₄.trans only₅, e₅, here₅, .inl ⟨rfl, loaded, holds⟩⟩
  · -- the snapshot has a path that nothing can have
    have here₃ : c₃.entries[i]? = some e₂ := files₃.entries ▸ here₂
    have only₃ := only₂.trans
      (.of_onlyFiles here₂ (same.trans same₂) files₃ fun _ hn => .inr (.inr hn))
    rw [perform_bind_error hs] at h
    cases h
    refine ⟨only₃, e₂, here₃, .inr ⟨⟨err, rfl⟩, ⟨rfl, ?_, ?_⟩, rfl, rfl⟩⟩
    · intro b hb
      rw [files₃.memory] at hb
      rw [same.key_eq] at hb ⊢
      exact back₂ b hb
    · intro q hq
      refine ⟨hq, fun content time hst => ?_⟩
      rw [placed₂.snapshot q (snapshot ▸ hq)] at hst ⊢
      rw [← disk₂]
      exact (files₃.standing_iff (pageName_plain placed.noSlash) (pageName_ne_readmeName _)
        content time).mp hst

/-- A page that was just compiled is taken in, or the entry can be asked for
what it could be asked for before and at most learns the new bounds. -/
theorem accept_effect {i : Nat} {e : Entry} (p : Compile.Compilation) (modified : Nat)
    {c c' : Context} {r : Except Failure Unit} (here : c.entries[i]? = some e)
    (placed : e.WellPlaced c.config) (h : perform (accept i e p modified) c = (r, c')) :
    OnlyEntry i e c c' ∧ ∃ e', c'.entries[i]? = some e' ∧
      ((r = .ok () ∧ e'.lastLoad = some modified ∧ Holds c' e' p.artifact) ∨
        ((∃ err, r = .error err) ∧ Untouched c c' e e' ∧
          (e'.modelInit = e.modelInit ∧ e'.modelEnd = e.modelEnd ∨
            e'.modelInit = p.artifact.modelInit ∧ e'.modelEnd = p.artifact.modelEnd))) := by
  rw [accept_eq] at h
  -- the charset is noted before anything is written
  rw [perform_bind_ok (perform_modify _ _)] at h
  let e₁ : Entry := { e with charset := some p.charset }
  have same₁ : e.SameTemplate e₁ := ⟨rfl, rfl, rfl, rfl, rfl, .inl rfl⟩
  have only₁ := OnlyEntry.updateEntry here (.refl e)
    (f := fun e => { e with charset := some p.charset }) same₁
  have here₁ := updateEntry_self here fun e => { e with charset := some p.charset }
  have held₁ :
      (c.updateEntry i fun e => { e with charset := some p.charset }).memory = c.memory := rfl
  have disk₁ : (c.updateEntry i fun e => { e with charset := some p.charset }).disk = c.disk := rfl
  generalize c.updateEntry i _ = c₁ at h only₁ here₁ held₁ disk₁
  rcases hb : perform (storeBody e (p.bodyScript.map (·.2))) c₁ with ⟨r₂, c₂⟩
  have files₂ : OnlyFiles (fun n => n = bodyName e.baseName ∨ n = readmeName) c₁ c₂ := by
    have stored := storeBody_onlyFiles e (p.bodyScript.map (·.2)) (only₁.config ▸ placed)
    rwa [Leaves, hb] at stored
  have only₂ := only₁.trans (.of_onlyFiles here₁ same₁ files₂ fun _ => Or.inr)
  have here₂ : c₂.entries[i]? = some e₁ := files₂.entries ▸ here₁
  -- writing the body script leaves the snapshot alone
  have back₂ : Untouched c c₂ e e₁ := by
    refine ⟨rfl, ?_, fun q hq => ⟨hq, fun content time => ?_⟩⟩
    · intro b hb
      rwa [files₂.memory, held₁] at hb
    · rw [placed.snapshot q hq, ← disk₁, ← only₁.config]
      exact (files₂.standing_iff (pageName_plain placed.noSlash)
        (not_or.mpr ⟨pageName_ne_bodyName _ _, pageName_ne_readmeName _⟩) content time).mp
  cases r₂ with
  | error err =>
      rw [perform_bind_error hb] at h
      cases h
      exact ⟨only₂, e₁, here₂, .inr ⟨⟨err, rfl⟩, back₂, .inl ⟨rfl, rfl⟩⟩⟩
  | ok _ =>
      rw [perform_bind_ok hb] at h
      obtain ⟨only₃, e', here', ending⟩ := settle_effect p.artifact modified here₂ same₁ rfl
        (only₂.config ▸ placed) h
      refine ⟨only₂.trans only₃, e', here', ?_⟩
      rcases ending with ended | ⟨failed, back₃, bounds⟩
      · exact .inl ended
      · exact .inr ⟨failed, back₂.trans same₁.key_eq back₃, .inr bounds⟩

/-- The page that the source of an entry is compiled to now, with the time of
the source. -/
def Compiles (c : Context) (e : Entry) (time : Nat) (p : Compile.Compilation) : Prop :=
  ∃ names data, c.disk.file e.source.path = .ok (names, data, time) ∧
    (e.compile c.config data).value = .ok p

/-- How an attempt to compile an entry ends that is `e` before and `e'` after
it: the page was taken in, or the entry can be asked for what it could be asked
for before and at most learned new bounds. -/
inductive Ending (c c' : Context) (e e' : Entry) : Except Failure Artifact → Prop where
  | loaded {time : Nat} {p : Compile.Compilation} (compiles : Compiles c e time p)
      (lastLoad : e'.lastLoad = some time) (holds : Holds c' e' p.artifact) :
      Ending c c' e e' (.ok p.artifact)
  | failed {err : Failure} (untouched : Untouched c c' e e')
      (bounds : e'.modelInit = e.modelInit ∧ e'.modelEnd = e.modelEnd ∨
        ∃ time p, Compiles c e time p ∧ e'.modelInit = p.artifact.modelInit ∧
          e'.modelEnd = p.artifact.modelEnd) :
      Ending c c' e e' (.error err)

theorem load_effect {i : Nat} {e : Entry} {c c' : Context} {r : Except Failure Artifact}
    (here : c.entries[i]? = some e) (placed : e.WellPlaced c.config)
    (h : perform (load i e) c = (r, c')) :
    OnlyEntry i e c c' ∧ ∃ e', c'.entries[i]? = some e' ∧ Ending c c' e e' r := by
  have quiet : ∀ {c₁ : Context}, SameEntries c c₁ → c₁.disk = c.disk → OnlyEntry i e c c₁ :=
    fun kept disk => .of_onlyFiles here (.refl e) (.of_quiet kept disk) fun _ hn => hn
  -- a failure before the page is taken in leaves the entry as it was
  have failed : ∀ {c₁ : Context} {err : Failure}, SameEntries c c₁ → c₁.disk = c.disk →
      OnlyEntry i e c c₁ ∧ ∃ e', c₁.entries[i]? = some e' ∧ Ending c c₁ e e' (.error err) := by
    intro c₁ err kept disk
    exact ⟨quiet kept disk, e, kept.entries ▸ here,
      .failed (.of_quiet kept disk) (.inl ⟨rfl, rfl⟩)⟩
  unfold load at h
  rw [perform_bind_ok (perform_get c)] at h
  unfold liftDisk at h
  cases hm : e.source.modified c.disk with
  | error err =>
      rw [hm] at h
      cases h
      exact failed ⟨rfl, rfl, rfl, rfl⟩ rfl
  | ok modified =>
      rw [hm] at h
      dsimp only at h
      rw [perform_bind_ok (perform_pure _ _)] at h
      cases hr : c.disk.read e.source.path with
      | error err =>
          rw [hr] at h
          cases h
          exact failed ⟨rfl, rfl, rfl, rfl⟩ rfl
      | ok data =>
          rw [hr] at h
          dsimp only at h
          rw [perform_bind_ok (perform_modify _ _)] at h
          generalize hc₁ : c.tellAll _ = c₁ at h
          have kept₁ : SameEntries c c₁ := hc₁ ▸ ⟨rfl, rfl, rfl, rfl⟩
          have disk₁ : c₁.disk = c.disk := hc₁ ▸ tellAll_disk c _
          cases hv : (e.compile c.config data).value with
          | error err =>
              rw [hv] at h
              cases err with
              | template err =>
                  cases h
                  exact failed ⟨kept₁.config, kept₁.memory, kept₁.entries, kept₁.registered⟩
                    ((tell_disk _ _ _).trans disk₁)
              | markup err => cases h; exact failed kept₁ disk₁
              | charset err => cases h; exact failed kept₁ disk₁
          | ok p =>
              rw [hv] at h
              dsimp only at h
              obtain ⟨names, time, hf⟩ := Disk.read_ok_iff.mp hr
              have htime : modified = time :=
                Except.ok.inj (hm.symm.trans (Disk.modified_of_file hf))
              subst htime
              have compiles : Compiles c e modified p := ⟨names, data, hf, hv⟩
              have here₁ : c₁.entries[i]? = some e := kept₁.entries ▸ here
              rcases ha : perform (accept i e p modified) c₁ with ⟨r₂, c₂⟩
              obtain ⟨only₂, e', here', ending⟩ :=
                accept_effect p modified here₁ (kept₁.config ▸ placed) ha
              have only := (quiet kept₁ disk₁).trans only₂
              rcases ending with ⟨rfl, lastLoad, holds⟩ | ⟨⟨err, rfl⟩, untouched, bounds⟩
              · rw [perform_bind_ok ha] at h
                cases h
                exact ⟨only, e', here', .loaded compiles lastLoad holds⟩
              · rw [perform_bind_error ha] at h
                cases h
                refine ⟨only, e', here',
                  .failed ((Untouched.of_quiet kept₁ disk₁).trans rfl untouched) ?_⟩
                exact bounds.imp_right fun b => ⟨modified, p, compiles, b⟩

end Context

end PageTemplates.Cache
