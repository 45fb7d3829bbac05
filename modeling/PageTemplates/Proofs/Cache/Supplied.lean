import PageTemplates.Proofs.Cache.Bodies
import PageTemplates.Proofs.Cache.Naming
import PageTemplates.Proofs.Disk.Tree

/-!
# Scripts that stand ready

A page whose body is split off is of use only while the script made with it stands at its
path. The main facts:

* `Accepts`: the body script of an entry can be written;
* `Supplied`: the invariant of an entry whose script can be written at every call: once
  its page was compiled, there is a script, and it is the one of the page;
* `Supplied.page`, `Supplied.others`: calls for the page and for the pages of other entries
  keep it;
* `Served`: the page of a compilation was given, with its script in place;
* `Served.page`, `Served.others`: this stays so for as long as the source does, even if
  nothing can be written any more.
-/

namespace PageTemplates.Cache.Context

/-- The body script of an entry can be written, whatever it is. -/
def Accepts (c : Context) (e : Entry) : Prop :=
  ∀ path, e.body = some path → (writeSnapshot path [] c.disk).1 = none

/-- There is a file at the path of the body script of an entry. -/
def HasFile (d : Disk) (e : Entry) : Prop :=
  ∀ path, e.body = some path → ∃ file, d.file path = .ok file

/-- A split template that has a body script once its page was compiled. -/
structure Supplied (c : Context) (e : Entry) : Prop where
  steady : Steady c e
  stored : ∃ path, e.body = some path
  there : e.lastLoad ≠ none → HasFile c.disk e

/-- The source of an entry is compiled to a page, and the body script of this page is
there. -/
structure Served (c : Context) (e : Entry) (p : Compile.Compilation) : Prop where
  compiles : ∃ time, Compiles c e time p
  there : HasFile c.disk e
  script : HasScript c.disk e p

section

variable {c c' : Context} {e e' : Entry} {i : Nat} {p : Compile.Compilation}
  {r : Except Failure Artifact}

theorem Accepts.write (accepts : Accepts c e) {path : DiskPath} (body : e.body = some path)
    (script : Bytes) : (writeSnapshot path script c.disk).1 = none := by
  rw [writeSnapshot_refused path script []]
  exact accepts path body

theorem Accepts.of_same (accepts : Accepts c e') (same : e.SameTemplate e')
    (disk : c'.disk = c.disk) : Accepts c' e := by
  intro path body
  rw [disk]
  exact accepts path (same.body.trans body)

/-- An entry whose script can be written does not lag. -/
theorem Accepts.not_lags (accepts : Accepts c e) : ¬ c.Lags c.disk e := by
  rintro ⟨_, _, path, script, _, _, _, body, _, _, _, refused⟩
  exact refused (accepts.write body script)

/-- An entry whose script is the one of its page does not lag. -/
theorem Served.not_lags (served : Served c e p) (d : Disk) : ¬ c.Lags d e := by
  rintro ⟨_, p', path, script, content, t, compiles', body, made, standing, other, -⟩
  obtain ⟨_, compiles⟩ := served.compiles
  obtain ⟨-, rfl⟩ := compiles.unique compiles'
  exact other (Option.some.inj ((served.script path content t body standing).symm.trans made))

/-- The script of a page that was served can be read. -/
theorem Served.file (served : Served c e p) {path : DiskPath} (body : e.body = some path) :
    ∃ names script time, c.disk.file path = .ok (names, script, time) ∧
      p.bodyScript.map (·.2) = some script := by
  obtain ⟨⟨names, script, time⟩, file⟩ := served.there path body
  have stands := (Disk.standing_of_file file).2.2
  exact ⟨names, script, time, file, served.script path script time body stands⟩

theorem HasFile.of_body {d : Disk} (there : HasFile d e) (same : e.SameTemplate e') :
    HasFile d e' :=
  fun path body => there path (same.body ▸ body)

/-- A source that stays as it is is compiled to the same page. -/
theorem Compiles.carried {time : Nat} (h : Compiles c e time p) (config : c'.config = c.config)
    (same : e.SameTemplate e') (source : ∀ file, c.disk.file e.source.path = .ok file →
      c'.disk.file e.source.path = .ok file) : Compiles c' e' time p := by
  obtain ⟨names, data, hf, hv⟩ := h
  refine ⟨names, data, same.source ▸ source _ hf, ?_⟩
  rw [same.compile_eq, config]
  exact hv

/-! ## Writing a script -/

theorem writeSnapshot_file {path : DiskPath} {content : Bytes} {d d' : Disk}
    (h : writeSnapshot path content d = (none, d')) :
    ∃ names time, d'.file path = .ok (names, content, time) := by
  unfold writeSnapshot at h
  split at h
  · cases h
  · split at h
    · cases h
    · rename_i written
      cases h
      exact Disk.read_ok_iff.mp (Disk.read_of_write written)

/-- A page that was compiled leaves its script, if that can be written. -/
theorem accept_file {modified : Nat} {path : DiskPath} {script : Bytes}
    {r : Except Failure Unit} (placed : e.WellPlaced c.config) (body : e.body = some path)
    (made : p.bodyScript.map (·.2) = some script)
    (accepted : (writeSnapshot path script c.disk).1 = none)
    (h : perform (accept i e p modified) c = (r, c')) :
    ∃ names time, c'.disk.file path = .ok (names, script, time) := by
  rw [accept_eq, perform_bind_ok (perform_modify _ _), made] at h
  let c₁ := c.updateEntry i fun e => { e with charset := some p.charset }
  rcases hw : writeSnapshot path script c.disk with ⟨err?, d⟩
  rw [hw] at accepted
  obtain rfl : err? = none := accepted
  have stored : perform (storeBody e (some script)) c₁ = (.ok (), c₁.withDisk d) := by
    have hw : writeSnapshot path script c₁.disk = (none, d) := hw
    unfold storeBody
    rw [body]
    simp only [perform_bind, perform_get, hw, perform_modify]
    rfl
  rw [perform_bind_ok stored] at h
  obtain ⟨names, time, file⟩ := writeSnapshot_file hw
  refine ⟨names, time, (settle_sameBut (c := c₁.withDisk d) placed h).file_eq ?_ file⟩
  have plain := bodyName_plain placed.noSlash
  obtain rfl := placed.body path body
  rintro own
  rcases (inFolder_spot plain).mp own with hn | hn
  · exact pageName_ne_bodyName _ _ hn.symm
  · exact bodyName_ne_readmeName _ hn

/-- A new entry has nothing that a script would be missing for. -/
theorem supplied_make {templateId : String} {source : Source} {number : Nat}
    (outlying : c.Outlying source.path) (readable : ∃ data, c.disk.read source.path = .ok data) :
    Supplied c (Entry.make c.config .browserCacheable templateId source number) :=
  ⟨steady_make outlying readable, ⟨_, rfl⟩, fun loaded => absurd rfl loaded⟩

/-! ## Calls for the page -/

/-- After a call there is a script if the page was given or counts as loaded. -/
theorem page_hasFile (here : c.entries[i]? = some e) (mode : e.mode = .browserCacheable)
    (placed : e.WellPlaced c.config) (accepts : Accepts c e)
    (before : e.lastLoad ≠ none → HasFile c.disk e) (done : perform (page i) c = (r, c'))
    (here' : c'.entries[i]? = some e')
    (known : e'.lastLoad ≠ none ∨ ∃ a, r = .ok a) : HasFile c'.disk e := by
  cases page_asked here done with
  | atHand loaded _ _ => exact before (by simp [loaded])
  | tried h =>
      cases h with
      | failed quiet _ =>
          have still := quiet.sameEntries.entries ▸ here
          obtain rfl : e = e' := Option.some.inj (still.symm.trans here')
          rw [quiet.disk]
          exact before (known.resolve_right (by simp))
      | @compiled c₁ _ _ p _ quiet compiles done =>
          intro path body
          obtain ⟨script, made⟩ := compiles.bodyScript mode
          have accepted := accepts.write body script
          rw [← quiet.disk] at accepted
          obtain ⟨names, time, file⟩ :=
            accept_file (quiet.sameEntries.config ▸ placed) body made accepted done
          exact ⟨_, file⟩

/-- A call that may not write leaves a script that is there, or replaces it. -/
theorem BodyEnding.hasFile {d : Disk} (ending : BodyEnding c d e e' c'.disk r)
    {s : List String → Prop} (disk : Disk.SameBut s c.disk c'.disk) (there : HasFile c.disk e) :
    HasFile c'.disk e := by
  intro path body
  obtain ⟨⟨names, content, time⟩, file⟩ := there path body
  obtain ⟨led, -, standing⟩ := Disk.standing_of_file file
  obtain ⟨content', time', stands⟩ : ∃ content t,
      c'.disk.standing path = some (.file content t) := by
    cases ending with
    | kept _ same _ => exact ⟨_, _, (same path body _ _).mpr standing⟩
    | stored _ _ done _ =>
        rcases done path body with ⟨-, t, written⟩ | ⟨-, same⟩
        · exact ⟨_, t, written⟩
        · exact ⟨_, _, (same _ _).mpr standing⟩
  have led' := disk.place_ok led
  rw [Disk.standing, ← Disk.place_eq_spot led'] at stands
  exact ⟨_, Disk.file_of_place led' stands⟩

/-- A call for the page of a supplied entry keeps it supplied, and a page that is given
comes with its script. -/
theorem Supplied.page (supplied : Supplied c e) (accepts : Accepts c e)
    (here : c.entries[i]? = some e) (done : perform (page i) c = (r, c')) :
    ∃ e', c'.entries[i]? = some e' ∧ e.SameTemplate e' ∧ Supplied c' e' ∧
      ∀ a, r = .ok a → ∃ p, Served c' e' p ∧ a = p.artifact := by
  have steady := supplied.steady
  have called : Called i e c.disk c r c' := .plain done
  obtain ⟨config, disk, e', here', same, -, -⟩ := called.effect here steady
  obtain ⟨e₁, here₁, steady'⟩ := steady.called here called accepts.not_lags
  obtain rfl : e' = e₁ := Option.some.inj (here'.symm.trans here₁)
  have there (known : e'.lastLoad ≠ none ∨ ∃ a, r = .ok a) : HasFile c'.disk e' :=
    (page_hasFile here steady.mode steady.placed accepts supplied.there done here' known).of_body same
  refine ⟨e', here', same, ⟨steady', same.body ▸ supplied.stored, fun loaded => there (.inl loaded)⟩, ?_⟩
  rintro a rfl
  obtain ⟨time, p, compiles, given, script⟩ := steady.called_ok here called
  refine ⟨p, ⟨⟨time, compiles.carried config same fun file hf => ?_⟩, there (.inr ⟨a, rfl⟩), ?_⟩,
    given⟩
  · exact disk.file_eq (steady.outlying.not_inFolder _) hf
  · exact fun path content t body => script.mpr accepts.not_lags path content t (same.body ▸ body)

/-- A call for a page whose script is there leaves it there, whatever can be written. -/
theorem Served.page (served : Served c e p) (steady : Steady c e) (here : c.entries[i]? = some e)
    (done : perform (page i) c = (r, c')) : ∃ e', c'.entries[i]? = some e' ∧ e.SameTemplate e' ∧
      Steady c' e' ∧ Served c' e' p := by
  have called : Called i e c.disk c r c' := .plain done
  have prompt := served.not_lags c.disk
  obtain ⟨config, disk, e', here', same, -, ending⟩ := called.effect here steady
  obtain ⟨e₁, here₁, steady'⟩ := steady.called here called prompt
  obtain rfl : e' = e₁ := Option.some.inj (here'.symm.trans here₁)
  obtain ⟨time, compiles⟩ := served.compiles
  refine ⟨e', here', same, steady', ⟨time, compiles.carried config same fun file hf => ?_⟩,
    (ending.hasFile disk served.there).of_body same, ?_⟩
  · exact disk.file_eq (steady.outlying.not_inFolder _) hf
  · intro path content t body standing
    have body : e.body = some path := same.body ▸ body
    cases ending with
    | kept _ still _ =>
        exact served.script path content t body ((still path body _ _).mp standing)
    | stored compiles' made done _ =>
        obtain ⟨-, rfl⟩ := compiles.unique compiles'
        rcases done path body with ⟨-, t', written⟩ | ⟨-, still⟩
        · cases written.symm.trans standing
          exact made
        · exact served.script path content t body ((still _ _).mp standing)

/-! ## What leaves an entry alone -/

/-- What spares an entry keeps it supplied if the script stays where it is. -/
theorem Supplied.spared (supplied : Supplied c e) (here : c.entries[i]? = some e)
    (spared : Spares i c c') (kept : HasFile c.disk e → HasFile c'.disk e) : Supplied c' e :=
  ⟨supplied.steady.spared here spared, supplied.stored, fun loaded => kept (supplied.there loaded)⟩

/-- So it does with a page that was served, if the source stays as it is, too. -/
theorem Served.kept (served : Served c e p) (here : c.entries[i]? = some e)
    (spared : Spares i c c') (kept : HasFile c.disk e → HasFile c'.disk e)
    (source : ∀ file, c.disk.file e.source.path = .ok file →
      c'.disk.file e.source.path = .ok file) : Served c' e p := by
  obtain ⟨time, compiles⟩ := served.compiles
  refine ⟨⟨time, compiles.carried spared.config (.refl e) source⟩, kept served.there, ?_⟩
  intro path content t body standing
  have own : path ∈ e.files := by simp [Entry.files, body]
  exact served.script path content t body (spared.files e here path own content t standing)

theorem HasFile.sameBut {d d' : Disk} {s : List String → Prop} (same : Disk.SameBut s d d')
    (apart : ∀ path ∈ e.files, ¬ s (d.spot path)) (there : HasFile d e) : HasFile d' e := by
  intro path body
  obtain ⟨⟨names, content, time⟩, file⟩ := there path body
  exact ⟨_, same.file_eq (apart path (by simp [Entry.files, body])) file⟩

/-- Files are changed that are neither the source nor files of the entry. -/
theorem spares_sameBut {s : List String → Prop} (here : c.entries[i]? = some e)
    (config : c'.config = c.config) (entry : c'.entries[i]? = c.entries[i]?)
    (memory : ∀ b, (e.key, some b) ∈ c'.memory.held → (e.key, some b) ∈ c.memory.held)
    (same : Disk.SameBut s c.disk c'.disk) (source : ¬ s (c.disk.spot e.source.path))
    (apart : ∀ path ∈ e.files, ¬ s (c.disk.spot path)) : Spares i c c' := by
  have own : ∀ {e'}, c.entries[i]? = some e' → e = e' := fun h =>
    Option.some.inj (here.symm.trans h)
  refine ⟨config, entry, same.here, fun e' he' => ?_, fun e' he' => ?_, fun e' he' => ?_⟩
  all_goals obtain rfl := own he'
  · exact .of_sameBut same source
  · exact memory
  · exact fun path hp content time => (same.standing_iff (apart path hp) content time).mp

/-- The files of an entry are not those of another one. -/
theorem Orderly.files_apart (orderly : Orderly c) {j : Nat} (hi : c.Registered i e)
    (hj : c.Registered j e') (other : i ≠ j) {path : DiskPath} (own : path ∈ e.files) :
    ¬ inFolder c.config c.disk e'.ownName (c.disk.spot path) := by
  have files : e.files ≠ [] := List.ne_nil_of_mem own
  obtain ⟨n, name, plain, rfl⟩ := (orderly.placed i e hi).mem_files own
  rw [inFolder_spot plain]
  rintro (hn | hn | rfl)
  · exact orderly.apart j i e' e hj hi other.symm files (baseName_eq name (.inl hn))
  · exact orderly.apart j i e' e hj hi other.symm files (baseName_eq name (.inr hn))
  · rcases name with name | name
    · exact pageName_ne_readmeName _ name.symm
    · exact bodyName_ne_readmeName _ name.symm

/-- Work on another entry spares an entry. -/
theorem Orderly.spares_others (orderly : Orderly c) {j : Nat} (hi : c.Registered i e)
    (hj : c.Registered j e') (other : i ≠ j) (outlying : c.Outlying e.source.path)
    (only : OnlyEntry j e' c c') : Spares i c c' := by
  have key := NamesKnown.key_ne orderly.known orderly.once hj hi other.symm
  refine spares_sameBut hi.2 only.config (only.others i other) (fun b => only.memory _ _ key)
    only.disk (outlying.not_inFolder _) fun path => orderly.files_apart hi hj other

theorem Supplied.others (supplied : Supplied c e) (orderly : Orderly c) {j : Nat}
    (hi : c.Registered i e) (hj : c.Registered j e') (other : i ≠ j)
    (only : OnlyEntry j e' c c') : Supplied c' e :=
  supplied.spared hi.2 (orderly.spares_others hi hj other supplied.steady.outlying only)
    (.sameBut only.disk fun _ => orderly.files_apart hi hj other)

theorem Served.others (served : Served c e p) (orderly : Orderly c) {j : Nat}
    (hi : c.Registered i e) (hj : c.Registered j e') (other : i ≠ j)
    (outlying : c.Outlying e.source.path) (only : OnlyEntry j e' c c') : Served c' e p :=
  served.kept hi.2 (orderly.spares_others hi hj other outlying only)
    (.sameBut only.disk fun _ => orderly.files_apart hi hj other)
    fun _ hf => only.disk.file_eq (outlying.not_inFolder _) hf

/-- Neither files nor pages in memory are changed. -/
theorem spares_same (here : c.entries[i]? = some e) (here' : c'.entries[i]? = some e)
    (config : c'.config = c.config) (memory : c'.memory = c.memory) (disk : c'.disk = c.disk) :
    Spares i c c' := by
  have same : Disk.SameBut (fun _ => False) c.disk c'.disk := disk ▸ .refl _ _
  exact spares_sameBut here config (here'.trans here.symm) (fun b hb => memory ▸ hb) same id
    fun _ _ => id

/-- A file outside the snapshot folder is edited. -/
theorem Supplied.edited (supplied : Supplied c e) (here : c.entries[i]? = some e) {disk : Disk}
    {path : DiskPath} {content : Bytes} {time : Nat} (outlying : c.Outlying path)
    (written : c.disk.writeAt path content time = .ok disk)
    (later : ∀ names data t, c.disk.file path = .ok (names, data, t) → t < time) :
    Supplied (c.withDisk disk) e :=
  supplied.spared here (spares_edit here supplied.steady.placed outlying written later)
    (.sameBut (Disk.writeAt_ok written).1 fun _ => outlying.spot_ne supplied.steady.placed)

/-- Other entries are dropped. -/
theorem Supplied.dropped (supplied : Supplied c e) (orderly : Orderly c)
    {templateId? : Option String} {r : Except DiskError (List String)}
    (h : perform (invalidate templateId?) c = (r, c')) (hi : c'.Registered i e) :
    Supplied c' e := by
  have files := orderly.invalidate_onlyFiles h
  have entries : c'.entries = c.entries := files.entries
  obtain ⟨before, others⟩ :=
    registered_of_unregister (c := c) ⟨files.registered ▸ hi.1, files.entries ▸ hi.2⟩
  -- the files that go are those of other entries
  have apart : ∀ path ∈ e.files, ¬ inFolder c.config c.disk (fun n =>
      ∃ e₁ ∈ c.droppedEntries templateId?, n = pageName e₁.baseName ∨ n = bodyName e₁.baseName)
      (c.disk.spot path) := by
    rintro path own ⟨n, ⟨e₁, he₁, name⟩, spot⟩
    obtain ⟨j, hj, other⟩ := others e₁ he₁
    exact orderly.files_apart before hj other.symm own ⟨n, name.imp_right Or.inl, spot⟩
  have same : Disk.SameBut _ c.disk c'.disk := files.disk
  refine supplied.spared before.2 (spares_sameBut before.2 files.config ?_ (fun b hb => ?_) same
    (supplied.steady.outlying.not_inFolder _) apart) (.sameBut same apart)
  · rw [entries]
  · rw [files.memory] at hb
    exact (Recency.mem_foldl_erase.mp hb).2

end

/-! ## One entry among others -/

/-- A condition on an entry that stays while only other entries are worked on. -/
structure Lasting (P : Context → Entry → Prop) : Prop where
  same : ∀ {c c' : Context} {i : Nat} {e : Entry}, P c e → c.entries[i]? = some e →
    c'.entries[i]? = some e → c'.config = c.config → c'.memory = c.memory →
    c'.disk = c.disk → P c' e
  others : ∀ {c c' : Context} {i j : Nat} {e e' : Entry}, P c e → Orderly c →
    c.Registered i e → c.Registered j e' → i ≠ j → OnlyEntry j e' c c' → P c' e

theorem lasting_supplied : Lasting Supplied where
  same supplied here here' config memory disk :=
    supplied.spared here (spares_same here here' config memory disk) fun there => disk ▸ there
  others supplied orderly hi hj other only := supplied.others orderly hi hj other only

theorem lasting_served (p : Compile.Compilation) :
    Lasting fun c e => Steady c e ∧ Served c e p where
  same served here here' config memory disk :=
    have spared := spares_same here here' config memory disk
    ⟨served.1.spared here spared, served.2.kept here spared (fun there => disk ▸ there)
      fun _ hf => disk ▸ hf⟩
  others served orderly hi hj other only :=
    have outlying := served.1.outlying
    ⟨served.1.spared hi.2 (orderly.spares_others hi hj other outlying only),
      served.2.others orderly hi hj other outlying only⟩

/-- Registered entries have files of their own, and those that are selected by number and
name satisfy a condition. -/
structure Each (select : Nat → String → Prop) (P : Context → Entry → Prop) (c : Context) :
    Prop where
  orderly : Orderly c
  numbered : c.Numbered
  holds : ∀ i e, c.Registered i e → select i e.templateId → P c e

namespace Each

variable {select : Nat → String → Prop} {P : Context → Entry → Prop} {c c' : Context}

theorem of_empty (empty : c.registered = []) : Each select P c := by
  have none : ∀ i e, ¬ c.Registered i e := by
    rintro i e ⟨⟨name, hn⟩, -⟩
    rw [empty] at hn
    cases hn
  exact ⟨.of_empty empty, fun i e hr => (none i e hr).elim, fun i e hr => (none i e hr).elim⟩

theorem quiet (each : Each select P c) (lasting : Lasting P) (only : OnlyLog c c') :
    Each select P c' := by
  have kept := only.sameEntries
  have registered : c'.registered.Sublist c.registered := kept.registered ▸ .refl _
  refine ⟨each.orderly.shrunk kept.config registered kept.entries,
    each.numbered.shrunk only.sameNumber registered kept.entries, fun i e hr selected => ?_⟩
  have before : c.Registered i e := ⟨kept.registered ▸ hr.1, kept.entries ▸ hr.2⟩
  exact lasting.same (each.holds i e before selected) before.2 hr.2 kept.config kept.memory
    only.disk

/-- Registering keeps the condition if a new entry that is selected satisfies it. -/
theorem register (each : Each select P c) (lasting : Lasting P) {templateId : String}
    {source : Source} (mode? : Option CacheMode)
    (enough : (c.register templateId source mode?).2.host.named < 16 ^ 32)
    (new : ∀ number, Added (Entry.make c.config (c.modeOf mode?) templateId source number) c
        (c.register templateId source mode?).2 → select c.entries.size templateId →
      P (c.register templateId source mode?).2
        (Entry.make c.config (c.modeOf mode?) templateId source number)) :
    Each select P (c.register templateId source mode?).2 := by
  refine ⟨each.orderly.registerNext each.numbered mode? enough,
    each.numbered.register each.orderly.known templateId source mode?, ?_⟩
  rcases c.register_cases templateId source mode? with same | ⟨number, -, added⟩
  · rw [same]
    exact each.holds
  · intro i e hr selected
    rcases added.registered_before each.orderly.known hr with ⟨rfl, rfl⟩ | ⟨-, before⟩
    · refine new number added ?_
      cases mode : c.modeOf mode? <;> rw [mode] at selected <;> exact selected
    · exact lasting.same (each.holds i e before selected) before.2 hr.2 added.config added.memory
        added.disk

/-- Asking for a page keeps the condition if its entry satisfies it afterwards or is not
selected. -/
theorem page (each : Each select P c) (lasting : Lasting P) {i : Nat} {e : Entry}
    (hi : c.Registered i e) {r : Except Failure Artifact} (done : perform (page i) c = (r, c'))
    (own : ∀ e', c'.entries[i]? = some e' → select i e.templateId → P c' e') :
    Each select P c' := by
  have only := page_onlyEntry hi.2 (each.orderly.placed i e hi) done
  obtain ⟨e', here', same⟩ := only.own
  refine ⟨each.orderly.page hi only,
    each.numbered.onlyEntry hi only (page_sameNumber hi.2 done), fun j e₁ hr selected => ?_⟩
  rcases registered_of_onlyEntry only here' hr with ⟨rfl, rfl⟩ | ⟨other, before⟩
  · exact own e₁ here' (same.templateId ▸ selected)
  · exact lasting.others (each.holds j e₁ before selected) each.orderly before hi other only

/-- Templates may be edited, and entries dropped, without taking a script away from the
others. -/
theorem edited (each : Each select Supplied c) {disk : Disk} {path : DiskPath} {content : Bytes}
    {time : Nat} (outlying : c.Outlying path)
    (written : c.disk.writeAt path content time = .ok disk)
    (later : ∀ names data t, c.disk.file path = .ok (names, data, t) → t < time) :
    Each select Supplied (c.withDisk disk) :=
  ⟨each.orderly.shrunk rfl (.refl _) rfl, each.numbered.shrunk rfl (.refl _) rfl,
    fun i e hr selected => (each.holds i e hr selected).edited hr.2 outlying written later⟩

theorem dropped (each : Each select Supplied c) {templateId? : Option String}
    {r : Except DiskError (List String)} (h : perform (invalidate templateId?) c = (r, c')) :
    Each select Supplied c' := by
  obtain ⟨orderly, numbered⟩ := each.orderly.dropped each.numbered h
  have files := each.orderly.invalidate_onlyFiles h
  refine ⟨orderly, numbered, fun i e hr selected => ?_⟩
  have before := (registered_of_unregister (c := c)
    ⟨files.registered ▸ hr.1, files.entries ▸ hr.2⟩).1
  exact (each.holds i e before selected).dropped each.orderly h hr

end Each

end PageTemplates.Cache.Context
