import PageTemplates.Proofs.Cache.Asking
import PageTemplates.Proofs.Compile.Compiled
import PageTemplates.Proofs.Markup.Printed

/-!
# Pages and the scripts of their bodies

A page whose body is split off needs the script that was made with it. The page is
taken from memory or from its snapshot, the script always from its file. The main
facts:

* `Called`: a call for a page, with the files as they are during the call; the body
  script may be impossible to write, and an earlier one is there again afterwards;
* `Lags`: a compilation would leave the body script of an earlier one in place;
* `Steady`: the invariant of an entry, with the body script that stands belonging
  to its page;
* `body_follows_page`: a page comes with the script of the same compilation exactly
  when the entry does not lag.
-/

namespace PageTemplates

namespace Charset

/-- Text is as long in UTF-8 as it is in memory. -/
theorem length_encode_utf8 {text : String} {bytes : Bytes}
    (h : encode "utf-8" text = .ok bytes) : bytes.length = text.utf8ByteSize := by
  simp only [encode, Markup.named_utf8, bind, Except.bind] at h
  cases h
  change (text.toList.flatMap String.utf8EncodeChar).length = _
  rw [← String.size_toByteArray, ← String.utf8Encode_toList, List.utf8Encode,
    List.size_toByteArray]

end Charset

namespace Disk

/-- Puts something at a place, or nothing. -/
def setItem (d : Disk) (names : List String) (item? : Option Item) : Disk :=
  match item? with
  | some i => d.put names i
  | none => d.drop names

theorem item?_setItem (d : Disk) {names : List String} (item? : Option Item) (h : names ≠ [])
    (ns : List String) :
    (d.setItem names item?).item? ns = if ns = names then item? else d.item? ns := by
  cases item? with
  | some i => exact item?_put d i h ns
  | none => exact item?_drop d h ns

theorem standing_setItem (d : Disk) {names : List String} (item? : Option Item) (h : names ≠ [])
    (p : DiskPath) :
    (d.setItem names item?).standing p = if d.spot p = names then item? else d.standing p := by
  have spot : (d.setItem names item?).spot p = d.spot p := by cases item? <;> rfl
  rw [standing, spot, item?_setItem d item? h, standing]

/-- A folder in the way of a file. -/
theorem sameBut_blocked (d : Disk) {names : List String} (h : names ≠ []) :
    SameBut (· = names) d (d.put names .folder) := by
  refine ⟨rfl, fun ns hf => ?_, fun ns hs _ _ => ?_⟩
  · rw [item?_put d _ h]
    split
    · rfl
    · exact hf
  · rw [item?_put d _ h, if_neg hs]

/-- What stood in a place is there again when the folder in its way is gone. -/
theorem sameBut_restored {d d' : Disk} {names : List String} (h : names ≠ [])
    {s : List String → Prop} (same : SameBut s (d.put names .folder) d') :
    SameBut s d (d'.setItem names (d.item? names)) := by
  refine ⟨?_, fun ns hf => ?_, fun ns hs content time => ?_⟩
  · cases hi : d.item? names <;> exact same.here
  · rw [item?_setItem d' _ h]
    split
    · rename_i hn
      rwa [← hn]
    · rename_i hn
      exact same.folders ns (by rwa [item?_put d _ h, if_neg hn])
  · rw [item?_setItem d' _ h]
    split
    · rename_i hn
      rw [hn]
    · rename_i hn
      rw [same.files ns hs, item?_put d _ h, if_neg hn]

end Disk

namespace Cache

namespace Context

/-! ## The script of a page that was compiled -/

theorem bodyScript_of_compile {config : Config} {e : Entry} {data : Bytes}
    {p : Compile.Compilation} (mode : e.mode = .browserCacheable)
    (h : (e.compile config data).value = .ok p) :
    ∃ text script, p.bodyScript = some (text, script) ∧
      Charset.encode p.charset text = .ok script := by
  unfold Entry.compile at h
  simp only [bind, mode] at h
  split at h
  · cases h
  · exact Compile.compileAs_bodyScript (s := e.settings config) (by simp [Entry.settings, mode]) h

/-- A page of a split template that was compiled comes with a body script. -/
theorem Compiles.bodyScript {c : Context} {e : Entry} {time : Nat} {p : Compile.Compilation}
    (h : Compiles c e time p) (mode : e.mode = .browserCacheable) :
    ∃ script, p.bodyScript.map (·.2) = some script := by
  obtain ⟨_, data, -, hv⟩ := h
  obtain ⟨text, script, made, -⟩ := bodyScript_of_compile mode hv
  exact ⟨script, by rw [made]; rfl⟩

/-- Whether a file can be written does not depend on what is written. -/
theorem writeSnapshot_refused (path : DiskPath) (content content' : Bytes) (d : Disk) :
    (writeSnapshot path content d).1 = (writeSnapshot path content' d).1 := by
  unfold writeSnapshot
  cases makeSnapshotFolder path.parent d with
  | error e => rfl
  | ok d₁ =>
      simp only [Disk.write, Disk.writeAt, bind, Except.bind]
      cases d₁.place path with
      | error e => rfl
      | ok names =>
          dsimp only
          rcases d₁.item? names with _ | ⟨_, _⟩ | _ <;> rfl

/-- How storing a body script ends while the files are `d`: it stands at its path, or
it is refused and what stood there `before` stands there `after`. -/
def Stored (d : Disk) (path : DiskPath) (script : Bytes) (before after : Disk) : Prop :=
  (writeSnapshot path script d).1 = none ∧
      (∃ time, after.standing path = some (.file script time)) ∨
    (writeSnapshot path script d).1 ≠ none ∧ ∀ content time,
      after.standing path = some (.file content time) ↔
        before.standing path = some (.file content time)

theorem storeBody_stored {e : Entry} {path : DiskPath} {script : Bytes} {c c' : Context}
    {r : Except Failure Unit} (placed : e.WellPlaced c.config) (body : e.body = some path)
    (h : perform (storeBody e (some script)) c = (r, c')) :
    Stored c.disk path script c.disk c'.disk := by
  obtain rfl := placed.body path body
  have hplain := bodyName_plain placed.noSlash
  unfold storeBody at h
  rw [body] at h
  rcases hw : writeSnapshot (c.config.snapshotFolder.joinText (bodyName e.baseName)) script
    c.disk with ⟨err?, d⟩
  simp only [perform_bind, perform_get, hw, perform_modify] at h
  rcases writeSnapshot_sameBut hplain script c.disk hw with ⟨rfl, -, standing⟩ | ⟨err, rfl, same⟩
  · cases h
    exact .inl ⟨by rw [hw], standing⟩
  · refine .inr ⟨by simp [hw], ?_⟩
    have kept := same.standing_iff (p := c.config.snapshotFolder.joinText (bodyName e.baseName))
      fun hs => bodyName_ne_readmeName _ ((inFolder_spot hplain).mp hs)
    dsimp only at h
    split at h <;> cases h
    · exact kept
    · rw [tell_disk]
      exact kept

/-- Once the body script was dealt with, only the snapshot is written. -/
theorem settle_sameBut {i : Nat} {e : Entry} {a : Artifact} {modified : Nat} {c c' : Context}
    {r : Except Failure Unit} (placed : e.WellPlaced c.config)
    (h : perform (settle i e a modified) c = (r, c')) :
    Disk.SameBut (inFolder c.config c.disk fun n => n = pageName e.baseName ∨ n = readmeName)
      c.disk c'.disk := by
  unfold settle at h
  rw [perform_bind_ok (perform_modify _ _)] at h
  let c₁ := c.updateEntry i fun e => { e with modelInit := a.modelInit, modelEnd := a.modelEnd }
  rcases hs : perform (storePage i e a.content) c₁ with ⟨r₂, c₂⟩
  have stored : Disk.SameBut (inFolder c.config c.disk fun n =>
      n = pageName e.baseName ∨ n = readmeName) c.disk c₂.disk := by
    rcases storePage_effect i e a.content (c := c₁) placed hs with
      ⟨-, files, -⟩ | ⟨-, c₃, files, rfl⟩ | ⟨-, files⟩
    · exact files.disk
    · exact files.disk
    · exact (files.mono fun _ => Or.inr).disk
  cases r₂ with
  | error err =>
      rw [perform_bind_error hs] at h
      cases h
      exact stored
  | ok _ =>
      rw [perform_bind_ok hs] at h
      cases h
      exact stored

theorem accept_stored {i : Nat} {e : Entry} {p : Compile.Compilation} {modified : Nat}
    {path : DiskPath} {script : Bytes} {c c' : Context} {r : Except Failure Unit}
    (placed : e.WellPlaced c.config) (body : e.body = some path)
    (made : p.bodyScript.map (·.2) = some script)
    (h : perform (accept i e p modified) c = (r, c')) :
    Stored c.disk path script c.disk c'.disk := by
  rw [accept_eq, perform_bind_ok (perform_modify _ _), made] at h
  let c₁ := c.updateEntry i fun e => { e with charset := some p.charset }
  rcases hb : perform (storeBody e (some script)) c₁ with ⟨r₂, c₂⟩
  have stored := storeBody_stored (c := c₁) placed body hb
  cases r₂ with
  | error err =>
      rw [perform_bind_error hb] at h
      cases h
      exact stored
  | ok _ =>
      rw [perform_bind_ok hb] at h
      have files := storeBody_onlyFiles e (some script) (c := c₁) placed
      rw [Leaves, hb] at files
      -- what is left to do writes the page and the readme, which have other names
      have kept : ∀ content time, c'.disk.standing path = some (.file content time) ↔
          c₂.disk.standing path = some (.file content time) := by
        have same := settle_sameBut (files.config ▸ placed) h
        obtain rfl := placed.body path body
        refine same.standing_iff fun hs => ?_
        have hplain := bodyName_plain placed.noSlash
        rw [files.config] at hs
        rcases (inFolder_spot hplain).mp hs with hn | hn
        · exact pageName_ne_bodyName _ _ hn.symm
        · exact bodyName_ne_readmeName _ hn
      rcases stored with ⟨written, time, standing⟩ | ⟨refused, same⟩
      · exact .inl ⟨written, time, (kept _ _).mpr standing⟩
      · exact .inr ⟨refused, fun content time => (kept content time).trans (same content time)⟩

/-! ## A call for the page -/

/-- What a call for the page of an entry has to do with its body script: nothing, for
the page is at hand or cannot be had; or it compiles the source while the files are
`d` and stores the script. -/
inductive BodyEnding (c : Context) (d : Disk) (e e' : Entry) (after : Disk) :
    Except Failure Artifact → Prop where
  | kept {r : Except Failure Artifact} (lastLoad : e'.lastLoad = e.lastLoad)
      (same : ∀ path, e.body = some path → ∀ content time,
        after.standing path = some (.file content time) ↔
          c.disk.standing path = some (.file content time))
      (answer : ∀ a, r = .ok a → ∃ time p, e.lastLoad = some time ∧ Compiles c e time p ∧
        a = p.artifact) :
      BodyEnding c d e e' after r
  | stored {r : Except Failure Artifact} {time : Nat} {p : Compile.Compilation} {script : Bytes}
      (compiles : Compiles c e time p) (made : p.bodyScript.map (·.2) = some script)
      (done : ∀ path, e.body = some path → Stored d path script c.disk after)
      (answer : ∀ a, r = .ok a → a = p.artifact) :
      BodyEnding c d e e' after r

/-- A source is compiled to one page. -/
theorem Compiles.unique {c : Context} {e : Entry} {time time' : Nat} {p p' : Compile.Compilation}
    (h : Compiles c e time p) (h' : Compiles c e time' p') : time = time' ∧ p = p' := by
  obtain ⟨names, data, hf, hv⟩ := h
  obtain ⟨names', data', hf', hv'⟩ := h'
  rw [hf] at hf'
  cases hf'
  rw [hv] at hv'
  cases hv'
  exact ⟨rfl, rfl⟩

/-- With the same source an entry is compiled to the same page. -/
theorem Compiles.of_source {c c' : Context} {e e' : Entry} {time : Nat} {p : Compile.Compilation}
    {file : List String × Bytes × Nat} (config : c'.config = c.config) (same : e.SameTemplate e')
    (before : c.disk.file e.source.path = .ok file) (after : c'.disk.file e.source.path = .ok file)
    (h : Compiles c' e' time p) : Compiles c e time p := by
  obtain ⟨names, data, hf, hv⟩ := h
  rw [same.source, after] at hf
  cases hf
  rw [same.compile_eq, config] at hv
  exact ⟨names, data, before, hv⟩

theorem page_effect {i : Nat} {e : Entry} {c c' : Context} {r : Except Failure Artifact}
    (here : c.entries[i]? = some e) (mode : e.mode = .browserCacheable)
    (placed : e.WellPlaced c.config) (outlying : c.Outlying e.source.path)
    (coherent : Coherent c e) (done : perform (page i) c = (r, c')) :
    OnlyEntry i e c c' ∧ ∃ e', c'.entries[i]? = some e' ∧ e.SameTemplate e' ∧ c'.Coherent e' ∧
      BodyEnding c c.disk e e' c'.disk r := by
  have answers : Answers i e c c' r := by
    refine pageOf_answers here placed outlying coherent ?_
    rwa [← perform_page here]
  obtain ⟨e₁, here₁, coherent'⟩ := answers.coherent
  obtain ⟨e', here', same⟩ := answers.only.own
  obtain rfl : e₁ = e' := Option.some.inj (here₁.symm.trans here')
  refine ⟨answers.only, e₁, here', same, coherent', ?_⟩
  -- the page was at hand, which leaves the script alone, or the source was tried
  cases page_asked here done with
  | atHand loaded fresh _ =>
      obtain ⟨p, compiles, -⟩ := holds_of_fresh coherent loaded fresh
      obtain rfl : e = e₁ := Option.some.inj (here.symm.trans here')
      refine .kept rfl (fun _ _ _ _ => Iff.rfl) fun a ha => ?_
      obtain ⟨time', p', compiles', hp⟩ := answers.answer a ha
      obtain ⟨rfl, rfl⟩ := compiles.unique compiles'
      exact ⟨_, p, loaded, compiles, hp⟩
  | tried h =>
      cases h with
      | failed quiet =>
          have still := quiet.sameEntries.entries ▸ here
          obtain rfl : e = e₁ := Option.some.inj (still.symm.trans here')
          refine .kept rfl ?_ fun _ ha => by cases ha
          rw [quiet.disk]
          exact fun _ _ _ _ => Iff.rfl
      | @compiled c₁ _ time p r' quiet compiles accepted =>
          have placed₁ := quiet.sameEntries.config ▸ placed
          obtain ⟨script, made⟩ := compiles.bodyScript mode
          refine .stored compiles made (fun path body => ?_) fun a ha => ?_
          · rw [← quiet.disk]
            exact accept_stored placed₁ body made accepted
          · cases r' with
            | ok _ => exact (Except.ok.inj ha).symm
            | error err => cases ha

/-- A call for the page of the entry `e` of number `i`, with the files `d` as they are
during the call. Either they are as they were before, or the body script is
impossible to write, since a folder is in its way, and what stood in its place
before stands there again afterwards. -/
inductive Called (i : Nat) (e : Entry) :
    Disk → Context → Except Failure Artifact → Context → Prop where
  | plain {c c' : Context} {r : Except Failure Artifact} (done : perform (page i) c = (r, c')) :
      Called i e c.disk c r c'
  | refused {c c' : Context} {r : Except Failure Artifact} {path : DiskPath}
      (body : e.body = some path)
      (done : perform (page i) (c.withDisk (c.disk.put (c.disk.spot path) .folder)) = (r, c')) :
      Called i e (c.disk.put (c.disk.spot path) .folder) c r
        (c'.withDisk (c'.disk.setItem (c.disk.spot path) (c.disk.item? (c.disk.spot path))))

/-- Compiling the source while the files are `d` would leave another script in place
than the one of the page: one stands there, and writing is refused. -/
def Lags (c : Context) (d : Disk) (e : Entry) : Prop :=
  ∃ time p path script content t, Compiles c e time p ∧ e.body = some path ∧
    p.bodyScript.map (·.2) = some script ∧
    c.disk.standing path = some (.file content t) ∧ content ≠ script ∧
    (writeSnapshot path script d).1 ≠ none

/-- If a body script stands at the path of an entry, it is the one of the page. -/
def HasScript (d : Disk) (e : Entry) (p : Compile.Compilation) : Prop :=
  ∀ path content time, e.body = some path → d.standing path = some (.file content time) →
    p.bodyScript.map (·.2) = some content

/-- A split template with a source: what it can be asked for without compiling is what
the source is compiled to, unless that has become newer, and so is its script. -/
structure Steady (c : Context) (e : Entry) : Prop where
  mode : e.mode = .browserCacheable
  placed : e.WellPlaced c.config
  outlying : c.Outlying e.source.path
  source : ∃ names data t, c.disk.file e.source.path = .ok (names, data, t)
  coherent : c.Coherent e
  script : ∀ time p, e.lastLoad = some time → Compiles c e time p → HasScript c.disk e p

/-- What a call does, whether the body script can be written or not. -/
structure CallEffect (i : Nat) (e : Entry) (d : Disk) (c c' : Context)
    (r : Except Failure Artifact) : Prop where
  config : c'.config = c.config
  disk : Disk.SameBut (inFolder c.config c.disk e.ownName) c.disk c'.disk
  after : ∃ e', c'.entries[i]? = some e' ∧ e.SameTemplate e' ∧ c'.Coherent e' ∧
    BodyEnding c d e e' c'.disk r

/-- The place of an entry's body script is in the snapshot folder. -/
theorem inFolder_body {config : Config} {d : Disk} {e : Entry} {path : DiskPath}
    (placed : e.WellPlaced config) (body : e.body = some path) :
    inFolder config d (· = bodyName e.baseName) (d.spot path) := by
  obtain rfl := placed.body path body
  exact (inFolder_spot (bodyName_plain placed.noSlash)).mpr rfl

theorem spot_body_ne_nil {config : Config} {e : Entry} {path : DiskPath}
    (placed : e.WellPlaced config) (body : e.body = some path) (d : Disk) : d.spot path ≠ [] := by
  obtain ⟨n, -, hn⟩ := inFolder_body (d := d) placed body
  simp [hn]

/-- The place of its snapshot is another one. -/
theorem spot_page_ne {config : Config} {d : Disk} {e : Entry} {p path : DiskPath}
    (placed : e.WellPlaced config) (page : e.snapshot = some p) (body : e.body = some path) :
    d.spot p ≠ d.spot path := by
  intro h
  have inside := inFolder_body (d := d) placed body
  obtain rfl := placed.snapshot p page
  rw [← h] at inside
  exact pageName_ne_bodyName _ _ ((inFolder_spot (pageName_plain placed.noSlash)).mp inside)

/-- With a folder in its way the body script cannot be written. -/
theorem writeSnapshot_blocked {config : Config} {e : Entry} {path : DiskPath}
    (placed : e.WellPlaced config) (body : e.body = some path) (d : Disk) (script : Bytes) :
    (writeSnapshot path script (d.put (d.spot path) .folder)).1 ≠ none := by
  intro written
  have hne := spot_body_ne_nil placed body d
  obtain rfl := placed.body path body
  rcases hw : writeSnapshot (config.snapshotFolder.joinText (bodyName e.baseName)) script
    (d.put (d.spot (config.snapshotFolder.joinText (bodyName e.baseName))) .folder) with ⟨err?, d'⟩
  rw [hw] at written
  rcases writeSnapshot_sameBut (bodyName_plain placed.noSlash) script _ hw with
    ⟨-, same, time, standing⟩ | ⟨err, rfl, -⟩
  · have folder := same.folders _ ((Disk.item?_put d .folder hne _).trans (if_pos rfl))
    rw [Disk.standing, same.spot_eq] at standing
    cases folder.symm.trans standing
  · cases written

theorem Steady.spot_source_ne {c : Context} {e : Entry} {path : DiskPath} (steady : Steady c e)
    (body : e.body = some path) : c.disk.spot e.source.path ≠ c.disk.spot path := fun hs =>
  steady.outlying.not_inFolder _ (hs ▸ inFolder_body steady.placed body)

/-- A folder in the way of the body script is not in the way of the source. -/
theorem Steady.file_blocked {c : Context} {e : Entry} {path : DiskPath}
    {file : List String × Bytes × Nat} (steady : Steady c e) (body : e.body = some path)
    (before : c.disk.file e.source.path = .ok file) :
    (c.disk.put (c.disk.spot path) .folder).file e.source.path = .ok file :=
  (Disk.sameBut_blocked c.disk (spot_body_ne_nil steady.placed body c.disk)).file_eq
    (steady.spot_source_ne body) before

theorem Called.effect {i : Nat} {e : Entry} {d : Disk} {c c' : Context}
    {r : Except Failure Artifact} (called : Called i e d c r c') (here : c.entries[i]? = some e)
    (steady : Steady c e) : CallEffect i e d c c' r := by
  have placed := steady.placed
  cases called with
  | plain done =>
      obtain ⟨only, after⟩ := page_effect here steady.mode placed steady.outlying steady.coherent done
      exact ⟨only.config, only.disk, after⟩
  | @refused _ c₂ _ path body done =>
      have hne := spot_body_ne_nil placed body c.disk
      have blocked := Disk.sameBut_blocked c.disk hne
      have apart := steady.spot_source_ne body
      let c₁ := c.withDisk (c.disk.put (c.disk.spot path) .folder)
      have coherent₁ : c₁.Coherent e := by
        refine steady.coherent.mono rfl (.of_sameBut blocked apart) ⟨rfl, fun _ hb => hb, ?_⟩
        intro p hp
        exact ⟨hp, fun content time =>
          (blocked.standing_iff (spot_page_ne placed hp body) content time).mp⟩
      obtain ⟨only, e', here', same, coherent₂, ending⟩ :=
        page_effect (c := c₁) here steady.mode placed steady.outlying coherent₁ done
      have restored := Disk.sameBut_restored hne only.disk
      have spot : ∀ p, c₂.disk.spot p = c.disk.spot p := only.disk.spot_eq
      -- the source is the same before, during and after the call
      obtain ⟨names, data, t, before⟩ := steady.source
      have during := steady.file_blocked body before
      have after := only.disk.file_eq (steady.outlying.not_inFolder _) during
      have again := restored.file_eq (steady.outlying.not_inFolder _) before
      have compiled : ∀ {time p}, Compiles c₁ e time p → Compiles c e time p :=
        .of_source (show c₁.config = c.config from rfl) (.refl e) before during
      refine ⟨only.config, restored, e', here', same, ?_, ?_⟩
      · refine coherent₂.mono rfl ?_ ⟨rfl, fun _ hb => hb, fun p hp => ⟨hp, ?_⟩⟩
        · intro names' data' t' hf
          rw [same.source] at hf ⊢
          rw [after] at hf
          cases hf
          exact ⟨_, _, _, again, .inl ⟨rfl, rfl⟩⟩
        · intro content time hs
          have other := spot_page_ne (d := c.disk) placed (same.snapshot_eq hp) body
          rw [← spot] at other
          rwa [Context.disk, Context.withDisk, Disk.standing_setItem _ _ hne, if_neg other] at hs
      · have back : ∀ content time,
            (c₂.disk.setItem (c.disk.spot path) (c.disk.item? (c.disk.spot path))).standing path
                = some (.file content time) ↔
              c.disk.standing path = some (.file content time) := by
          intro content time
          rw [Disk.standing_setItem _ _ hne, if_pos (spot path)]
          rfl
        cases ending with
        | kept lastLoad _ answer =>
            refine .kept lastLoad (fun path' body' => ?_) fun a ha => ?_
            · obtain rfl := Option.some.inj (body.symm.trans body')
              exact back
            · obtain ⟨time, p, loaded, compiles, hp⟩ := answer a ha
              exact ⟨time, p, loaded, compiled compiles, hp⟩
        | stored compiles made _ answer =>
            refine .stored (compiled compiles) made
              (fun path' body' => ?_) answer
            obtain rfl := Option.some.inj (body.symm.trans body')
            exact .inr ⟨writeSnapshot_blocked placed body _ _, back⟩

/-! ## Pages come with their scripts -/

section

variable {i : Nat} {e e' : Entry} {d after : Disk} {c c' : Context} {r : Except Failure Artifact}
  {time : Nat} {p : Compile.Compilation}

/-- Unless the entry lags, the script that stands after a call is the one of the page
that was given or that the entry counts as loaded. -/
theorem BodyEnding.hasScript (ending : BodyEnding c d e e' after r) (steady : Steady c e)
    (prompt : ¬ c.Lags d e) (compiles : Compiles c e time p)
    (known : e'.lastLoad = some time ∨ ∃ a, r = .ok a) : HasScript after e p := by
  intro path content t body standing
  cases ending with
  | kept lastLoad same answer =>
      have loaded : e.lastLoad = some time := by
        rcases known with known | ⟨a, ha⟩
        · rw [← lastLoad, known]
        · obtain ⟨time', p', loaded, compiles', -⟩ := answer a ha
          rw [loaded, (compiles.unique compiles').1]
      exact steady.script time p loaded compiles path content t body ((same path body _ _).mp standing)
  | stored compiles' made done _ =>
      obtain ⟨-, rfl⟩ := compiles.unique compiles'
      rcases done path body with ⟨-, t', written⟩ | ⟨refused, same⟩
      · cases written.symm.trans standing
        exact made
      · by_contra other
        refine prompt ⟨time, p, path, _, content, t, compiles, body, made, (same _ _).mp standing,
          ?_, refused⟩
        rintro rfl
        exact other made

/-- An entry that lags has another script in place after the call than the one of the
page. -/
theorem BodyEnding.not_lags (ending : BodyEnding c d e e' after r) (compiles : Compiles c e time p)
    (script : HasScript after e p) : ¬ c.Lags d e := by
  rintro ⟨_, p', path, _, content, t, compiles', body, made, standing, other, refused⟩
  obtain ⟨-, rfl⟩ := compiles.unique compiles'
  refine other (Option.some.inj ((script path content t body ?_).symm.trans made))
  cases ending with
  | kept _ same _ => exact (same path body _ _).mpr standing
  | stored compiles₂ made₂ done _ =>
      obtain ⟨-, rfl⟩ := compiles.unique compiles₂
      obtain rfl := Option.some.inj (made.symm.trans made₂)
      rcases done path body with ⟨written, -⟩ | ⟨-, same⟩
      · exact absurd written refused
      · exact (same _ _).mpr standing

/-- A call that gives a page gives what the source is compiled to, and the script that
stands afterwards is the one made with it exactly when the entry does not lag. -/
theorem Steady.called_ok (steady : Steady c e) (here : c.entries[i]? = some e) {a : Artifact}
    (called : Called i e d c (.ok a) c') :
    ∃ time p, Compiles c e time p ∧ a = p.artifact ∧ (HasScript c'.disk e p ↔ ¬ c.Lags d e) := by
  obtain ⟨-, -, e', -, -, -, ending⟩ := called.effect here steady
  obtain ⟨time, p, compiles, ha⟩ : ∃ time p, Compiles c e time p ∧ a = p.artifact := by
    cases ending with
    | kept _ _ answer =>
        obtain ⟨time, p, -, compiles, ha⟩ := answer a rfl
        exact ⟨time, p, compiles, ha⟩
    | stored compiles _ _ answer => exact ⟨_, _, compiles, answer a rfl⟩
  exact ⟨time, p, compiles, ha, ending.not_lags compiles,
    fun prompt => ending.hasScript steady prompt compiles (.inr ⟨a, rfl⟩)⟩

/-- An entry lags if a script other than the one of its page is there and cannot be
replaced. -/
theorem Steady.lags_of_blocked (steady : Steady c e) (compiles : Compiles c e time p)
    {path : DiskPath} (body : e.body = some path) {content script : Bytes} {t : Nat}
    (made : p.bodyScript.map (·.2) = some script)
    (standing : c.disk.standing path = some (.file content t)) (other : content ≠ script) :
    c.Lags (c.disk.put (c.disk.spot path) .folder) e :=
  ⟨time, p, path, script, content, t, compiles, body, made, standing, other,
    writeSnapshot_blocked steady.placed body _ _⟩

/-- A call gives the page even if the script cannot be written. -/
theorem Steady.refused_gives (steady : Steady c e) (here : c.entries[i]? = some e)
    (compiles : Compiles c e time p) {path : DiskPath} (body : e.body = some path)
    (possible : ∀ path ∈ e.files, path.hasNul = false) :
    ∃ a c', Called i e (c.disk.put (c.disk.spot path) .folder) c (.ok a) c' := by
  obtain ⟨names, data, before, hv⟩ := compiles
  have still : Compiles (c.withDisk (c.disk.put (c.disk.spot path) .folder)) e time p :=
    ⟨names, data, steady.file_blocked body before, hv⟩
  obtain ⟨a, c', done⟩ :=
    page_gives (c := c.withDisk (c.disk.put (c.disk.spot path) .folder)) here still possible
  exact ⟨a, _, .refused body done⟩

/-- After the first call the script of the page is there, if it could be written. -/
theorem Steady.first_call (steady : Steady c e) (here : c.entries[i]? = some e)
    (new : e.lastLoad = none) (compiles : Compiles c e time p) {a : Artifact}
    (called : Called i e d c (.ok a) c') {path : DiskPath} (body : e.body = some path)
    {script : Bytes} (made : p.bodyScript.map (·.2) = some script)
    (accepted : (writeSnapshot path script d).1 = none) :
    ∃ t, c'.disk.standing path = some (.file script t) := by
  obtain ⟨-, -, _, -, -, -, ending⟩ := called.effect here steady
  cases ending with
  | kept _ _ answer =>
      obtain ⟨_, _, loaded, -⟩ := answer a rfl
      cases new.symm.trans loaded
  | stored compiles' made' done _ =>
      obtain ⟨-, rfl⟩ := compiles.unique compiles'
      obtain rfl := Option.some.inj (made.symm.trans made')
      rcases done path body with ⟨-, written⟩ | ⟨refused, -⟩
      · exact written
      · exact absurd accepted refused

/-- A call keeps the invariant unless the entry lags. -/
theorem Steady.called (steady : Steady c e) (here : c.entries[i]? = some e)
    (called : Called i e d c r c') (prompt : ¬ c.Lags d e) :
    ∃ e', c'.entries[i]? = some e' ∧ Steady c' e' := by
  obtain ⟨config, disk, e', here', same, coherent, ending⟩ := called.effect here steady
  obtain ⟨names, data, t, before⟩ := steady.source
  have again := disk.file_eq (steady.outlying.not_inFolder _) before
  have outlying : c'.Outlying e'.source.path := by
    have ho := steady.outlying
    unfold Outlying at ho ⊢
    rwa [disk.here, config, same.source]
  refine ⟨e', here', same.mode.trans steady.mode, same.wellPlaced (config ▸ steady.placed), outlying,
    ⟨names, data, t, same.source ▸ again⟩, coherent, ?_⟩
  intro time p loaded compiles path content t body standing
  have compiles := compiles.of_source config same before again
  exact ending.hasScript steady prompt compiles (.inl loaded) path content t (same.body ▸ body) standing

end

/-! ## Runs -/

/-- What happens between calls to a cache with the entry of number `i`: the source is as
it was or newer, the files of the entry are as they were or gone, pages may have been
forgotten, and everything else may change at will. -/
structure Spares (i : Nat) (c c' : Context) : Prop where
  config : c'.config = c.config
  entry : c'.entries[i]? = c.entries[i]?
  here : c'.disk.here = c.disk.here
  source : ∀ e, c.entries[i]? = some e → Renewed e.source.path c.disk c'.disk
  memory : ∀ e, c.entries[i]? = some e → ∀ b, (e.key, some b) ∈ c'.memory.held →
    (e.key, some b) ∈ c.memory.held
  files : ∀ e, c.entries[i]? = some e → ∀ p ∈ e.files, ∀ content time,
    c'.disk.standing p = some (.file content time) → c.disk.standing p = some (.file content time)

/-- A file outside the snapshot folder is edited. -/
theorem spares_edit {i : Nat} {e : Entry} {c : Context} {disk : Disk} {path : DiskPath}
    {content : Bytes} {time : Nat} (here : c.entries[i]? = some e) (placed : e.WellPlaced c.config)
    (outlying : c.Outlying path) (written : c.disk.writeAt path content time = .ok disk)
    (later : ∀ names data t, c.disk.file path = .ok (names, data, t) → t < time) :
    Spares i c (c.withDisk disk) := by
  have same : ∀ {e'}, c.entries[i]? = some e' → e = e' := fun h => Option.some.inj (here.symm.trans h)
  refine ⟨rfl, rfl, (Disk.writeAt_ok written).1.here, ?_, fun _ _ _ hb => hb, ?_⟩
  · intro e' he'
    obtain rfl := same he'
    exact .of_writeAt written later
  · intro e' he' p hp content' time'
    obtain rfl := same he'
    exact (outlying.standing_writeAt written placed hp content' time').mp

theorem Steady.spared {i : Nat} {e : Entry} {c c' : Context} (steady : Steady c e)
    (here : c.entries[i]? = some e) (spared : Spares i c c') : Steady c' e := by
  have renewed := spared.source e here
  obtain ⟨names, data, t, hf⟩ := steady.source
  obtain ⟨names', data', t', hf', fresh⟩ := renewed names data t hf
  have outlying : c'.Outlying e.source.path := by
    have ho := steady.outlying
    unfold Outlying at ho ⊢
    rwa [spared.here, spared.config]
  refine ⟨steady.mode, spared.config ▸ steady.placed, outlying, ⟨names', data', t', hf'⟩, ?_, ?_⟩
  · refine steady.coherent.mono spared.config renewed ⟨rfl, spared.memory e here, fun p hp => ?_⟩
    exact ⟨hp, spared.files e here p (by simp [Entry.files, hp])⟩
  · intro time p loaded compiles path content t₂ body standing
    have before := spared.files e here path (by simp [Entry.files, body]) content t₂ standing
    refine steady.script time p loaded ?_ path content t₂ body before
    -- a source that is newer than the page is not what the page was compiled from
    obtain ⟨_, _, _, hf₁, hle, -⟩ := steady.coherent time loaded
    rw [hf] at hf₁
    cases hf₁
    obtain ⟨_, _, hf₂, hv⟩ := compiles
    rw [hf'] at hf₂
    cases hf₂
    rcases fresh with ⟨rfl, rfl⟩ | later
    · exact ⟨names, data', hf, spared.config ▸ hv⟩
    · omega

/-- One thing that happens to a cache with the entry of number `i`: its page is asked
for, with the files as `allowed`, whether that succeeds or not; or something else
happens that spares it. -/
inductive EntryStep (allowed : Context → Disk → Entry → Prop) (i : Nat) :
    Context → Context → Prop where
  | call {c c' : Context} {d : Disk} {e : Entry} {r : Except Failure Artifact}
      (here : c.entries[i]? = some e) (permitted : allowed c d e) (called : Called i e d c r c') :
      EntryStep allowed i c c'
  | others {c c' : Context} (spared : Spares i c c') : EntryStep allowed i c c'

theorem EntryStep.permit {allowed : Context → Disk → Entry → Prop} {i : Nat} {c c' : Context}
    (step : EntryStep allowed i c c') : EntryStep (fun _ _ _ => True) i c c' := by
  cases step with
  | call here _ called => exact .call here trivial called
  | others spared => exact .others spared

/-- A run in which the entry never lags keeps the invariant. -/
theorem Steady.run {i : Nat} {e : Entry} {c c' : Context} (steady : Steady c e)
    (here : c.entries[i]? = some e)
    (run : Relation.ReflTransGen (EntryStep (fun c d e => ¬ c.Lags d e) i) c c') :
    ∃ e', c'.entries[i]? = some e' ∧ Steady c' e' := by
  induction run with
  | refl => exact ⟨e, here, steady⟩
  | tail _ step ih =>
      obtain ⟨e₁, here₁, steady₁⟩ := ih
      cases step with
      | call here₂ prompt called =>
          obtain rfl := Option.some.inj (here₁.symm.trans here₂)
          exact steady₁.called here₁ called prompt
      | others spared => exact ⟨e₁, spared.entry ▸ here₁, steady₁.spared here₁ spared⟩

/-- A new entry has nothing that could be wrong. -/
theorem steady_make {c : Context} {templateId : String} {source : Source} {number : Nat}
    (outlying : c.Outlying source.path) (readable : ∃ data, c.disk.read source.path = .ok data) :
    Steady c (Entry.make c.config .browserCacheable templateId source number) := by
  obtain ⟨data, read⟩ := readable
  obtain ⟨names, t, hf⟩ := Disk.read_ok_iff.mp read
  refine ⟨rfl, make_wellPlaced _ _ _ _ _, outlying, ⟨names, data, t, hf⟩, ?_, ?_⟩
  · intro _ loaded
    cases loaded
  · intro _ _ loaded
    cases loaded

/-- After any run in which a split template never lagged, a call that gives its page gives
what the source is compiled to, and the body script that stands then, if any, is the
one made by the same compilation exactly when the template does not lag at this call.
So a page comes with the script of an earlier version only through a refusal to write
the script, which leaves the earlier one where it was. -/
theorem body_follows_page {c₀ c c' : Context} {i number : Nat} {templateId : String}
    {source : Source} {e : Entry} {d : Disk} {a : Artifact}
    (new : c₀.entries[i]? = some (Entry.make c₀.config .browserCacheable templateId source number))
    (outlying : c₀.Outlying source.path) (readable : ∃ data, c₀.disk.read source.path = .ok data)
    (run : Relation.ReflTransGen (EntryStep (fun c d e => ¬ c.Lags d e) i) c₀ c)
    (here : c.entries[i]? = some e) (called : Called i e d c (.ok a) c') :
    (∃ data p, c.disk.read e.source.path = .ok data ∧ (e.compile c.config data).value = .ok p ∧
      a = p.artifact ∧ HasScript c'.disk e p) ↔ ¬ c.Lags d e := by
  obtain ⟨e₁, here₁, steady⟩ := (steady_make outlying readable).run new run
  obtain rfl := Option.some.inj (here₁.symm.trans here)
  obtain ⟨time, p, compiles, ha, script⟩ := steady.called_ok here called
  rw [← script]
  obtain ⟨names, data, hf, hv⟩ := compiles
  have read := Disk.read_ok_iff.mpr ⟨names, time, hf⟩
  constructor
  · rintro ⟨data', p', read', hv', -, follows⟩
    cases read.symm.trans read'
    cases hv.symm.trans hv'
    exact follows
  · exact fun follows => ⟨data, p, read, hv, ha, follows⟩

/-- A template that has a body, before and after it is edited. -/
def splitBefore : Bytes := Utf8.encode "<body>a</body>".toList

@[inherit_doc splitBefore]
def splitAfter : Bytes := Utf8.encode "<body></body>".toList

/-- A cache with the template registered as one whose body is split off. -/
def splitCache : Context :=
  let host : Host := { disk := { items := [(["t"], .file splitBefore 1)], now := 5 }, quiet := true }
  (Context.register { oneTemplateCache with host } "t" { path := ⟨"/", ["t"]⟩ }
    (some .browserCacheable)).2

/-- The entry of the template when it is new. -/
def splitEntry : Entry :=
  .make splitCache.config .browserCacheable "t" { path := ⟨"/", ["t"]⟩ } 1

/-- Where the script of the body is kept. -/
def splitBody : DiskPath := ⟨"/", ["s", "t00000000000000000000000000000001.js.tmp"]⟩

/-- The cache after the page was asked for and the template was edited. -/
def splitEdited : Context :=
  let c := (perform (page 0) splitCache).2
  c.withDisk (c.disk.put ["t"] (.file splitAfter 2))

theorem splitEntry_body : splitEntry.body = some splitBody := by decide

theorem splitEntry_possible : ∀ path ∈ splitEntry.files, path.hasNul = false := by decide

theorem splitCache_outlying : splitCache.Outlying splitEntry.source.path := by
  unfold Outlying
  decide

theorem splitCache_source :
    splitCache.disk.file splitEntry.source.path = .ok (["t"], splitBefore, 1) := by decide

theorem splitCache_readable : ∃ data, splitCache.disk.read splitEntry.source.path = .ok data :=
  ⟨_, Disk.read_ok_iff.mpr ⟨_, _, splitCache_source⟩⟩

theorem splitCache_steady : Steady splitCache splitEntry :=
  steady_make splitCache_outlying splitCache_readable

/-- How long the script of a template in UTF-8 is. -/
def scriptSize? (data : Bytes) : Option Nat :=
  match (splitEntry.compile splitCache.config data).value with
  | .ok p => if p.charset = "utf-8" then p.bodyScript.map (·.1.utf8ByteSize) else none
  | .error _ => none

theorem compile_of_scriptSize? {data : Bytes} {size : Nat} (h : scriptSize? data = some size) :
    ∃ p script, (splitEntry.compile splitCache.config data).value = .ok p ∧
      p.bodyScript.map (·.2) = some script ∧ script.length = size := by
  unfold scriptSize? at h
  split at h
  · rename_i p compiled
    split at h
    · rename_i utf8
      obtain ⟨text, script, made, encoded⟩ := bodyScript_of_compile rfl compiled
      rw [utf8] at encoded
      rw [made] at h
      refine ⟨p, script, compiled, by rw [made]; rfl, ?_⟩
      exact (Charset.length_encode_utf8 encoded).trans (Option.some.inj h)
    · cases h
  · cases h

theorem scriptSize?_splitBefore : scriptSize? splitBefore = some 137 := by decide +kernel

theorem scriptSize?_splitAfter : scriptSize? splitAfter = some 136 := by decide +kernel

theorem splitCache_accepts (script : Bytes) :
    (writeSnapshot splitBody script splitCache.disk).1 = none := by
  rw [writeSnapshot_refused splitBody script []]
  decide

/-- What there is after the template was edited: the entry can be asked for, and the
script of the page before stands where the one of the page after belongs. -/
structure SplitEdited (e : Entry) : Prop where
  here : splitEdited.entries[0]? = some e
  same : splitEntry.SameTemplate e
  run : Relation.ReflTransGen (EntryStep (fun c d e => ¬ c.Lags d e) 0) splitCache splitEdited
  steady : Steady splitEdited e
  compiles : ∃ p content script t, Compiles splitEdited e 2 p ∧
    p.bodyScript.map (·.2) = some script ∧
    splitEdited.disk.standing splitBody = some (.file content t) ∧ content ≠ script

theorem splitEdited_reached : ∃ e, SplitEdited e := by
  have new : splitCache.entries[0]? = some splitEntry := rfl
  obtain ⟨p, script, compiled, made, size⟩ := compile_of_scriptSize? scriptSize?_splitBefore
  obtain ⟨p', script', compiled', made', size'⟩ := compile_of_scriptSize? scriptSize?_splitAfter
  have compiles : Compiles splitCache splitEntry 1 p := ⟨_, _, splitCache_source, compiled⟩
  -- there is no script yet, so that the template does not lag
  have prompt : ¬ splitCache.Lags splitCache.disk splitEntry := by
    have none : splitCache.disk.standing splitBody = none := by decide
    rintro ⟨_, _, path, _, content, t, -, body, -, standing, -⟩
    obtain rfl := Option.some.inj (splitEntry_body.symm.trans body)
    rw [none] at standing
    cases standing
  obtain ⟨a, c, done⟩ := page_gives new compiles splitEntry_possible
  have called : Called 0 splitEntry splitCache.disk splitCache (.ok a) c := .plain done
  obtain ⟨config, disk, e', here', same, -, -⟩ := called.effect new splitCache_steady
  obtain ⟨e, here, steady⟩ := splitCache_steady.called new called prompt
  obtain rfl : e' = e := Option.some.inj (here'.symm.trans here)
  obtain ⟨t, standing⟩ := splitCache_steady.first_call new rfl compiles called splitEntry_body made
    (splitCache_accepts script)
  -- the call leaves the source as it is, so that the edit makes it newer
  have still := disk.file_eq (splitCache_outlying.not_inFolder _) splitCache_source
  rw [← same.source] at still
  have written := Disk.writeAt_of_file still splitAfter 2
  have edited : splitEdited = c.withDisk (c.disk.put ["t"] (.file splitAfter 2)) := by
    rw [splitEdited, done]
  have spared : Spares 0 c splitEdited := by
    rw [edited]
    refine spares_edit here steady.placed steady.outlying written fun names data t hf => ?_
    rw [still] at hf
    cases hf
    decide
  have body : splitBody ∈ e'.files := by
    rw [Entry.files, same.body, splitEntry_body]
    exact List.mem_append_right _ (List.mem_singleton_self _)
  refine ⟨e', by rw [spared.entry]; exact here, same,
    (Relation.ReflTransGen.single (.call new prompt called)).tail (.others spared),
    steady.spared here spared, p', script, script', t, ⟨["t"], splitAfter, ?_, ?_⟩, made', ?_, ?_⟩
  · rw [edited]
    exact Disk.file_put still splitAfter 2
  · rw [spared.config, config, same.compile_eq]
    exact compiled'
  · rw [edited]
    exact (steady.outlying.standing_writeAt written steady.placed body _ _).mpr standing
  · rintro rfl
    omega

/-- The run: the page is asked for, the template is edited, and the page is asked for
again. -/
theorem body_follows_page_splitEdited :
    ∃ e a c', splitCache.entries[0]? =
        some (Entry.make splitCache.config .browserCacheable "t" { path := ⟨"/", ["t"]⟩ } 1) ∧
      splitCache.Outlying ⟨"/", ["t"]⟩ ∧ (∃ data, splitCache.disk.read ⟨"/", ["t"]⟩ = .ok data) ∧
      Relation.ReflTransGen (EntryStep (fun c d e => ¬ c.Lags d e) 0) splitCache splitEdited ∧
      splitEdited.entries[0]? = some e ∧
      Called 0 e splitEdited.disk splitEdited (.ok a) c' ∧
      ((∃ data p, splitEdited.disk.read e.source.path = .ok data ∧
        (e.compile splitEdited.config data).value = .ok p ∧ a = p.artifact ∧
          HasScript c'.disk e p) ↔ ¬ splitEdited.Lags splitEdited.disk e) := by
  obtain ⟨e, here, same, run, steady, p, _, _, _, compiles, -⟩ := splitEdited_reached
  have possible := fun path hp => splitEntry_possible path (same.mem_files hp)
  obtain ⟨a, c', done⟩ := page_gives here compiles possible
  have called : Called 0 e splitEdited.disk splitEdited (.ok a) c' := .plain done
  exact ⟨e, a, c', rfl, splitCache_outlying, splitCache_readable, run, here, called,
    body_follows_page rfl splitCache_outlying splitCache_readable run here called⟩

/-- When writing the script of the edited template is refused, the page is given with the
script of the earlier version in place. -/
theorem body_lags_splitEdited :
    ∃ e d a c', splitCache.entries[0]? =
        some (Entry.make splitCache.config .browserCacheable "t" { path := ⟨"/", ["t"]⟩ } 1) ∧
      splitCache.Outlying ⟨"/", ["t"]⟩ ∧ (∃ data, splitCache.disk.read ⟨"/", ["t"]⟩ = .ok data) ∧
      Relation.ReflTransGen (EntryStep (fun _ _ _ => True) 0) splitCache splitEdited ∧
      splitEdited.entries[0]? = some e ∧ Called 0 e d splitEdited (.ok a) c' ∧
      ¬ ∃ data p, splitEdited.disk.read e.source.path = .ok data ∧
        (e.compile splitEdited.config data).value = .ok p ∧ a = p.artifact ∧
          HasScript c'.disk e p := by
  obtain ⟨e, here, same, run, steady, p, content, script, t, compiles, made, standing, other⟩ :=
    splitEdited_reached
  have anyRun : Relation.ReflTransGen (EntryStep (fun _ _ _ => True) 0) splitCache splitEdited :=
    Relation.ReflTransGen.mono (fun _ _ step => step.permit) _ _ run
  have possible := fun path hp => splitEntry_possible path (same.mem_files hp)
  have body := same.body.trans splitEntry_body
  obtain ⟨a, c', called⟩ := steady.refused_gives here compiles body possible
  have lags := steady.lags_of_blocked compiles body made standing other
  refine ⟨e, _, a, c', rfl, splitCache_outlying, splitCache_readable, anyRun, here, called, ?_⟩
  obtain ⟨time, p', compiles', -, follows⟩ := steady.called_ok here called
  obtain ⟨rfl, rfl⟩ := compiles.unique compiles'
  obtain ⟨names, data, hf, hv⟩ := compiles
  rintro ⟨data', p₂, read, hv', -, there⟩
  cases (Disk.read_ok_iff.mpr ⟨names, 2, hf⟩).symm.trans read
  cases hv.symm.trans hv'
  exact follows.mp there lags

end Context

end Cache

end PageTemplates
