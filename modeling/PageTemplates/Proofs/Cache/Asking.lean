import PageTemplates.Proofs.Cache.Transparency

/-!
# What asking for a page can do

A page that is asked for is at hand, or it is compiled and taken in, or it cannot
be had. The main facts:

* `MindsNul p x`: an operation on a path gives up for a NUL only if one is in it;
* `OnlyLog c c'`: records were added to the log, and nothing else happened;
* `Tried`, `Asked`: how an attempt to compile an entry can end, and a call for
  its page;
* `load_tried`, `page_asked`: there are no other ways;
* `page_gives`: a page that can be compiled is given, whether or not its files can
  be written;
* `page_failed_keeps`: a call that fails changes nothing.
-/

namespace PageTemplates

namespace Disk

/-! ## Paths that nothing can have -/

/-- An operation on a path gives up for a NUL only if one stands in the path. -/
def MindsNul {α : Type} (p : DiskPath) (x : Except DiskError α) : Prop :=
  x = .error .nulInPath → p.hasNul

section

variable {α β : Type} {p : DiskPath}

theorem MindsNul.bind {x : Except DiskError α} {f : α → Except DiskError β} (hx : MindsNul p x)
    (hf : ∀ a, MindsNul p (f a)) : MindsNul p (x >>= f) := by
  cases x with
  | error err => exact fun h => hx (congrArg Except.error (Except.error.inj h))
  | ok a => exact hf a

theorem MindsNul.of_ne {x : Except DiskError α} (h : x ≠ .error .nulInPath) : MindsNul p x :=
  fun hx => absurd hx h

theorem MindsNul.mono {q : DiskPath} {x : Except DiskError α} (hx : MindsNul p x)
    (sub : p.hasNul → q.hasNul) : MindsNul q x := fun h => sub (hx h)

theorem place_mindsNul (d : Disk) (p : DiskPath) : MindsNul p (d.place p) := by
  intro h
  unfold place at h
  split at h
  · assumption
  · split at h
    · cases h
    · generalize d.follow _ _ = r at h
      cases r <;> cases h

theorem file_mindsNul (d : Disk) (p : DiskPath) : MindsNul p (d.file p) :=
  (d.place_mindsNul p).bind fun names => .of_ne (by split <;> simp)

theorem read_mindsNul (d : Disk) (p : DiskPath) : MindsNul p (d.read p) :=
  (d.file_mindsNul p).bind fun _ => .of_ne (by simp [pure, Except.pure])

theorem find_ne_nul (d : Disk) (q : DiskPath) : d.find q ≠ .error .nulInPath := by
  unfold find
  split <;> simp

theorem isThere_mindsNul (d : Disk) (p q : DiskPath) : MindsNul p (d.isThere q) :=
  (MindsNul.of_ne (d.find_ne_nul q)).bind fun _ => .of_ne (by simp [pure, Except.pure])

theorem isFolder_mindsNul (d : Disk) (p q : DiskPath) : MindsNul p (d.isFolder q) :=
  (MindsNul.of_ne (d.find_ne_nul q)).bind fun _ => .of_ne (by simp [pure, Except.pure])

theorem write_mindsNul (d : Disk) (p : DiskPath) (content : Bytes) :
    MindsNul p (d.write p content) :=
  (d.place_mindsNul p).bind fun names => .of_ne (by split <;> simp)

theorem makeOne_mindsNul (d : Disk) (p : DiskPath) : MindsNul p (d.makeOne p) :=
  (d.place_mindsNul p).bind fun names => .of_ne (by split <;> simp)

theorem ensureOne_mindsNul (d : Disk) (p : DiskPath) : MindsNul p (d.ensureOne p) := by
  unfold ensureOne
  split
  · exact .of_ne (by simp)
  · exact .of_ne (by simp)
  · rename_i made
    exact fun _ => d.makeOne_mindsNul p made
  · rename_i e _ other _
    refine (d.isFolder_mindsNul p p).bind fun there => .of_ne ?_
    split
    · simp
    · simpa using other

theorem hasNul_of_parent (h : p.parent.hasNul) : p.hasNul := by
  rw [DiskPath.hasNul, List.any_eq_true] at h ⊢
  obtain ⟨n, hn, nul⟩ := h
  exact ⟨n, (List.dropLast_sublist _).subset hn, nul⟩

theorem makeTo_mindsNul (depth : Nat) (d : Disk) (p : DiskPath) :
    MindsNul p (makeTo depth d p) := by
  induction depth generalizing p with
  | zero => exact d.ensureOne_mindsNul p
  | succ depth ih =>
      unfold makeTo
      split
      · exact ((ih p.parent).mono hasNul_of_parent).bind fun d => d.ensureOne_mindsNul p
      · exact d.ensureOne_mindsNul p

end

end Disk

namespace Cache

theorem makeSnapshotFolder_mindsNul (folder : DiskPath) (d : Disk) :
    Disk.MindsNul folder (makeSnapshotFolder folder d) := by
  have readme : (folder.joinText readmeName).hasNul → folder.hasNul := by
    rw [DiskPath.joinText_of_plain folder readmeName_plain, DiskPath.hasNul, DiskPath.hasNul,
      List.any_append]
    have plain : ([readmeName].any fun n => n.toList.contains '\x00') = false := by decide
    rw [plain, Bool.or_false]
    exact id
  refine (Disk.makeTo_mindsNul _ d folder).bind fun d => ?_
  refine (d.isThere_mindsNul folder _).bind fun there => ?_
  split
  · exact .of_ne (by simp [pure, Except.pure])
  · exact (d.write_mindsNul _ _).mono readme

/-- A file in the snapshot folder is written or refused, unless a NUL stands in its
path. -/
theorem hasNul_of_writeSnapshot {path : DiskPath} {content : Bytes} {d : Disk}
    (h : (writeSnapshot path content d).1 = some .nulInPath) : path.hasNul := by
  unfold writeSnapshot at h
  split at h
  · rename_i e made
    obtain rfl := Option.some.inj h
    exact Disk.hasNul_of_parent (makeSnapshotFolder_mindsNul _ _ made)
  · split at h
    · rename_i e written
      obtain rfl := Option.some.inj h
      exact Disk.write_mindsNul _ _ _ written
    · cases h

/-- Only the log differs. -/
def OnlyLog (c c' : Context) : Prop := ∃ log, c' = { c with host := { c.host with log } }

namespace OnlyLog

variable {c c' c'' : Context}

theorem refl (c : Context) : OnlyLog c c := ⟨c.host.log, rfl⟩

theorem trans (h : OnlyLog c c') (h' : OnlyLog c' c'') : OnlyLog c c'' := by
  obtain ⟨log, rfl⟩ := h
  obtain ⟨log', rfl⟩ := h'
  exact ⟨log', rfl⟩

theorem tell (c : Context) (level : Level) (message : String) :
    OnlyLog c (c.tell level message) := by
  unfold Context.tell Host.tell
  split
  · exact refl c
  · exact ⟨_, rfl⟩

theorem tellAll (c : Context) (records : List Record) : OnlyLog c (c.tellAll records) := by
  induction records generalizing c with
  | nil => exact refl c
  | cons r rs ih => exact (tell c r.level r.message).trans (ih (c.tell r.level r.message))

theorem sameEntries (h : OnlyLog c c') : c.SameEntries c' := by
  obtain ⟨log, rfl⟩ := h
  exact ⟨rfl, rfl, rfl, rfl⟩

theorem disk (h : OnlyLog c c') : c'.disk = c.disk := by
  obtain ⟨log, rfl⟩ := h
  rfl

end OnlyLog

namespace Context

/-! ## Taking in a page -/

theorem eq_nulInPath {err : DiskError} (h : err.isRefusal = false) : err = .nulInPath := by
  cases err with
  | nulInPath => rfl
  | refused _ _ | notClearable _ => cases h

/-- All that an operation can fail with is a NUL in one of some paths. -/
def OnlyNul {α : Type} (paths : List DiskPath) (x : Operation Failure α) : Prop :=
  ∀ c err c', perform x c = (.error err, c') →
    err = .disk .nulInPath ∧ ∃ path ∈ paths, path.hasNul

namespace OnlyNul

variable {α β : Type} {paths : List DiskPath}

theorem modify (f : Context → Context) :
    OnlyNul paths (modify f : Operation Failure Unit) := fun _ _ _ h => by cases h

theorem bind {x : Operation Failure α} {f : α → Operation Failure β} (hx : OnlyNul paths x)
    (hf : ∀ a, OnlyNul paths (f a)) : OnlyNul paths (x >>= f) := by
  intro c err c' h
  rcases hxc : perform x c with ⟨r, c₁⟩
  cases r with
  | error err₁ =>
      rw [perform_bind_error hxc] at h
      cases h
      exact hx c _ _ hxc
  | ok a =>
      rw [perform_bind_ok hxc] at h
      exact hf a c₁ err c' h

end OnlyNul

/-- What is not a refusal when a file is written is a NUL in its path. -/
theorem nul_of_writeSnapshot {paths : List DiskPath} {path : DiskPath} {content : Bytes} {d : Disk}
    {err : DiskError} (mem : path ∈ paths) (written : (writeSnapshot path content d).1 = some err)
    (refused : (!err.isRefusal) = true) :
    Failure.disk err = .disk .nulInPath ∧ ∃ path ∈ paths, path.hasNul := by
  obtain rfl := eq_nulInPath (by simpa using refused)
  exact ⟨rfl, path, mem, hasNul_of_writeSnapshot written⟩

theorem storeBody_onlyNul (e : Entry) (script? : Option Bytes) :
    OnlyNul e.files (storeBody e script?) := by
  intro c err c' h
  unfold storeBody at h
  split at h
  · rename_i path script body
    rcases hw : writeSnapshot path script c.disk with ⟨err?, d⟩
    simp only [perform_bind, perform_get, hw, perform_modify] at h
    cases err? with
    | none => cases h
    | some failure =>
        dsimp only at h
        split at h
        · rename_i refused
          cases h
          have mem : path ∈ e.files := by simp [Entry.files, body]
          exact nul_of_writeSnapshot mem (by rw [hw]) refused
        · cases h
  · cases h

theorem storePage_onlyNul (i : Nat) (e : Entry) (content : Bytes) :
    OnlyNul e.files (storePage i e content) := by
  intro c err c' h
  unfold storePage at h
  split at h
  · rename_i path snapshot
    rcases hw : writeSnapshot path content c.disk with ⟨err?, d⟩
    simp only [perform_bind, perform_get, hw, perform_modify] at h
    cases err? with
    | none => cases h
    | some failure =>
        dsimp only at h
        split at h
        · rename_i refused
          cases h
          have mem : path ∈ e.files := by simp [Entry.files, snapshot]
          exact nul_of_writeSnapshot mem (by rw [hw]) refused
        · cases h
  · cases h

/-- A page that was compiled is taken in, unless its files have a path that
nothing can have. -/
theorem accept_onlyNul (i : Nat) (e : Entry) (p : Compile.Compilation) (modified : Nat) :
    OnlyNul e.files (accept i e p modified) := by
  rw [accept_eq]
  refine .bind (.modify _) fun _ => .bind (storeBody_onlyNul _ _) fun _ => ?_
  refine .bind (.modify _) fun _ => .bind (storePage_onlyNul _ _ _) fun _ => ?_
  exact .bind (.modify _) fun _ => .modify _

/-! ## How a call for a page ends -/

/-- Why a page cannot be had: its files have a path that nothing can have, or its
source cannot be compiled. -/
def Unavailable (c : Context) (e : Entry) : Prop :=
  (∃ path ∈ e.files, path.hasNul) ∨ ∀ time p, ¬ Compiles c e time p

/-- How an attempt to compile the entry `e` of number `i` can end: it fails and
leaves records at most, or the page is there and is taken in. -/
inductive Tried (i : Nat) (e : Entry) (c : Context) : Except Failure Artifact → Context → Prop where
  | failed {err : Failure} {c' : Context} (quiet : OnlyLog c c') (why : Unavailable c e) :
      Tried i e c (.error err) c'
  | compiled {c₁ c' : Context} {time : Nat} {p : Compile.Compilation} {r : Except Failure Unit}
      (quiet : OnlyLog c c₁) (compiles : Compiles c e time p)
      (done : perform (accept i e p time) c₁ = (r, c')) :
      Tried i e c (r.map fun _ => p.artifact) c'

theorem Tried.of_quiet {i : Nat} {e : Entry} {c c₁ c' : Context} {r : Except Failure Artifact}
    (quiet : OnlyLog c c₁) (h : Tried i e c₁ r c') : Tried i e c r c' := by
  have same : ∀ {time p}, Compiles c₁ e time p ↔ Compiles c e time p := by
    intro time p
    unfold Compiles
    rw [quiet.disk, quiet.sameEntries.config]
  cases h with
  | failed quiet' why =>
      exact .failed (quiet.trans quiet') (why.imp_right fun never time p => mt same.mpr (never time p))
  | compiled quiet' compiles done => exact .compiled (quiet.trans quiet') (same.mp compiles) done

theorem not_compiles_of_modified {c : Context} {e : Entry} {err : DiskError}
    (h : e.source.modified c.disk = .error err) : ∀ time p, ¬ Compiles c e time p := by
  rintro time p ⟨names, data, hf, -⟩
  cases h.symm.trans (Disk.modified_of_file hf)

theorem hasNul_of_readSnapshot {c : Context} {e : Entry} {err : DiskError}
    (h : c.readSnapshot e = .error (.disk err)) : ∃ path ∈ e.files, path.hasNul := by
  unfold readSnapshot at h
  split at h
  · cases h
  · rename_i path snapshot
    split at h
    · rename_i err' read
      split at h
      · cases h
      · rename_i refused
        obtain rfl := eq_nulInPath (by simpa using refused)
        exact ⟨path, by simp [Entry.files, snapshot], c.disk.read_mindsNul path read⟩
    · split at h <;> cases h

theorem load_tried {i : Nat} {e : Entry} {c c' : Context} {r : Except Failure Artifact}
    (h : perform (load i e) c = (r, c')) : Tried i e c r c' := by
  unfold load at h
  rw [perform_bind_ok (perform_get c)] at h
  unfold liftDisk at h
  -- the source is dated, read and compiled, and each of the three can fail
  cases hm : e.source.modified c.disk with
  | error err =>
      rw [hm] at h
      cases h
      exact .failed (.refl c) (.inr (not_compiles_of_modified hm))
  | ok modified =>
      rw [hm] at h
      dsimp only at h
      rw [perform_bind_ok (perform_pure _ _)] at h
      cases hr : c.disk.read e.source.path with
      | error err =>
          rw [hr] at h
          cases h
          refine .failed (.refl c) (.inr ?_)
          rintro time p ⟨names, data, hf, -⟩
          cases hr.symm.trans (Disk.read_ok_iff.mpr ⟨names, time, hf⟩)
      | ok data =>
          rw [hr] at h
          dsimp only at h
          rw [perform_bind_ok (perform_modify _ _)] at h
          have quiet := OnlyLog.tellAll c (e.compile c.config data).log
          cases hv : (e.compile c.config data).value with
          | error err =>
              have why : Unavailable c e := by
                refine .inr ?_
                rintro time p ⟨names, data', hf, hv'⟩
                cases hr.symm.trans (Disk.read_ok_iff.mpr ⟨names, time, hf⟩)
                cases hv.symm.trans hv'
              rw [hv] at h
              cases err with
              | template err =>
                  cases h
                  exact .failed (quiet.trans (.tell _ _ _)) why
              | markup err | charset err =>
                  cases h
                  exact .failed quiet why
          | ok p =>
              rw [hv] at h
              dsimp only at h
              obtain ⟨names, time, hf⟩ := Disk.read_ok_iff.mp hr
              obtain rfl : modified = time :=
                Except.ok.inj (hm.symm.trans (Disk.modified_of_file hf))
              rcases ha : perform (accept i e p modified)
                (c.tellAll (e.compile c.config data).log) with ⟨r', c₂⟩
              have ended : (r, c') = (r'.map fun _ => p.artifact, c₂) := by
                cases r' with
                | ok _ => rw [← h, perform_bind_ok ha]; rfl
                | error err => rw [← h, perform_bind_error ha]; rfl
              cases ended
              exact .compiled quiet ⟨names, data, hf, hv⟩ ha

/-- How a call for the page of the entry `e` of number `i` can end: the page is in
memory or in the snapshot and the source is not newer, or the source is to be
compiled. -/
inductive Asked (i : Nat) (e : Entry) (c : Context) : Except Failure Artifact → Context → Prop where
  | tried {r : Except Failure Artifact} {c' : Context} (h : Tried i e c r c') : Asked i e c r c'
  | atHand {a : Artifact} {memory : Recency EntryKey Artifact} {time : Nat}
      (loaded : e.lastLoad = some time) (fresh : e.isStale c.disk = .ok false)
      (found : c.memory.get e.key = (some a, memory) ∨
        c.readSnapshot e = .ok a ∧ memory = c.memory.insert e.key (some a)) :
      Asked i e c (.ok a) { c with memory }

theorem pageOf_asked {i : Nat} {e : Entry} {c c' : Context} {r : Except Failure Artifact}
    (h : perform (pageOf i e) c = (r, c')) : Asked i e c r c' := by
  unfold pageOf at h
  rw [perform_bind_ok (perform_get c)] at h
  -- the page is at hand if the source is not newer and memory or the snapshot has it
  cases hl : e.lastLoad with
  | none =>
      rw [hl] at h
      exact .tried (load_tried h)
  | some time =>
      simp only [hl, Option.isNone_some, Bool.false_eq_true, if_false] at h
      cases hs : e.isStale c.disk with
      | error err =>
          have modified : e.source.modified c.disk = .error err := by
            unfold Entry.isStale at hs
            rw [hl] at hs
            cases hm : e.source.modified c.disk with
            | error err' =>
                rw [hm] at hs
                exact congrArg Except.error (Except.error.inj hs)
            | ok t =>
                rw [hm] at hs
                cases hs
          rw [hs] at h
          cases h
          exact .tried (.failed (.refl c) (.inr (not_compiles_of_modified modified)))
      | ok stale =>
          rw [hs, liftDisk] at h
          rw [perform_bind_ok (perform_pure _ _)] at h
          cases stale with
          | true =>
              rw [if_pos rfl, perform_bind_ok (perform_modify _ _)] at h
              exact .tried ((load_tried h).of_quiet (.tell _ _ _))
          | false =>
              rw [if_neg Bool.false_ne_true] at h
              split at h
              · rename_i page memory found
                cases h
                exact .atHand hl hs (.inl found)
              · split at h
                · exact .tried (load_tried h)
                · split at h
                  · rename_i page found
                    cases h
                    exact .atHand hl hs (.inr ⟨found, rfl⟩)
                  · rename_i found
                    cases h
                    exact .tried (.failed (.refl c) (.inl (hasNul_of_readSnapshot found)))
                  · rw [perform_bind_ok (perform_modify _ _)] at h
                    exact .tried ((load_tried h).of_quiet (.tell _ _ _))

theorem page_asked {i : Nat} {e : Entry} {c c' : Context} {r : Except Failure Artifact}
    (here : c.entries[i]? = some e) (h : perform (page i) c = (r, c')) : Asked i e c r c' := by
  rw [perform_page here] at h
  exact pageOf_asked h

/-- Asking for the page of an entry is work on that entry alone. -/
theorem page_onlyEntry {i : Nat} {e : Entry} {c c' : Context} {r : Except Failure Artifact}
    (here : c.entries[i]? = some e) (placed : e.WellPlaced c.config)
    (h : perform (page i) c = (r, c')) : OnlyEntry i e c c' := by
  have quietly : ∀ {c₁ : Context}, OnlyLog c c₁ → OnlyEntry i e c c₁ := fun quiet =>
    .of_onlyFiles here (.refl e) (.of_quiet quiet.sameEntries quiet.disk) fun _ hn => hn
  cases page_asked here h with
  | tried h =>
      cases h with
      | failed quiet _ => exact quietly quiet
      | compiled quiet _ done =>
          have here₁ := quiet.sameEntries.entries ▸ here
          have placed₁ := quiet.sameEntries.config ▸ placed
          exact (quietly quiet).trans (accept_effect _ _ here₁ placed₁ done).1
  | @atHand a memory _ _ _ found =>
      rcases found with found | ⟨-, rfl⟩
      · refine ⟨rfl, rfl, fun _ _ => rfl, ⟨e, here, .refl e⟩, fun k v _ hm => ?_, .refl _ _⟩
        refine Recency.mem_of_mem_get (k := e.key) ?_
        rw [found]
        exact hm
      · exact .remember here (.refl e) (some a)

/-! ## Failing -/

/-- A call for a page fails because the page cannot be had, and then nothing but the log
changes, or it gives up half way for a NUL in the path of a file of the page. -/
theorem page_error {i : Nat} {e : Entry} {c c' : Context} {err : Failure}
    (here : c.entries[i]? = some e) (failed : perform (page i) c = (.error err, c')) :
    OnlyLog c c' ∧ Unavailable c e ∨
      err = .disk .nulInPath ∧ ∃ path ∈ e.files, path.hasNul := by
  generalize hr : (Except.error err : Except Failure Artifact) = r at failed
  cases page_asked here failed with
  | atHand _ _ _ => cases hr
  | tried h =>
      cases h with
      | failed quiet why => exact .inl ⟨quiet, why⟩
      | @compiled c₁ _ _ p r' quiet compiles done =>
          cases r' with
          | ok _ => cases hr
          | error err' =>
              cases hr
              exact .inr (accept_onlyNul _ _ _ _ _ _ _ done)

/-- A page that can be compiled is given, whether or not its files can be written. -/
theorem page_gives {i : Nat} {e : Entry} {c : Context} {time : Nat} {p : Compile.Compilation}
    (here : c.entries[i]? = some e) (compiles : Compiles c e time p)
    (possible : ∀ path ∈ e.files, path.hasNul = false) :
    ∃ a c', perform (page i) c = (.ok a, c') := by
  have named : ¬ ∃ path ∈ e.files, path.hasNul := by
    rintro ⟨path, mem, nul⟩
    rw [possible path mem] at nul
    cases nul
  rcases asked : perform (page i) c with ⟨r, c'⟩
  cases r with
  | ok a => exact ⟨a, c', rfl⟩
  | error err =>
      rcases page_error here asked with ⟨-, nul | never⟩ | ⟨-, nul⟩
      · exact absurd nul named
      · exact absurd compiles (never time p)
      · exact absurd nul named

/-- A call for a page that fails, because the source cannot be read or compiled,
changes nothing but the log. Only a page whose own files have a path that nothing
can have may fail half way. -/
theorem page_failed_keeps {i : Nat} {c c' : Context} {err : Failure}
    (failed : perform (page i) c = (.error err, c')) (possible : err ≠ .disk .nulInPath) :
    ∃ log, c' = { c with host := { c.host with log } } := by
  cases here : c.entries[i]? with
  | none =>
      unfold page at failed
      rw [perform_bind_ok (perform_get c), entryAt?, here] at failed
      cases failed
  | some e =>
      rcases page_error here failed with ⟨quiet, -⟩ | ⟨nul, -⟩
      · exact quiet
      · exact absurd nul possible

/-- A cache whose template was compiled once and then became one that cannot be. -/
def brokenTemplateCache : Context :=
  let c := (perform (page 0) oneTemplateKnown).2
  c.withDisk (c.disk.put ["t"] (.file (Utf8.encode "<p yst=\"never\"></p>".toList) 2))

theorem page_failed_keeps_brokenTemplate :
    ∃ err c', perform (page 0) brokenTemplateCache = (.error err, c') ∧
      err ≠ .disk .nulInPath ∧
      ∃ log, c' = { brokenTemplateCache with host := { brokenTemplateCache.host with log } } := by
  have fails : (match (perform (page 0) brokenTemplateCache).1 with
      | .error (.compile _) => true
      | .error (.source _ _) | .error (.charset _) | .error (.disk _) | .ok _ => false) = true := by
    decide +kernel
  rcases asked : perform (page 0) brokenTemplateCache with ⟨r, c'⟩
  rw [asked] at fails
  cases r with
  | ok a => cases fails
  | error err =>
      have possible : err ≠ .disk .nulInPath := by
        rintro rfl
        cases fails
      exact ⟨err, c', rfl, possible, page_failed_keeps asked possible⟩

end Context

end Cache

end PageTemplates
