import PageTemplates.Proofs.Build.Templates
import PageTemplates.Proofs.Disk.Acting
import PageTemplates.Proofs.Disk.Tree

/-!
# Compiling the templates of a folder

The templates of a folder are compiled one after the other, each into files of its
own. The main facts:

* `compileOne_outcome`: what compiling one template comes to: it is reported, or its
  results are written and it gets an entry;
* `Job.Progress`: what is so while the templates are tried: each has an id in the
  manifest or among those at fault, and the output folder holds what the entries
  tell of;
* `Job.Progress.faulty`, `Job.Progress.compiled`: one more template keeps this so;
* `compileMany_progress`: it is so when all have been tried.
-/

namespace PageTemplates.Build

open Compile DiskPath

/-! ## One template -/

/-- How the template that `names` lead to is compiled. -/
def Job.settings (j : Job) (names : List String) : Settings :=
  { mode := j.mode, bodyUrl := if j.cacheable then (name { names := bodyOf names }) else "" }

/-- The files that a compiled template makes, by their names from the output folder. -/
def Job.results (j : Job) (names : List String) (c : Compilation) : List (List String × Bytes) :=
  (names, c.artifact.content) ::
    if j.cacheable then [(bodyOf names, (c.bodyScript.map (·.2)).getD [])] else []

/-- What the manifest says of a compiled template. -/
def Job.entry (j : Job) (names : List String) (data : Bytes) (c : Compilation) : ManifestEntry :=
  { templateId := idOf names
    artifact := text { names }
    hash := Sha256.hex data
    charset := c.charset
    modelInit := c.artifact.modelInit
    modelEnd := c.artifact.modelEnd
    body := if j.cacheable then some (text { names := bodyOf names }) else none }

/-- Files are written into a folder one after the other. -/
inductive Written (out : DiskPath) : List (List String × Bytes) → Disk → Disk → Prop
  | none {d : Disk} : Written out [] d d
  | file {ns : List String} {content : Bytes} {rest : List (List String × Bytes)}
      {d d₁ d' : Disk} : d.write (out.join { names := ns }) content = .ok d₁ →
      Written out rest d₁ d' → Written out ((ns, content) :: rest) d d'

/-- What compiling one template comes to. -/
inductive Job.Outcome (j : Job) (names : List String) (data : Bytes) (s : Summary) (d : Disk) :
    Summary → Disk → Prop
  | faulty {e : TemplateError} :
      (compile (j.settings names) none data).value = .error (.template e) →
      j.Outcome names data s d { s with errors := s.errors ++ [e.forTemplate (idOf names)] } d
  | compiled {c : Compilation} {d₁ d' : Disk} :
      (compile (j.settings names) none data).value = .ok c →
      d.makeFolder (j.out.join { names }).parent = .ok d₁ →
      Written j.out (j.results names c) d₁ d' →
      j.Outcome names data s d (s.add c.artifact.isTemplate (j.entry names data c)) d'

variable {j : Job}

theorem compileOne_outcome {names : List String} {s s' : Summary} {h h' : Host}
    (r : (j.compileOne names s).Returns h s' h') :
    ∃ data, h.disk.read (j.templates.join { names }) = .ok data ∧
      j.Outcome names data s h.disk s' h'.disk := by
  -- the settings are spelled out in the step and named in its outcome
  have settings : ({ mode := j.mode, bodyUrl := ((if j.cacheable then
      some (withName { names } (stem { names } ++ "_b.js")) else none).map (·.name)).getD "" } :
        Settings) = j.settings names := by
    unfold Job.settings
    split <;> rfl
  unfold Job.compileOne at r
  dsimp only at r
  rw [Act.read, Act.returns_ask_bind] at r
  obtain ⟨data, read, r⟩ := r
  refine ⟨data, read, ?_⟩
  rw [Act.returns_logged_bind, settings] at r
  split at r
  · rename_i e faulty
    rw [Act.returns_tell_bind, Act.returns_pure] at r
    obtain ⟨rfl, rfl⟩ := r
    rw [Host.disk_tell, Host.disk_tellAll]
    exact .faulty faulty
  · cases r
  · rename_i c compiled
    rw [Act.returns_onDisk_bind, Host.disk_tellAll] at r
    obtain ⟨d₁, made, r⟩ := r
    rw [Act.returns_onDisk_bind] at r
    obtain ⟨d₂, page, r⟩ := r
    rcases j with ⟨templates, out, _ | _⟩
    · obtain ⟨rfl, rfl⟩ := Act.returns_pure.mp r
      exact .compiled compiled made (.file page .none)
    · obtain ⟨d₃, body, r⟩ := Act.returns_onDisk_bind.mp r
      obtain ⟨rfl, rfl⟩ := Act.returns_pure.mp r
      exact .compiled compiled made (.file page (.file body .none))

/-! ## Files written into a folder -/

section

variable {out : DiskPath} {d d' : Disk}

theorem spot_join (resolved : out.IsResolved) {ns : List String} (noUp : ".." ∉ ns) :
    d.spot (out.join { names := ns }) = out.names ++ ns :=
  d.spot_of_resolved (resolved.append noUp)

theorem noUp_of_plain {ns : List String} (plain : ∀ n ∈ ns, IsPlainName n) : ".." ∉ ns :=
  fun up => (plain _ up).notUp rfl

theorem Written.sameBut (resolved : out.IsResolved) {results : List (List String × Bytes)}
    (h : Written out results d d') (noUp : ∀ r ∈ results, ".." ∉ r.1) :
    Disk.SameBut (fun ns => ∃ r ∈ results, ns = out.names ++ r.1) d d' := by
  induction h with
  | none => exact .refl _ _
  | file wrote rest ih =>
      rw [List.forall_mem_cons] at noUp
      have first := (Disk.write_ok wrote).1
      rw [spot_join resolved noUp.1] at first
      refine (first.mono ?_).trans ((ih noUp.2).mono ?_)
      · exact fun ns here => ⟨_, List.mem_cons_self, here⟩
      · exact fun ns ⟨r, hr, here⟩ => ⟨r, List.mem_cons_of_mem _ hr, here⟩

/-- Files of different names are read as they were written. -/
theorem Written.read (resolved : out.IsResolved) {results : List (List String × Bytes)}
    (h : Written out results d d') (noUp : ∀ r ∈ results, ".." ∉ r.1)
    (distinct : (results.map (·.1)).Nodup) :
    ∀ r ∈ results, d'.read (out.join { names := r.1 }) = .ok r.2 := by
  induction h with
  | none => simp
  | @file ns content rest d d₁ d' wrote written ih =>
      rw [List.forall_mem_cons] at noUp
      rw [List.map_cons, List.nodup_cons] at distinct
      rw [List.forall_mem_cons]
      refine ⟨?_, ih noUp.2 distinct.2⟩
      refine (written.sameBut resolved noUp.2).read_eq ?_ (Disk.read_of_write wrote)
      rw [spot_join resolved noUp.1]
      rintro ⟨r, hr, same⟩
      rw [List.append_cancel_left_eq] at same
      exact distinct.1 (List.mem_map.mpr ⟨r, hr, same.symm⟩)

end

/-! ## A build under way -/

/-- The ids of the templates in the manifest, and of those at fault. -/
def Summary.ids (s : Summary) : List (Option String) :=
  s.entries.map (some ·.templateId) ++ s.errors.map (·.templateId)

/-- The files that the manifest tells of. -/
def ManifestEntry.paths (e : ManifestEntry) : List String := e.artifact :: e.body.toList

/-- A template of a job: a file below the templates folder that is none of the
results. -/
structure Job.Source (j : Job) (d : Disk) (names : List String) (data : Bytes) : Prop where
  path : isTemplatePath names
  apart : ({ j.templates with names := j.templates.names ++ names } : DiskPath).isBelow j.out
    = false
  stands : ∃ time, d.item? (j.templates.names ++ names) = some (.file data time)

/-- A template that was compiled, with its results on the disk. -/
def Job.Built (j : Job) (d : Disk) (names : List String) (data : Bytes)
    (e : ManifestEntry) : Prop :=
  ∃ c, (compile (j.settings names) none data).value = .ok c ∧ e = j.entry names data c ∧
    ∀ r ∈ j.results names c, d.read (j.out.join { names := r.1 }) = .ok r.2

/-- A template that could not be compiled. -/
def Job.Faulty (j : Job) (names : List String) (data : Bytes) (e : TemplateError) : Prop :=
  ∃ err, (compile (j.settings names) none data).value = .error (.template err) ∧
    e = err.forTemplate (idOf names)

/-- The disk that a job starts on: the output folder is clear. -/
structure Job.Ready (j : Job) (d : Disk) : Prop where
  out : j.out.IsResolved
  templates : j.templates.IsResolved
  cleared : ∀ ns, j.out.names <+: ns → ∀ content time, d.item? ns ≠ some (.file content time)
  plain : ∀ ns content time, d.item? ns = some (.file content time) → ∀ n ∈ ns, IsPlainName n

/-- What is so when a job that started on `d` has tried some templates and left `d'`. -/
structure Job.Progress (j : Job) (d : Disk) (tried : List (List String)) (s : Summary)
    (d' : Disk) : Prop where
  ids : s.ids.Perm (tried.map fun names => some (idOf names))
  sources : ∀ names ∈ tried, ∃ data, j.Source d names data
  entries : ∀ e ∈ s.entries, ∃ names ∈ tried, ∃ data, j.Source d names data ∧
    j.Built d' names data e
  errors : ∀ e ∈ s.errors, ∃ names ∈ tried, ∃ data, j.Source d names data ∧
    j.Faulty names data e
  distinct : (s.entries.flatMap (·.paths)).Nodup
  files : ∀ ns, j.out.names <+: ns → ∀ content time, d'.item? ns = some (.file content time) →
    ∃ e ∈ s.entries, ∃ f ∈ e.paths, (j.out.joinText f).names = ns
  outside : Disk.SameBut (j.out.names <+: ·) d d'
  total : s.templates + s.plain = s.entries.length
  templates : s.templates = s.entries.countP fun e => 0 ≤ e.modelInit && 0 ≤ e.modelEnd
  bodies : s.bodies = if j.cacheable then s.entries.length else 0

section

variable {d d' : Disk} {names : List String} {data : Bytes}

theorem Job.Source.isTemplate (ready : j.Ready d) (source : j.Source d names data) :
    IsTemplate names := by
  obtain ⟨time, stands⟩ := source.stands
  exact ⟨source.path, fun n hn => ready.plain _ _ _ stands n (List.mem_append_right _ hn)⟩

theorem results_fst (c : Compilation) : (j.results names c).map (·.1) = j.targets names := by
  unfold Job.results Job.targets
  split <;> rfl

theorem mem_targets_of_mem_results {c : Compilation} {r : List String × Bytes}
    (hr : r ∈ j.results names c) : r.1 ∈ j.targets names := by
  rw [← results_fst c]
  exact List.mem_map_of_mem hr

theorem paths_entry (c : Compilation) :
    (j.entry names data c).paths = (j.targets names).map fun ns => text { names := ns } := by
  unfold ManifestEntry.paths Job.entry Job.targets
  split <;> rfl

theorem ids_add (s : Summary) (c : Compilation) :
    (s.add c.artifact.isTemplate (j.entry names data c)).ids =
      s.entries.map (some ·.templateId) ++ some (idOf names) :: s.errors.map (·.templateId) := by
  simp [Summary.ids, Summary.add, Job.entry]

theorem paths_entry_nodup (template : IsTemplate names) (c : Compilation) :
    (j.entry names data c).paths.Nodup := by
  rw [paths_entry]
  refine (template.targets_nodup j).map_on fun t ht t' ht' same => ?_
  obtain ⟨filled, plain⟩ := template.targets_plain ht
  obtain ⟨filled', plain'⟩ := template.targets_plain ht'
  exact text_injective filled filled' plain plain' same

/-- The paths that the manifest tells lead to the results. -/
theorem joinText_target (template : IsTemplate names) {target : List String}
    (h : target ∈ j.targets names) :
    j.out.joinText (text { names := target }) = j.out.join { names := target } := by
  obtain ⟨filled, plain⟩ := template.targets_plain h
  exact joinText_text _ filled plain

theorem results_noUp (template : IsTemplate names) (c : Compilation) :
    ∀ r ∈ j.results names c, ".." ∉ r.1 :=
  fun _ hr => noUp_of_plain (template.targets_plain (mem_targets_of_mem_results hr)).2

/-- The results of a template are the same as long as nothing is written to them. -/
theorem Job.Built.frame {e : ManifestEntry} (resolved : j.out.IsResolved)
    (template : IsTemplate names) (built : j.Built d names data e) {P : List String → Prop}
    (same : Disk.SameBut P d d')
    (apart : ∀ target ∈ j.targets names, ¬ P (j.out.names ++ target)) :
    j.Built d' names data e := by
  obtain ⟨c, compiled, entry, read⟩ := built
  refine ⟨c, compiled, entry, fun r hr => same.read_eq ?_ (read r hr)⟩
  rw [spot_join resolved (results_noUp template c r hr)]
  exact apart r.1 (mem_targets_of_mem_results hr)

/-- Compiling a template changes nothing but its results. -/
theorem Written.sameBut_targets (resolved : j.out.IsResolved) (template : IsTemplate names)
    {c : Compilation} {d₁ d'' : Disk}
    (made : d'.makeFolder (j.out.join { names }).parent = .ok d₁)
    (written : Written j.out (j.results names c) d₁ d'') :
    Disk.SameBut (fun ns => ∃ target ∈ j.targets names, ns = j.out.names ++ target) d' d'' := by
  refine ((Disk.makeFolder_ok made).mono fun _ => False.elim).trans ((written.sameBut
    resolved (results_noUp template c)).mono ?_)
  rintro ns ⟨r, hr, here⟩
  exact ⟨r.1, mem_targets_of_mem_results hr, here⟩

/-- Where the manifest says that results are, they are named for a template. -/
theorem Job.Built.target {e : ManifestEntry} (built : j.Built d names data e) {f : String}
    (hf : f ∈ e.paths) : ∃ target ∈ j.targets names, f = text { names := target } := by
  obtain ⟨c, -, rfl, -⟩ := built
  rw [paths_entry] at hf
  obtain ⟨target, ht, rfl⟩ := List.mem_map.mp hf
  exact ⟨target, ht, rfl⟩

variable {tried : List (List String)} {s : Summary}

/-- What is read as a template was there from the start. -/
theorem Job.Progress.source (ready : j.Ready d) (progress : j.Progress d tried s d')
    (path : isTemplatePath names)
    (apart : ({ j.templates with names := j.templates.names ++ names } : DiskPath).isBelow j.out
      = false)
    (read : d'.read (j.templates.join { names }) = .ok data) : j.Source d names data := by
  refine ⟨path, apart, ?_⟩
  obtain ⟨time, stands⟩ := Disk.standing_of_read read
  rw [Disk.standing, spot_join ready.templates (IsTemplate.noUp path)] at stands
  refine ⟨time, (progress.outside.files _ ?_ _ _).mp stands⟩
  intro inside
  obtain ⟨e, he, f, hf, here⟩ := progress.files _ inside _ _ stands
  obtain ⟨names', -, data', source', built⟩ := progress.entries e he
  obtain ⟨target, ht, rfl⟩ := built.target hf
  have template := source'.isTemplate ready
  rw [joinText_target template ht] at here
  have longer : j.templates.names ++ names ≠ j.out.names := by
    rw [← here]
    intro same
    exact (template.targets_plain ht).1 (List.append_right_eq_self.mp same)
  have below := ((ready.templates.append (IsTemplate.noUp path)).isBelow_iff ready.out).mpr
    ⟨inside, longer⟩
  rw [apart] at below
  cases below

/-- The results of a template that was not tried yet are named by no entry. -/
theorem Job.Progress.disjoint_paths (ready : j.Ready d) (progress : j.Progress d tried s d')
    (template : IsTemplate names) (fresh : names ∉ tried) (c : Compilation) :
    (s.entries.flatMap (·.paths)).Disjoint (j.entry names data c).paths := by
  intro f hf hf'
  obtain ⟨e, he, hfe⟩ := List.mem_flatMap.mp hf
  obtain ⟨names', tried', data', source', built'⟩ := progress.entries e he
  have template' := source'.isTemplate ready
  obtain ⟨t', ht', rfl⟩ := built'.target hfe
  rw [paths_entry] at hf'
  obtain ⟨t, ht, same⟩ := List.mem_map.mp hf'
  obtain ⟨filled, plain⟩ := template.targets_plain ht
  obtain ⟨filled', plain'⟩ := template'.targets_plain ht'
  obtain rfl := text_injective filled filled' plain plain' same
  obtain rfl := template'.eq_of_mem_targets template ht' ht
  exact fresh tried'

theorem exists_tried {P : List String → Prop} (h : ∃ n ∈ tried, P n) :
    ∃ n ∈ tried ++ [names], P n := by
  obtain ⟨n, hn, holds⟩ := h
  exact ⟨n, List.mem_append_left _ hn, holds⟩

theorem sources_concat (progress : j.Progress d tried s d') (source : j.Source d names data) :
    ∀ n ∈ tried ++ [names], ∃ data, j.Source d n data := by
  rw [List.forall_mem_append, List.forall_mem_singleton]
  exact ⟨progress.sources, data, source⟩

/-- A template at fault is reported, and nothing is written for it. -/
theorem Job.Progress.faulty (progress : j.Progress d tried s d')
    (source : j.Source d names data) {e : TemplateError}
    (fails : (compile (j.settings names) none data).value = .error (.template e)) :
    j.Progress d (tried ++ [names])
      { s with errors := s.errors ++ [e.forTemplate (idOf names)] } d' where
  ids := by
    have more : Summary.ids { s with errors := s.errors ++ [e.forTemplate (idOf names)] }
        = s.ids ++ [some (idOf names)] := by
      simp [Summary.ids, TemplateError.forTemplate]
    rw [more, List.map_append]
    exact progress.ids.append_right _
  sources := sources_concat progress source
  entries := fun e he => exists_tried (progress.entries e he)
  errors := by
    rw [List.forall_mem_append, List.forall_mem_singleton]
    refine ⟨fun e he => exists_tried (progress.errors e he), names, by simp, data, source, ?_⟩
    exact ⟨e, fails, rfl⟩
  distinct := progress.distinct
  files := progress.files
  outside := progress.outside
  total := progress.total
  templates := progress.templates
  bodies := progress.bodies

/-- A template that is compiled gets an entry, and its results are on the disk. -/
theorem Job.Progress.compiled (ready : j.Ready d) (progress : j.Progress d tried s d')
    (source : j.Source d names data) (fresh : names ∉ tried) {c : Compilation} {d₁ d'' : Disk}
    (comes : (compile (j.settings names) none data).value = .ok c)
    (made : d'.makeFolder (j.out.join { names }).parent = .ok d₁)
    (written : Written j.out (j.results names c) d₁ d'') :
    j.Progress d (tried ++ [names]) (s.add c.artifact.isTemplate (j.entry names data c)) d'' := by
  have template := source.isTemplate ready
  have read := written.read ready.out (results_noUp template c)
    (by rw [results_fst]; exact template.targets_nodup j)
  have same := Written.sameBut_targets ready.out template made written
  exact {
    ids := by
      rw [ids_add, List.map_append]
      refine List.perm_middle.trans ?_
      exact (progress.ids.cons _).trans (List.perm_append_singleton _ _).symm
    sources := sources_concat progress source
    entries := by
      rw [Summary.add, List.forall_mem_append, List.forall_mem_singleton]
      refine ⟨fun e he => ?_, names, by simp, data, source, c, comes, rfl, read⟩
      obtain ⟨names', tried', data', source', built'⟩ := progress.entries e he
      have template' := source'.isTemplate ready
      -- what was built before has other files than the ones just written
      refine ⟨names', List.mem_append_left _ tried', data', source',
        built'.frame ready.out template' same ?_⟩
      rintro target' ht' ⟨target, ht, here⟩
      rw [List.append_cancel_left_eq] at here
      obtain rfl := template'.eq_of_mem_targets template ht' (here ▸ ht)
      exact fresh tried'
    errors := fun e he => exists_tried (progress.errors e he)
    distinct := by
      rw [Summary.add, List.flatMap_append, List.flatMap_singleton, List.nodup_append']
      exact ⟨progress.distinct, paths_entry_nodup template c,
        progress.disjoint_paths ready template fresh c⟩
    files := by
      intro ns inside content time stands
      -- a file of the folder was just written, or it was there and is listed
      by_cases here : ∃ target ∈ j.targets names, ns = j.out.names ++ target
      · obtain ⟨target, ht, rfl⟩ := here
        refine ⟨j.entry names data c, by simp [Summary.add], text { names := target }, ?_, ?_⟩
        · rw [paths_entry]
          exact List.mem_map_of_mem ht
        · rw [joinText_target template ht]
          rfl
      · obtain ⟨e, he, f, hf, leads⟩ :=
          progress.files ns inside content time ((same.files ns here content time).mp stands)
        exact ⟨e, List.mem_append_left _ he, f, hf, leads⟩
    outside := progress.outside.trans (same.mono fun ns ⟨target, _, here⟩ =>
      here ▸ List.prefix_append _ _)
    total := by
      have total := progress.total
      simp only [Summary.add, List.length_append, List.length_singleton]
      cases c.artifact.isTemplate <;> simp <;> omega
    templates := by
      have templates := progress.templates
      simp only [Summary.add, List.countP_append, List.countP_singleton, templates]
      rfl
    bodies := by
      have bodies := progress.bodies
      simp only [Summary.add, Job.entry, List.length_append, List.length_singleton, bodies]
      split <;> simp }

/-- A job that returns has tried all the templates it was given. -/
theorem compileMany_progress (ready : j.Ready d) {rest : List (List String)} {h h' : Host}
    {s' : Summary} (progress : j.Progress d tried s h.disk)
    (listed : ∀ names ∈ rest, isTemplatePath names ∧
      ({ j.templates with names := j.templates.names ++ names } : DiskPath).isBelow j.out = false)
    (distinct : (tried ++ rest).Nodup) (r : (j.compileMany rest s).Returns h s' h') :
    j.Progress d (tried ++ rest) s' h'.disk := by
  induction rest generalizing tried s h with
  | nil =>
      obtain ⟨rfl, rfl⟩ := Act.returns_pure.mp r
      rwa [List.append_nil]
  | cons names rest ih =>
      rw [List.forall_mem_cons] at listed
      rw [List.append_cons] at distinct ⊢
      have fresh : names ∉ tried := by
        have apart := (List.nodup_append'.mp (List.nodup_append'.mp distinct).1).2.2
        exact fun old => apart old (List.mem_singleton_self names)
      rw [Job.compileMany, Act.returns_bind] at r
      obtain ⟨s₁, h₁, first, r⟩ := r
      obtain ⟨data, read, outcome⟩ := compileOne_outcome first
      have source := progress.source ready listed.1.1 listed.1.2 read
      refine ih ?_ listed.2 distinct r
      generalize h₁.disk = d₁ at outcome
      cases outcome with
      | faulty fails => exact progress.faulty source fails
      | compiled comes made written =>
          exact progress.compiled ready source fresh comes made written

end

end PageTemplates.Build
