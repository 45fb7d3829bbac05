import PageTemplates.Proofs.Build.Compiling
import PageTemplates.Proofs.Build.Recorded
import PageTemplates.Proofs.Compile.Compiled

/-!
# The manifest of a build tells what is on the disk

The output folder is cleared, every template is tried once, and the manifest is
written last. So a build that returns leaves the files that its manifest tells of and
no others, and outside of the output folder all files are as they were. The main
facts:

* `listing_complete`: the templates that are tried are the files below the templates
  folder that are called so, none of them twice;
* `Job.Manifested`: what the files of a disk have to do with the summary of a build;
* `compileFolder_manifested`: it is so for every build that returns.
-/

namespace PageTemplates.Build

open Compile DiskPath

/-! ## The course of a build -/

/-- The job of a build that is started in the folder `here`. -/
def Job.of (here templates out : DiskPath) (cacheable : Bool) : Job :=
  ⟨here.resolve templates, here.resolve out, cacheable⟩

/-- A build that returns went through all its stages. -/
theorem compileFolder_stages {templates out : DiskPath} {cacheable : Bool} {h h' : Host}
    {s : Summary} (r : (compileFolder templates out cacheable).Returns h s h') {j : Job}
    (job : j = .of h.disk.here templates out cacheable) :
    j.out ≠ j.templates ∧ j.templates.isBelow j.out = false ∧
      ∃ d₁ d₂, h.disk.removeFolder j.out = .ok d₁ ∧ d₁.makeFolder j.out = .ok d₂ ∧
      ∃ sources h₂ h₃, j.listing.Returns { h with disk := d₂ } sources h₂ ∧
      (j.compileMany sources { out := j.out }).Returns h₂ s h₃ ∧
      h₃.disk.write (j.out.joinText "manifest.json")
        (Utf8.encode (Manifest.text ⟨j.mode.word, j.templates.text, s.entries⟩).toList)
          = .ok h'.disk := by
  unfold compileFolder at r
  rw [Act.returns_ask_bind] at r
  obtain ⟨t, resolved, r⟩ := r
  rw [Act.returns_ask_bind] at r
  obtain ⟨o, resolved', r⟩ := r
  cases Disk.resolve_eq_ok resolved
  cases Disk.resolve_eq_ok resolved'
  subst job
  dsimp only at r
  split at r
  · cases r
  · rename_i apart
    rw [Bool.or_eq_true, not_or, Bool.not_eq_true, Bool.not_eq_true, beq_eq_false_iff_ne] at apart
    refine ⟨apart.1, apart.2, ?_⟩
    -- the folder is cleared and made, the templates are listed and tried, the manifest is written
    rw [Act.returns_onDisk_bind] at r
    obtain ⟨d₁, removed, r⟩ := r
    rw [Act.returns_onDisk_bind] at r
    obtain ⟨d₂, made, r⟩ := r
    refine ⟨d₁, d₂, removed, made, ?_⟩
    rw [Act.returns_bind] at r
    obtain ⟨sources, h₂, listed, r⟩ := r
    rw [Act.returns_bind] at r
    obtain ⟨s', h₃, tried, r⟩ := r
    rw [Act.returns_onDisk_bind] at r
    obtain ⟨d₄, written, r⟩ := r
    obtain ⟨rfl, rfl⟩ := Act.returns_pure.mp r
    exact ⟨sources, h₂, h₃, listed, tried, written⟩

/-! ## The templates of a folder -/

section

variable {j : Job} {d : Disk}

theorem mem_sources {names places : List String} (led : d.place j.templates = .ok places) :
    names ∈ j.sources d ↔ names ≠ [] ∧ (∃ i, (places ++ names, i) ∈ d.items) ∧
      isTemplatePath names ∧
      ({ j.templates with names := j.templates.names ++ names } : DiskPath).isBelow j.out
        = false := by
  simp only [Job.sources, List.mem_filter, List.mem_map, Prod.exists, exists_and_right,
    exists_eq_right, Disk.mem_below led, exists_and_left, Bool.and_eq_true, Bool.not_eq_true']
  exact and_assoc

theorem sources_nodup (distinct : d.Distinct) : (j.sources d).Nodup :=
  (Disk.below_nodup distinct _).sublist List.filter_sublist

theorem listing_eq {h h' : Host} {sources : List (List String)}
    (r : j.listing.Returns h sources h') :
    h' = h ∧ ∃ isFolder, h.disk.isFolder j.templates = .ok isFolder ∧
      sources = if isFolder then j.sources h.disk else [] := by
  unfold Job.listing at r
  rw [Act.returns_ask_bind] at r
  obtain ⟨isFolder, asked, r⟩ := r
  cases isFolder with
  | true =>
      rw [if_pos rfl, Act.returns_get_bind] at r
      obtain ⟨rfl, rfl⟩ := Act.returns_pure.mp r
      exact ⟨rfl, true, asked, rfl⟩
  | false =>
      obtain ⟨rfl, rfl⟩ := Act.returns_pure.mp r
      exact ⟨rfl, false, asked, rfl⟩

end

/-! ## The disk that compiling starts on -/

/-- The output folder of a job on a tree has been cleared: `d₂` is left. -/
structure Job.Cleared (j : Job) (d d₂ : Disk) : Prop extends j.Ready d₂ where
  distinct : d₂.Distinct
  notFile : ∀ content time, d.item? j.out.names ≠ some (.file content time)
  files : ∀ ns, ¬ j.out.names <+: ns → ∀ content time,
    d₂.item? ns = some (.file content time) ↔ d.item? ns = some (.file content time)
  folders : ∀ ns, ¬ j.out.names <+: ns → d.item? ns = some .folder → d₂.item? ns = some .folder

theorem cleared {j : Job} {d d₁ d₂ : Disk} (tree : d.IsTree) (out : j.out.IsResolved)
    (templates : j.templates.IsResolved) (inner : j.out.names ≠ [])
    (removed : d.removeFolder j.out = .ok d₁) (made : d₁.makeFolder j.out = .ok d₂) :
    j.Cleared d d₂ := by
  have items := Disk.removeFolder_item? tree out inner removed
  have same := Disk.makeFolder_ok made
  have files (ns : List String) (apart : ¬ j.out.names <+: ns) (content : Bytes) (time : Nat) :
      d₂.item? ns = some (.file content time) ↔ d.item? ns = some (.file content time) := by
    rw [same.files ns id, items, if_neg apart]
  have cleared (ns : List String) (inside : j.out.names <+: ns) (content : Bytes) (time : Nat) :
      d₂.item? ns ≠ some (.file content time) := by
    rw [ne_eq, same.files ns id, items, if_pos inside]
    exact (Option.some_ne_none _).symm
  refine {
    out, templates, cleared, files
    plain := fun ns content time stands => ?_
    distinct := Disk.makeFolder_distinct made (Disk.removeFolder_distinct tree out removed)
    notFile := (Disk.removeFolder_items tree out removed).1
    folders := fun ns apart stands => same.folders ns (by rw [items, if_neg apart, stands]) }
  by_cases inside : j.out.names <+: ns
  · exact absurd stands (cleared ns inside content time)
  · have before := (files ns inside content time).mp stands
    exact fun n hn => (tree.isItemName (by simp [before]) n hn).toIsPlainName

section

variable {j : Job} {d d₂ : Disk}

/-- The templates are there from the start, and clearing the output folder takes none of
them away. -/
theorem Job.Cleared.source_iff (cleared : j.Cleared d d₂) {names : List String} {data : Bytes} :
    j.Source d₂ names data ↔ j.Source d names data := by
  have outside {d' : Disk} (source : j.Source d' names data)
      (notFile : ∀ content time, d'.item? j.out.names ≠ some (.file content time)) :
      ¬ j.out.names <+: j.templates.names ++ names := by
    intro inside
    obtain ⟨time, stands⟩ := source.stands
    have below := ((cleared.templates.append (IsTemplate.noUp source.path)).isBelow_iff
      cleared.out).mpr ⟨inside, fun same => notFile data time (same ▸ stands)⟩
    rw [source.apart] at below
    cases below
  constructor
  · intro source
    have apart := outside source (cleared.cleared _ (List.prefix_refl _))
    obtain ⟨time, stands⟩ := source.stands
    exact ⟨source.path, source.apart, time, (cleared.files _ apart _ _).mp stands⟩
  · intro source
    have apart := outside source cleared.notFile
    obtain ⟨time, stands⟩ := source.stands
    exact ⟨source.path, source.apart, time, (cleared.files _ apart _ _).mpr stands⟩

/-- Every template is listed. -/
theorem listing_complete (tree : d.IsTree) (cleared : j.Cleared d d₂)
    (apart : ¬ j.out.names <+: j.templates.names) {h h' : Host} (start : h.disk = d₂)
    {sources : List (List String)} (r : j.listing.Returns h sources h') {names : List String}
    {data : Bytes} (source : j.Source d names data) : names ∈ sources := by
  obtain ⟨time, stands⟩ := source.stands
  have standsAny : d.item? (j.templates.names ++ names) ≠ none := by simp [stands]
  have filled : names ≠ [] := by
    rintro rfl
    exact absurd source.path (by decide)
  have folder := tree.folder_of_prefix standsAny (List.prefix_append _ _)
    (by simpa using filled)
  have folders (ms : List String) (front : ms <+: j.templates.names)
      (_ : ms ≠ j.templates.names) : d₂.item? ms = some .folder := by
    refine cleared.folders ms (fun inside => apart (inside.trans front)) ?_
    refine tree.folder_of_prefix standsAny (front.trans (List.prefix_append _ _)) ?_
    intro same
    exact filled (List.append_right_eq_self.mp
      (front.eq_of_length_le (by rw [same]; simp) ▸ same).symm)
  have noNul : j.templates.hasNul = false := List.any_eq_false.mpr fun n hn nul =>
    (tree.isItemName standsAny n (List.mem_append_left _ hn)).noNul (List.contains_iff_mem.mp nul)
  -- clearing has left every folder that leads to the template
  obtain ⟨rfl, isFolder, asked, rfl⟩ := listing_eq r
  subst start
  unfold Disk.isFolder at asked
  cases found : h'.disk.find j.templates with
  | error e =>
      rw [found] at asked
      cases asked
  | ok item? =>
      obtain ⟨led, leads⟩ := Disk.find_of_folders cleared.templates noNul folders found
      rw [found, leads, cleared.folders _ apart folder] at asked
      cases asked
      rw [if_pos (by decide), mem_sources led]
      refine ⟨filled, ?_, source.path, source.apart⟩
      have source₂ := cleared.source_iff.mpr source
      obtain ⟨time₂, stands₂⟩ := source₂.stands
      exact ⟨_, Disk.mem_items_of_item? stands₂ (by simp [filled])⟩

end

/-! ## The manifest -/

/-- What the manifest says of a template with some data is so on a disk. -/
structure Job.Describes (j : Job) (d : Disk) (names : List String) (data : Bytes)
    (e : ManifestEntry) : Prop where
  id : e.templateId = idOf names
  artifact : e.artifact = text { names }
  body : e.body = if j.cacheable then some (text { names := bodyOf names }) else none
  hash : e.hash = Sha256.hex data
  compiled : ∃ c, (compile (j.settings names) none data).value = .ok c ∧ e.charset = c.charset ∧
    d.read (j.out.joinText e.artifact) = .ok c.artifact.content ∧
    ∀ b ∈ e.body, ∃ text script, c.bodyScript = some (text, script) ∧
      d.read (j.out.joinText b) = .ok script
  bounds : ∀ page, d.read (j.out.joinText e.artifact) = .ok page →
    (e.modelInit, e.modelEnd) =
      (Model.locate? page).elim (-1, -1) fun b => ((b.1 : Int), (b.2 : Int))

/-- The files of an output folder, by the paths that its manifest tells. -/
def Summary.files (s : Summary) : List String := "manifest.json" :: s.entries.flatMap (·.paths)

/-- What the files of a disk have to do with the summary of a build that started on
another one. -/
structure Job.Manifested (j : Job) (d d' : Disk) (s : Summary) : Prop where
  /-- Each template is in the manifest or among those at fault, once. -/
  once : s.ids.Nodup
  ids : ∀ id, id ∈ s.ids ↔ ∃ names data, j.Source d names data ∧ id = some (idOf names)
  /-- Each entry tells of a template and of its results, as they are. -/
  entries : ∀ e ∈ s.entries, ∃ names data, j.Source d names data ∧ j.Describes d' names data e
  errors : ∀ e ∈ s.errors, ∃ names data, j.Source d names data ∧ j.Faulty names data e
  /-- The manifest is JSON that tells of the mode, the templates folder and the entries. -/
  manifest : ∃ content, d'.read (j.out.joinText "manifest.json") = .ok content ∧
    Manifest.ofBytes? content = some ⟨j.mode.word, j.templates.text, s.entries⟩
  /-- The output folder holds the manifest and what it tells of, and no other files. -/
  distinct : s.files.Nodup
  files : ∀ ns, j.out.names <+: ns → ((∃ content time, d'.item? ns = some (.file content time)) ↔
    ∃ f ∈ s.files, (j.out.joinText f).names = ns)
  /-- All other files are as they were. -/
  outside : ∀ ns, ¬ j.out.names <+: ns → ∀ content time,
    d'.item? ns = some (.file content time) ↔ d.item? ns = some (.file content time)
  total : s.templates + s.plain = s.entries.length
  templates : s.templates = s.entries.countP fun e => 0 ≤ e.modelInit && 0 ≤ e.modelEnd
  bodies : s.bodies = if j.cacheable then s.entries.length else 0

section

variable {j : Job} {d : Disk} {names : List String} {data : Bytes}

theorem Job.Built.describes {e : ManifestEntry} (template : IsTemplate names)
    (built : j.Built d names data e) : j.Describes d names data e := by
  obtain ⟨c, comes, rfl, read⟩ := built
  have page : d.read (j.out.joinText (text { names })) = .ok c.artifact.content := by
    rw [joinText_target template List.mem_cons_self]
    exact read (names, _) List.mem_cons_self
  refine ⟨rfl, rfl, rfl, rfl, ⟨c, comes, rfl, page, fun b hb => ?_⟩, fun page' read' => ?_⟩
  · unfold Job.entry at hb
    split at hb
    · rename_i cacheable
      cases hb
      have mode : (j.settings names).mode = .cacheSplit := by
        simp [Job.settings, Job.mode, cacheable]
      obtain ⟨text, script, split, -⟩ := compile_bodyScript mode comes
      have target : bodyOf names ∈ j.targets names := by simp [Job.targets, cacheable]
      have body := read (bodyOf names, script) (by simp [Job.results, cacheable, split])
      refine ⟨text, script, split, ?_⟩
      rw [joinText_target template target]
      exact body
    · cases hb
  · cases page.symm.trans read'
    exact compile_bounds comes

/-- What is read below the output folder is a file there. -/
theorem stands_of_read (resolved : j.out.IsResolved) {target : List String} (noUp : ".." ∉ target)
    {content : Bytes} (read : d.read (j.out.join { names := target }) = .ok content) :
    ∃ content time, d.item? (j.out.names ++ target) = some (.file content time) := by
  obtain ⟨time, stands⟩ := Disk.standing_of_read read
  rw [Disk.standing, spot_join resolved noUp] at stands
  exact ⟨content, time, stands⟩

/-- The paths that an entry tells of lead to files. -/
theorem Job.Built.stands {e : ManifestEntry} (resolved : j.out.IsResolved)
    (template : IsTemplate names) (built : j.Built d names data e) {f : String}
    (hf : f ∈ e.paths) :
    ∃ content time, d.item? (j.out.joinText f).names = some (.file content time) := by
  obtain ⟨target, ht, rfl⟩ := built.target hf
  rw [joinText_target template ht]
  obtain ⟨c, -, rfl, read⟩ := built
  rw [← results_fst c] at ht
  obtain ⟨r, hr, rfl⟩ := List.mem_map.mp ht
  exact stands_of_read resolved (results_noUp template c r hr) (read r hr)

/-- The manifest tells of none of the results as of itself. -/
theorem manifest_notMem_paths {e : ManifestEntry} (template : IsTemplate names)
    (built : j.Built d names data e) : "manifest.json" ∉ e.paths := by
  intro listed
  obtain ⟨target, ht, same⟩ := built.target listed
  have plain : IsPlainName "manifest.json" := ⟨by decide, by decide, by decide, by decide⟩
  have named : ["manifest.json"] = target :=
    text_injective (by simp) (template.targets_plain ht).1 (by simpa using plain)
      (template.targets_plain ht).2 same
  exact template.manifest_notMem_targets j (named ▸ ht)

end

/-- A build that is done leaves what was compiled and the manifest. -/
theorem Job.Progress.manifested {j : Job} {d d₂ d₃ d' : Disk} {s : Summary}
    {sources : List (List String)} (cleared : j.Cleared d d₂)
    (progress : j.Progress d₂ sources s d₃) (distinct : sources.Nodup)
    (complete : ∀ names data, j.Source d names data → names ∈ sources)
    (wrote : d₃.write (j.out.joinText "manifest.json")
      (Utf8.encode (Manifest.text ⟨j.mode.word, j.templates.text, s.entries⟩).toList) = .ok d') :
    j.Manifested d d' s := by
  have ready := cleared.toReady
  have plain : IsPlainName "manifest.json" := ⟨by decide, by decide, by decide, by decide⟩
  have place : j.out.joinText "manifest.json"
      = { j.out with names := j.out.names ++ ["manifest.json"] } := joinText_of_plain _ plain
  have noUp : ".." ∉ ["manifest.json"] := by decide
  -- the manifest is the last file written, and it is none of the targets
  have same : Disk.SameBut (· = j.out.names ++ ["manifest.json"]) d₃ d' := by
    have spot : d₃.spot (j.out.joinText "manifest.json") = j.out.names ++ ["manifest.json"] := by
      rw [place]
      exact d₃.spot_of_resolved (ready.out.append noUp)
    rw [← spot]
    exact (Disk.write_ok wrote).1
  have source {names : List String} {data : Bytes} (source : j.Source d₂ names data) :
      j.Source d names data := cleared.source_iff.mp source
  have built {e : ManifestEntry} (he : e ∈ s.entries) : ∃ names data, j.Source d names data ∧
      IsTemplate names ∧ j.Built d' names data e := by
    obtain ⟨names, -, data, source₂, built⟩ := progress.entries e he
    have template := source₂.isTemplate ready
    refine ⟨names, data, source source₂, template, built.frame ready.out template same ?_⟩
    intro target ht here
    rw [List.append_cancel_left_eq] at here
    exact template.manifest_notMem_targets j (here ▸ ht)
  exact {
    once := by
      -- the ids go by the names of the sources, and those are told apart
      rw [progress.ids.nodup_iff]
      refine distinct.map_on fun names hn names' hn' eq => ?_
      obtain ⟨_, source⟩ := progress.sources names hn
      obtain ⟨_, source'⟩ := progress.sources names' hn'
      exact (source.isTemplate ready).idOf_injective (source'.isTemplate ready) (Option.some.inj eq)
    ids := fun id => by
      rw [progress.ids.mem_iff, List.mem_map]
      constructor
      · rintro ⟨names, hn, rfl⟩
        obtain ⟨data, source₂⟩ := progress.sources names hn
        exact ⟨names, data, source source₂, rfl⟩
      · rintro ⟨names, data, source, rfl⟩
        exact ⟨names, complete names data source, rfl⟩
    entries := fun e he => by
      obtain ⟨names, data, source, template, built⟩ := built he
      exact ⟨names, data, source, built.describes template⟩
    errors := fun e he => by
      obtain ⟨names, -, data, source₂, faulty⟩ := progress.errors e he
      exact ⟨names, data, source source₂, faulty⟩
    manifest := ⟨_, Disk.read_of_write wrote, Manifest.ofBytes?_text _⟩
    distinct := by
      rw [Summary.files, List.nodup_cons, List.mem_flatMap]
      refine ⟨?_, progress.distinct⟩
      rintro ⟨e, he, listed⟩
      obtain ⟨names, data, -, template, built⟩ := built he
      exact manifest_notMem_paths template built listed
    files := fun ns inside => by
      simp only [Summary.files, List.mem_cons, List.mem_flatMap, exists_eq_or_imp, place]
      constructor
      · rintro ⟨content, time, here⟩
        -- a file of the output folder is the manifest, or stood there before it was written
        by_cases manifest : ns = j.out.names ++ ["manifest.json"]
        · exact .inl manifest.symm
        · obtain ⟨e, he, f, hf, leads⟩ :=
            progress.files ns inside content time ((same.files ns manifest _ _).mp here)
          exact .inr ⟨f, ⟨e, he, hf⟩, leads⟩
      · rintro (rfl | ⟨f, ⟨e, he, hf⟩, rfl⟩)
        · have read := Disk.read_of_write wrote
          rw [place] at read
          exact stands_of_read ready.out noUp read
        · obtain ⟨names, data, -, template, built⟩ := built he
          exact built.stands ready.out template hf
    outside := fun ns outside content time => by
      rw [same.files ns _, progress.outside.files ns outside, cleared.files ns outside]
      rintro rfl
      exact outside (List.prefix_append _ _)
    total := progress.total
    templates := progress.templates
    bodies := progress.bodies }

/-- No template has been tried yet. -/
theorem Job.Ready.start {j : Job} {d : Disk} (ready : j.Ready d) :
    j.Progress d [] { out := j.out } d where
  ids := .refl _
  sources := List.forall_mem_nil _
  entries := List.forall_mem_nil _
  errors := List.forall_mem_nil _
  distinct := List.nodup_nil
  files := fun ns inside content time stands =>
    absurd stands (ready.cleared ns inside content time)
  outside := .refl _ d
  total := rfl
  templates := rfl
  bodies := by split <;> rfl

/-- The output folder is not the root, and the templates are not in it. -/
theorem out_apart {j : Job} (out : j.out.IsResolved) (templates : j.templates.IsResolved)
    (other : j.out ≠ j.templates) (apart : j.templates.isBelow j.out = false) :
    ¬ j.out.names <+: j.templates.names := by
  intro inside
  have below := (templates.isBelow_iff out).mpr
    ⟨inside, fun same => other (out.ext templates same.symm)⟩
  rw [apart] at below
  cases below

/-- A build that returns leaves just the files that its manifest tells of, and tells of
them as they are. -/
theorem compileFolder_manifested {templates out : DiskPath} {cacheable : Bool} {h h' : Host}
    {s : Summary} (tree : h.disk.IsTree)
    (r : (compileFolder templates out cacheable).Returns h s h') :
    (Job.of h.disk.here templates out cacheable).Manifested h.disk h'.disk s := by
  obtain ⟨j, job⟩ : ∃ j, j = Job.of h.disk.here templates out cacheable := ⟨_, rfl⟩
  obtain ⟨other, below, d₁, d₂, removed, made, sources, h₂, h₃, listed, tried, wrote⟩ :=
    compileFolder_stages r job
  rw [← job]
  have outResolved : j.out.IsResolved := job ▸ resolve_isResolved _ _
  have templatesResolved : j.templates.IsResolved := job ▸ resolve_isResolved _ _
  have apart := out_apart outResolved templatesResolved other below
  -- the root would hold the templates, which was refused before anything went
  have inner : j.out.names ≠ [] := fun root => apart (root ▸ List.nil_prefix)
  have cleared := cleared tree outResolved templatesResolved inner removed made
  obtain ⟨rfl, isFolder, -, eq⟩ := listing_eq listed
  have distinct : sources.Nodup := by
    rw [eq]
    split
    · exact sources_nodup cleared.distinct
    · exact List.nodup_nil
  have called (names : List String) (hn : names ∈ sources) : isTemplatePath names ∧
      ({ j.templates with names := j.templates.names ++ names } : DiskPath).isBelow j.out
        = false := by
    rw [eq] at hn
    split at hn
    · have kept := (List.mem_filter.mp hn).2
      rwa [Bool.and_eq_true, Bool.not_eq_true'] at kept
    · cases hn
  have progress : j.Progress d₂ ([] ++ sources) s h₃.disk :=
    compileMany_progress cleared.toReady cleared.start called distinct tried
  exact progress.manifested cleared distinct
    (fun names data => listing_complete tree cleared apart rfl listed) wrote

/-! ## A build of one template -/

/-- A disk with one template. -/
def smallDisk : Disk :=
  { items := [(["t"], .folder), (["t", "page.html"], .file (Bytes.ofAscii "<p>x</p>") 0)] }

def smallJob : Job := .of smallDisk.here { names := ["t"] } { names := ["o"] } true

/-- The disk that compiling starts on. -/
def smallCleared : Disk := smallDisk.put ["o"] .folder

theorem isTree_smallDisk : smallDisk.IsTree where
  distinct := by unfold Disk.Distinct; decide
  parents := by decide
  named := by
    have named (n : String) (h : n = "t" ∨ n = "page.html") : Disk.IsItemName n := by
      rcases h with rfl | rfl <;> exact ⟨⟨by decide, by decide, by decide, by decide⟩, by decide⟩
    intro i hi n hn
    refine named n ?_
    simp only [smallDisk, List.mem_cons, List.not_mem_nil, or_false] at hi
    rcases hi with rfl | rfl
    · exact .inl (List.mem_singleton.mp hn)
    · simpa using hn

/-- There is one file below the folder, so nothing has to be sorted. -/
theorem sources_smallCleared : smallJob.sources smallCleared = [["page.html"]] := by
  have led : smallCleared.place smallJob.templates = .ok ["t"] := by rfl
  have below : smallCleared.below smallJob.templates
      = [(["page.html"], .file (Bytes.ofAscii "<p>x</p>") 0)] := by
    unfold Disk.below
    rw [led]
    exact List.mergeSort_singleton _
  rw [Job.sources, below]
  rfl

/-- The rest of the build when the templates are listed. -/
def smallRest : Act FolderFailure Summary := do
  let s ← smallJob.compileMany [["page.html"]] { out := smallJob.out }
  let manifest : Manifest := ⟨smallJob.mode.word, smallJob.templates.text, s.entries⟩
  Act.onDisk .disk
    (·.write (smallJob.out.joinText "manifest.json") (Utf8.encode manifest.text.toList))
  return s

theorem smallRest_returns : ∃ s h', smallRest.Returns { disk := smallCleared } s h' := by
  have isOk : (outcome smallRest { disk := smallCleared }).1.isOk := by decide +kernel
  unfold Act.Returns
  generalize outcome smallRest { disk := smallCleared } = outcome at isOk ⊢
  obtain ⟨_ | s, h'⟩ := outcome
  · cases isOk
  · exact ⟨s, h', rfl⟩

/-- The build of one template returns. -/
theorem compileFolder_manifested_smallDisk : smallDisk.IsTree ∧ ∃ s h',
    (compileFolder { names := ["t"] } { names := ["o"] } true).Returns { disk := smallDisk } s h' ∧
      smallJob.Manifested smallDisk h'.disk s := by
  obtain ⟨s, h', rest⟩ := smallRest_returns
  have listed : smallJob.listing.Returns { disk := smallCleared } [["page.html"]]
      { disk := smallCleared } := by
    unfold Job.listing
    refine Act.returns_ask_bind.mpr ⟨true, rfl, ?_⟩
    rw [if_pos rfl, Act.returns_get_bind]
    exact Act.returns_pure.mpr ⟨sources_smallCleared.symm, rfl⟩
  have returns : (compileFolder { names := ["t"] } { names := ["o"] } true).Returns
      { disk := smallDisk } s h' := by
    unfold compileFolder
    refine Act.returns_ask_bind.mpr ⟨_, rfl, ?_⟩
    refine Act.returns_ask_bind.mpr ⟨_, rfl, ?_⟩
    refine Act.returns_onDisk_bind.mpr ⟨smallDisk, rfl, ?_⟩
    refine Act.returns_onDisk_bind.mpr ⟨smallCleared, rfl, ?_⟩
    exact Act.returns_bind.mpr ⟨[["page.html"]], { disk := smallCleared }, listed, rest⟩
  exact ⟨isTree_smallDisk, s, h', returns, compileFolder_manifested isTree_smallDisk returns⟩

end PageTemplates.Build
