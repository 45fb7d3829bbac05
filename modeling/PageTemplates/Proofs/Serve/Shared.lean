import Mathlib.Data.List.Dedup
import Mathlib.Data.List.Induction
import Mathlib.Data.List.Perm.Subperm
import PageTemplates.Proofs.Disk.Tree
import PageTemplates.Proofs.Serve.Inside

/-!
# Requests that share an entry

An entry goes by the name that was asked for, as it is spelled, and not by the file that
the name leads to. The main facts:

* `Grows`: what a request does to the cache, which has one more entry at most;
* `Named`: the invariant of a server that answers requests: its entries go by the
  different names that were asked for and lead to a template;
* `entries_named`: so it is after any requests, and the entries are no more than the
  templates if different names lead to different files;
* `sourceOf_injective`: they do when each is spelled as the path of its file.
-/

namespace PageTemplates.Serve.Server

open Cache (Entry EntryKey Context perform OnlyEntry)
open DiskPath

/-- Requests are answered one after the other. -/
def answerAll (s : Server) (requests : List Request) : Server :=
  requests.foldl (fun s r => (outcome (respond r) s).2) s

/-- A request asks for the template of a name. -/
def Asks (s : Server) (r : Request) (name : String) : Prop :=
  ∃ asked, s.routes.target? r.path = .ok (some (.template asked)) ∧ templateName asked = name

/-- What the entry of a name is registered under. -/
def keyOf (s : Server) (name : String) : String :=
  (EntryKey.mk s.context.config.cacheMode "file" ("/" ++ name)).name

/-- The places of the templates. -/
def templateFiles (s : Server) : List (List String) :=
  (s.context.disk.items.filter fun i =>
    (match i.2 with
      | .file _ _ => true
      | .folder => false)
    && s.templates.names.isPrefixOf i.1 && s.templates.names.length < i.1.length
    && ".html".toList.isSuffixOf (i.1.getLast?.getD "").toList).map (·.1)

/-- Files with the ending of templates are still there, maybe with another content. -/
def KeepsTemplates (d d' : Disk) : Prop :=
  ∀ ns, ".html".toList <:+ (ns.getLast?.getD "").toList →
    (∃ content time, d.item? ns = some (.file content time)) →
    ∃ content time, d'.item? ns = some (.file content time)

/-- A file of that name stands in a folder. -/
def StandsIn (d : Disk) (folder : DiskPath) (n : String) : Prop :=
  ∃ content time, d.item? (d.spot folder ++ [n]) = some (.file content time)

/-- A provider that deletes no template and puts nothing in the snapshot folder. -/
def Benign (s : Server) : Prop :=
  ∀ provider, s.provider = some provider → ∀ name d given d',
    provider name d = .ok (given, d') → KeepsTemplates d d' ∧
      ∀ n, StandsIn d' s.context.config.snapshotFolder n →
        StandsIn d s.context.config.snapshotFolder n

/-- There are at most `k` files in the snapshot folder with that ending. -/
def AtMost (s : Server) (ending : String) (k : Nat) : Prop :=
  ∀ files : List String, files.Nodup → (∀ n ∈ files, ending.toList <:+ n.toList ∧
    StandsIn s.context.disk s.context.config.snapshotFolder n) → files.length ≤ k

theorem KeepsTemplates.refl (d : Disk) : KeepsTemplates d d := fun _ _ => id

theorem KeepsTemplates.trans {d d' d'' : Disk} (h : KeepsTemplates d d')
    (h' : KeepsTemplates d' d'') : KeepsTemplates d d'' :=
  fun ns ending stands => h' ns ending (h ns ending stands)

theorem KeepsTemplates.of_sameBut {d d' : Disk} {P : List String → Prop}
    (same : Disk.SameBut P d d')
    (apart : ∀ ns, P ns → ¬ ".html".toList <:+ (ns.getLast?.getD "").toList) :
    KeepsTemplates d d' := by
  rintro ns ending ⟨content, time, stands⟩
  have other : ¬ P ns := fun other => apart ns other ending
  exact ⟨content, time, (same.files ns other content time).mpr stands⟩

/-- The files of an entry have other endings than templates. -/
theorem ownName_ending {e : Entry} {n : String} (own : e.ownName n) :
    ¬ ".html".toList <:+ n.toList := by
  rintro ⟨front, ending⟩
  have shows : n.toList.getLast? = some 'l' := by
    rw [← ending]
    simp
  rcases own with rfl | rfl | rfl
  · simp [Cache.pageName] at shows
  · simp [Cache.bodyName] at shows
  · exact absurd shows (by decide)

/-- A page or a script of an entry has its ending after the name of the entry. -/
theorem ownName_append {e : Entry} {n ending : String} (own : e.ownName n)
    (known : ending = ".html.tmp" ∨ ending = ".js.tmp") (ends : ending.toList <:+ n.toList) :
    n = e.baseName ++ ending := by
  obtain ⟨front, ends⟩ := ends
  have reversed := congrArg List.reverse ends
  rcases known with rfl | rfl <;> rcases own with rfl | rfl | rfl
  · rfl
  · simp [Cache.bodyName] at reversed
  · simp [Cache.readmeName] at reversed
  · simp [Cache.pageName] at reversed
  · rfl
  · simp [Cache.readmeName] at reversed

/-! ## More entries -/

/-- Entries may come, with files of theirs in the snapshot folder, and pages may be asked
for; no entry goes, and no template. -/
structure Grows (c c' : Context) : Prop where
  config : c'.config = c.config
  size : c.entries.size = c.registered.length → c'.entries.size = c'.registered.length
  entries : ∀ e ∈ c.entries, ∃ e' ∈ c'.entries, e'.baseName = e.baseName
  templates : KeepsTemplates c.disk c'.disk
  snapshots : ∀ n, StandsIn c'.disk c.config.snapshotFolder n →
    StandsIn c.disk c.config.snapshotFolder n ∨ ∃ e ∈ c'.entries, e.ownName n

namespace Grows

variable {c c' c'' : Context}

theorem refl (c : Context) : Grows c c :=
  ⟨rfl, id, fun e he => ⟨e, he, rfl⟩, .refl _, fun _ => .inl⟩

theorem trans (h : Grows c c') (h' : Grows c' c'') : Grows c c'' := by
  refine ⟨h'.config.trans h.config, fun size => h'.size (h.size size), fun e he => ?_,
    h.templates.trans h'.templates, fun n stands => ?_⟩
  · obtain ⟨e', he', same⟩ := h.entries e he
    obtain ⟨e'', he'', same'⟩ := h'.entries e' he'
    exact ⟨e'', he'', same'.trans same⟩
  · rw [← h.config] at stands ⊢
    rcases h'.snapshots n stands with stands | new
    · rw [h.config] at stands ⊢
      refine (h.snapshots n stands).imp_right ?_
      rintro ⟨e, he, own⟩
      obtain ⟨e', he', same⟩ := h'.entries e he
      exact ⟨e', he', by rwa [Entry.ownName, same]⟩
    · exact .inr new

theorem of_onlyLog (quiet : Cache.OnlyLog c c') : Grows c c' := by
  obtain ⟨log, rfl⟩ := quiet
  exact ⟨rfl, id, fun e he => ⟨e, he, rfl⟩, .refl _, fun _ => .inl⟩

theorem of_added {e : Entry} (added : Cache.Context.Added e c c') : Grows c c' := by
  refine ⟨added.config, fun size => ?_, fun e' he' => ⟨e', ?_, rfl⟩, added.disk ▸ .refl _,
    fun n stands => .inl (added.disk ▸ stands)⟩
  · rw [added.entries, added.registered, Array.size_push, List.length_append, size]
    rfl
  · rw [added.entries]
    exact Array.mem_push_of_mem _ he'

/-- Files are changed and the log is, and nothing else. -/
theorem withDisk {disk : Disk} (templates : KeepsTemplates c.disk disk)
    (snapshots : ∀ n, StandsIn disk c.config.snapshotFolder n →
      StandsIn c.disk c.config.snapshotFolder n) : Grows c (c.withDisk disk) :=
  ⟨rfl, id, fun e he => ⟨e, he, rfl⟩, templates, fun n stands => .inl (snapshots n stands)⟩

theorem size_of_onlyEntry {i : Nat} {e : Entry} (here : c.entries[i]? = some e)
    (only : OnlyEntry i e c c') : c'.entries.size = c.entries.size := by
  have same (j : Nat) : c'.entries.size ≤ j ↔ c.entries.size ≤ j := by
    rw [← Array.getElem?_eq_none_iff, ← Array.getElem?_eq_none_iff]
    by_cases own : j = i
    · obtain ⟨e', here', -⟩ := only.own
      rw [own, here, here']
      simp
    · rw [only.others j own]
  have less := same c.entries.size
  have more := same c'.entries.size
  omega

theorem of_onlyEntry {i : Nat} {e : Entry} (here : c.entries[i]? = some e)
    (only : OnlyEntry i e c c') : Grows c c' := by
  obtain ⟨e₁, here₁, same⟩ := only.own
  refine ⟨only.config, fun size => ?_, fun e' he' => ?_, .of_sameBut only.disk ?_, ?_⟩
  · rw [size_of_onlyEntry here only, only.registered, size]
  · obtain ⟨j, here'⟩ := Array.getElem?_of_mem he'
    by_cases own : j = i
    · obtain rfl : e = e' := Option.some.inj (here.symm.trans (own ▸ here'))
      exact ⟨e₁, Array.mem_of_getElem? here₁, same.baseName⟩
    · rw [← only.others j own] at here'
      exact ⟨e', Array.mem_of_getElem? here', rfl⟩
  · rintro _ ⟨n, own, rfl⟩
    rw [List.getLast?_concat, Option.getD_some]
    exact ownName_ending own
  · rintro n ⟨content, time, stands⟩
    by_cases own : e.ownName n
    · refine .inr ⟨e₁, Array.mem_of_getElem? here₁, ?_⟩
      rwa [Entry.ownName, same.baseName]
    · rw [only.disk.spot_eq] at stands
      have apart : ¬ Cache.inFolder c.config c.disk e.ownName
          (c.disk.spot c.config.snapshotFolder ++ [n]) := by
        rintro ⟨m, hm, spot⟩
        obtain rfl : n = m := by simpa using spot
        exact own hm
      exact .inl ⟨content, time, (only.disk.files _ apart content time).mp stands⟩

end Grows

/-! ## One request -/

section

variable {s s' : Server} {name : String}

/-- What is registered after a request that asked for the template of a name. -/
def Registers (s : Server) (name : String) (c : Context) : Prop :=
  c.registered = s.context.registered ∨
    s.keyOf name ∉ s.context.registered.map (·.1) ∧
      ∃ i, c.registered = s.context.registered ++ [(s.keyOf name, i)]

theorem register_effect {i : Nat} {c : Context}
    (h : s.context.register ("/" ++ name) { path := s.sourceOf name } none = (i, c)) :
    Grows s.context c ∧ s.Registers name c := by
  rcases s.context.register_index ("/" ++ name) { path := s.sourceOf name } none with
    ⟨i', -, found⟩ | ⟨-, number, added⟩
  · cases found.symm.trans h
    exact ⟨.refl _, .inl rfl⟩
  · rw [h] at added
    obtain ⟨id, mode, source⟩ := Cache.Context.make_eq s.context.config (s.context.modeOf none) ("/" ++ name)
      { path := s.sourceOf name } number
    have key : (Entry.make s.context.config (s.context.modeOf none) ("/" ++ name)
        { path := s.sourceOf name } number).key.name = s.keyOf name := by
      rw [Entry.key, id, mode, source]
      rfl
    refine ⟨.of_added added, .inr ⟨key ▸ added.newName, s.context.entries.size, ?_⟩⟩
    rw [← key]
    exact added.registered

theorem Benign.of_same (benign : s.Benign) (provider : s'.provider = s.provider)
    (config : s'.context.config = s.context.config) : s'.Benign := by
  rw [Benign, provider, config]
  exact benign

theorem modelFor_grows (benign : s.Benign) {r : Except Failure (Option Cache.Filling)}
    (h : outcome (modelFor name) s = (r, s')) :
    ∃ disk asked, s' = { s with context := s.context.withDisk disk, asked } ∧
      Grows s.context (s.context.withDisk disk) := by
  obtain ⟨disk, asked, left, disk_eq⟩ := modelFor_effect h
  refine ⟨disk, asked, left, ?_⟩
  rcases disk_eq with rfl | ⟨provider, given, known, gives⟩
  · exact .refl _
  · obtain ⟨templates, snapshots⟩ := benign provider known name _ given disk gives
    exact .withDisk templates snapshots

/-- What a request changes: at most one entry comes, for a template that was asked for. -/
structure Effect (s : Server) (request : Request) (s' : Server) : Prop where
  same : s' = { s with context := s'.context, asked := s'.asked }
  grows : Grows s.context s'.context
  registered : s'.context.registered = s.context.registered ∨
    ∃ name, s.Asks request name ∧ s.IsTemplatePath (s.sourceOf name) ∧
      (∃ content time, s.context.disk.item? (s.sourceOf name).names = some (.file content time)) ∧
      s.Registers name s'.context

theorem Effect.of_quiet {request : Request} (left : s' = { s with context := s'.context })
    (quiet : Cache.OnlyLog s.context s'.context) : s.Effect request s' where
  same := by
    rw [left]
  grows := .of_onlyLog quiet
  registered := .inl quiet.sameEntries.registered

/-- A request for a template. -/
theorem Inside.templateEffect (inside : s.Inside) (benign : s.Benign) {request : Request}
    {asked : String} {r : Except Failure Response} (asks : s.Asks request (templateName asked))
    (answer : s.TemplateAnswer (templateName asked) r s') : s.Effect request s' := by
  generalize templateName asked = name at asks answer
  cases answer with
  | @sent c s₁ _ i e model? _ inside' stands registered entry of given page =>
      obtain ⟨grows, registers⟩ := register_effect registered
      have benign₁ : ({ s with context := c } : Server).Benign := benign.of_same rfl grows.config
      obtain ⟨d, asked, rfl, edited⟩ := modelFor_grows benign₁ given
      have placed := ((inside.register inside' registered).1.entries i e entry).placed
      have entry₁ : ({ s with context := c.withDisk d, asked } : Server).context.entries[i]?
          = some e := entry
      obtain ⟨left, only⟩ := sendPage_onlyEntry entry₁ placed page
      refine ⟨?_, (grows.trans edited).trans (.of_onlyEntry entry₁ only),
        .inr ⟨name, asks, inside', stands, ?_⟩⟩
      · rw [left]
      · unfold Registers
        rw [only.registered]
        exact registers
  | @withoutModel c _ i e f inside' stands registered entry of given =>
      obtain ⟨grows, registers⟩ := register_effect registered
      have benign₁ : ({ s with context := c } : Server).Benign := benign.of_same rfl grows.config
      obtain ⟨d, asked, rfl, edited⟩ := modelFor_grows benign₁ given
      exact ⟨rfl, grows.trans edited, .inr ⟨name, asks, inside', stands, registers⟩⟩
  | notFound | nul | refused => exact .of_quiet rfl (.refl _)

theorem Inside.effect (inside : s.Inside) (benign : s.Benign) (request : Request) :
    s.Effect request (outcome (Server.respond request) s).2 := by
  have answered : outcome (Server.respond request) s =
      ((outcome (Server.respond request) s).1, (outcome (Server.respond request) s).2) := rfl
  rcases respond_cases answered with ⟨same, -⟩ | ⟨target, asks, sent⟩
  · rw [same]
    exact .of_quiet rfl (.refl _)
  · cases target with
    | body name =>
        obtain ⟨-, left, quiet⟩ := sendBody_answer sent
        exact .of_quiet left quiet
    | template asked =>
        exact inside.templateEffect benign ⟨asked, asks, rfl⟩ (inside.sendTemplate sent).1

end

/-! ## Any number of requests -/

/-- What is so when a server that had no entries has answered some requests: its entries
go by `names`. -/
structure Named (start : Server) (requests : List Request) (names : List String)
    (s : Server) : Prop where
  inside : s.Inside
  same : s = { start with context := s.context, asked := s.asked }
  grows : Grows start.context s.context
  keys : s.context.registered.map (·.1) = names.map start.keyOf
  distinct : names.Nodup
  asked : ∀ name ∈ names, ∃ r ∈ requests, start.Asks r name
  paths : ∀ name ∈ names, start.IsTemplatePath (start.sourceOf name)
  files : ∀ name ∈ names, ∃ content time,
    s.context.disk.item? (start.sourceOf name).names = some (.file content time)

section

variable {start s : Server} {requests : List Request} {names : List String}

theorem Fresh.named (fresh : start.Fresh) : start.Named [] [] start where
  inside := fresh.inside
  same := rfl
  grows := .refl _
  keys := by rw [fresh.registered]; rfl
  distinct := List.nodup_nil
  asked := List.forall_mem_nil _
  paths := List.forall_mem_nil _
  files := List.forall_mem_nil _

section

variable {s' : Server} {request : Request}

theorem Named.asked_concat (named : start.Named requests names s) (request : Request) :
    ∀ name ∈ names, ∃ r ∈ requests ++ [request], start.Asks r name := by
  intro name hn
  obtain ⟨r, hr, asks⟩ := named.asked name hn
  exact ⟨r, List.mem_append_left _ hr, asks⟩

/-- The files of entries stay. -/
theorem Named.kept (named : start.Named requests names s) (grows : Grows s.context s'.context) :
    ∀ name ∈ names, ∃ content time,
      s'.context.disk.item? (start.sourceOf name).names = some (.file content time) :=
  fun name hn => grows.templates _ (sourceOf_ending start name) (named.files name hn)

/-- A request that makes no entry. -/
theorem Named.unchanged (named : start.Named requests names s) (effect : s.Effect request s')
    (inside : s'.Inside) (keys : s'.context.registered = s.context.registered) :
    start.Named (requests ++ [request]) names s' where
  inside := inside
  same := by rw [effect.same, named.same]
  grows := named.grows.trans effect.grows
  keys := by rw [keys, named.keys]
  distinct := named.distinct
  asked := named.asked_concat request
  paths := named.paths
  files := named.kept effect.grows

/-- A request that makes the entry of a name. -/
theorem Named.added (named : start.Named requests names s) (effect : s.Effect request s')
    (inside : s'.Inside) {name : String} (asks : start.Asks request name)
    (path : start.IsTemplatePath (start.sourceOf name)) (stands : ∃ content time,
      s.context.disk.item? (start.sourceOf name).names = some (.file content time))
    (fresh : start.keyOf name ∉ s.context.registered.map (·.1)) {i : Nat}
    (keys : s'.context.registered = s.context.registered ++ [(start.keyOf name, i)]) :
    start.Named (requests ++ [request]) (names ++ [name]) s' where
  inside := inside
  same := by rw [effect.same, named.same]
  grows := named.grows.trans effect.grows
  keys := by
    rw [keys, List.map_append, named.keys, List.map_append]
    rfl
  distinct := by
    -- an old name would have its key among the registered ones already
    have new : name ∉ names := by
      intro old
      rw [named.keys] at fresh
      exact fresh (List.mem_map_of_mem old)
    rw [← List.concat_eq_append]
    exact named.distinct.concat new
  asked := by
    rw [List.forall_mem_append, List.forall_mem_singleton]
    exact ⟨named.asked_concat request, request, by simp, asks⟩
  paths := by
    rw [List.forall_mem_append, List.forall_mem_singleton]
    exact ⟨named.paths, path⟩
  files := by
    rw [List.forall_mem_append, List.forall_mem_singleton]
    exact ⟨named.kept effect.grows,
      effect.grows.templates _ (sourceOf_ending start name) stands⟩

end

/-- A request adds at most the name that it asked for. -/
theorem Named.step (named : start.Named requests names s) (benign : start.Benign)
    (request : Request) : ∃ names',
      start.Named (requests ++ [request]) names' (outcome (respond request) s).2 := by
  have benign : s.Benign := benign.of_same (by rw [named.same]) named.grows.config
  have effect := named.inside.effect benign request
  have inside : (outcome (respond request) s).2.Inside := named.inside.respond rfl
  rcases effect.registered with keys | ⟨name, asks, path, stands, keys | ⟨fresh, i, keys⟩⟩
  · exact ⟨names, named.unchanged effect inside keys⟩
  · exact ⟨names, named.unchanged effect inside keys⟩
  · -- the request is seen by the server as it was when it started
    have sourceOf : s.sourceOf name = start.sourceOf name := by
      rw [named.same]
      rfl
    have key : s.keyOf name = start.keyOf name := by
      rw [keyOf, keyOf, named.grows.config]
    rw [sourceOf] at path stands
    rw [key] at fresh keys
    rw [named.same] at asks path
    exact ⟨names ++ [name], named.added effect inside asks ⟨path.below, path.ending⟩ stands
      fresh keys⟩

theorem Fresh.answerAll_named (fresh : start.Fresh) (benign : start.Benign)
    (requests : List Request) : ∃ names, start.Named requests names (start.answerAll requests) := by
  induction requests using List.reverseRecOn with
  | nil => exact ⟨[], fresh.named⟩
  | append_singleton requests request ih =>
      obtain ⟨names, named⟩ := ih
      rw [answerAll, List.foldl_append]
      exact named.step benign request

/-! ## Names spelled as paths -/

/-- A name that is spelled as a path: it has neither empty parts nor `.` nor `..`. -/
def Spelled (name : String) : Prop :=
  ∃ front last, (∀ n ∈ front ++ [last], IsPlainName n) ∧ name = text { names := front ++ [last] }

theorem intercalate_append (front : List String) (last ending : String) :
    "/".intercalate (front ++ [last]) ++ ending = "/".intercalate (front ++ [last ++ ending]) := by
  induction front with
  | nil => rw [List.nil_append, List.nil_append, String.intercalate_singleton,
      String.intercalate_singleton]
  | cons n front ih =>
      cases front with
      | nil =>
          simp only [List.cons_append, List.nil_append, String.intercalate_cons_cons,
            String.intercalate_singleton, String.append_assoc]
      | cons m front =>
          simp only [List.cons_append, String.intercalate_cons_cons, String.append_assoc] at ih ⊢
          rw [ih]

theorem text_append (front : List String) (last ending : String) :
    text { names := front ++ [last] } ++ ending = text { names := front ++ [last ++ ending] } := by
  have filled (n : String) : (front ++ [n]).isEmpty = false := by simp
  simp only [text, filled, Bool.and_false, if_false, Bool.false_eq_true, String.empty_append]
  exact intercalate_append front last ending

/-- Where a name leads to that is spelled as a path. -/
theorem sourceOf_text (resolved : start.templates.IsResolved) {front : List String} {last : String}
    (plain : ∀ n ∈ front ++ [last], IsPlainName n) :
    (start.sourceOf (text { names := front ++ [last] })).names
      = start.templates.names ++ (front ++ [last ++ ".html"]) := by
  have named : ∀ n ∈ front ++ [last ++ ".html"], IsPlainName n := by
    rw [List.forall_mem_append, List.forall_mem_singleton] at plain ⊢
    refine ⟨plain.1, ?_, ?_, ?_, ?_⟩
    · rw [String.toList_append, List.mem_append, not_or]
      exact ⟨plain.2.noSlash, by decide⟩
    all_goals exact append_ne_of_length _ (by decide)
  have noUp : ".." ∉ front ++ [last ++ ".html"] := fun up => (named _ up).notUp rfl
  have joined := resolved.append noUp
  rw [sourceOf, text_append, joinText_text _ (by simp) named, resolve, join,
    if_pos joined.isAbsolute]
  exact climb_of_noUp joined.noUp []

/-- Different names that are spelled as paths lead to different files. -/
theorem sourceOf_injective (resolved : start.templates.IsResolved) {n m : String}
    (hn : Spelled n) (hm : Spelled m) (same : start.sourceOf n = start.sourceOf m) : n = m := by
  obtain ⟨front, last, plain, rfl⟩ := hn
  obtain ⟨front', last', plain', rfl⟩ := hm
  have found := congrArg DiskPath.names same
  rw [sourceOf_text resolved plain, sourceOf_text resolved plain', List.append_cancel_left_eq]
    at found
  obtain ⟨rfl, ends⟩ := List.append_inj' found rfl
  rw [(String.append_left_inj _).mp (List.cons.inj ends).1]

/-! ## As many entries as templates -/

/-- The file of an entry is one of the templates. -/
theorem Named.mem_templateFiles (named : start.Named requests names s) {name : String}
    (h : name ∈ names) : (start.sourceOf name).names ∈ s.templateFiles := by
  obtain ⟨content, time, stands⟩ := named.files name h
  have path := named.paths name h
  have templates : s.templates = start.templates := by rw [named.same]
  have resolved : (start.sourceOf name).IsResolved := resolve_isResolved _ _
  have below := path.below
  rw [isBelow, Bool.and_eq_true, Bool.and_eq_true] at below
  have filled : (start.sourceOf name).names ≠ [] := by
    intro none
    rw [none] at below
    simp at below
  refine List.mem_map.mpr ⟨(_, .file content time), List.mem_filter.mpr ⟨?_, ?_⟩, rfl⟩
  · exact Disk.mem_items_of_item? stands filled
  · rw [templates]
    simp only [Bool.and_eq_true, Bool.true_and]
    exact ⟨⟨below.1.2, below.2⟩, List.isSuffixOf_iff_suffix.mpr path.ending⟩

theorem Named.registered_length (named : start.Named requests names s) :
    s.context.registered.length = names.length := by
  have length := congrArg List.length named.keys
  rwa [List.length_map, List.length_map] at length

/-- A server has no more snapshots, and no more scripts, than names were asked for. -/
theorem Named.atMost (named : start.Named requests names s) (fresh : start.Fresh)
    {ending : String} (known : ending = ".html.tmp" ∨ ending = ".js.tmp")
    (none : start.AtMost ending 0) : s.AtMost ending names.length := by
  intro files distinct stands
  have owned : files ⊆ s.context.entries.toList.map (·.baseName ++ ending) := by
    intro n hn
    obtain ⟨ends, stands⟩ := stands n hn
    rw [named.grows.config] at stands
    rcases named.grows.snapshots n stands with before | ⟨e, he, own⟩
    · have absent := none [n] (List.nodup_singleton n) (by simp [ends, before])
      simp at absent
    · exact List.mem_map.mpr ⟨e, Array.mem_toList_iff.mpr he, (ownName_append own known ends).symm⟩
  have size : s.context.entries.size = s.context.registered.length :=
    named.grows.size (by rw [fresh.entries, fresh.registered]; rfl)
  calc files.length
      ≤ (s.context.entries.toList.map (·.baseName ++ ending)).length :=
        (distinct.subperm owned).length_le
    _ = s.context.entries.size := by rw [List.length_map, Array.length_toList]
    _ = names.length := by rw [size, named.registered_length]

/-- The entries of a server that answers requests go by different names, all of which were
asked for and led to a template; there are no more snapshots and scripts than names. There
are no more names than templates if different ones lead to different files, as they do if
all requests ask for names that are spelled as paths. -/
theorem entries_named (fresh : start.Fresh) (benign : start.Benign) (requests : List Request) :
    ∃ names, start.Named requests names (start.answerAll requests) ∧
      (start.answerAll requests).context.registered.length = names.length ∧
      (∀ ending, ending = ".html.tmp" ∨ ending = ".js.tmp" → start.AtMost ending 0 →
        (start.answerAll requests).AtMost ending names.length) ∧
      ((∀ n ∈ names, ∀ m ∈ names, start.sourceOf n = start.sourceOf m → n = m) →
        names.length ≤ (start.answerAll requests).templateFiles.dedup.length) ∧
      ((∀ r ∈ requests, ∀ n, start.Asks r n → Spelled n) →
        names.length ≤ (start.answerAll requests).templateFiles.dedup.length) := by
  obtain ⟨names, named⟩ := fresh.answerAll_named benign requests
  have bound (apart : ∀ n ∈ names, ∀ m ∈ names, start.sourceOf n = start.sourceOf m → n = m) :
      names.length ≤ (start.answerAll requests).templateFiles.dedup.length := by
    have distinct : (names.map fun name => (start.sourceOf name).names).Nodup := by
      refine named.distinct.map_on fun n hn m hm same => apart n hn m hm ?_
      exact (resolve_isResolved _ _).ext (resolve_isResolved _ _) same
    rw [← names.length_map fun name => (start.sourceOf name).names]
    refine (distinct.subperm fun ns hns => ?_).length_le
    obtain ⟨name, hn, rfl⟩ := List.mem_map.mp hns
    exact List.mem_dedup.mpr (named.mem_templateFiles hn)
  refine ⟨names, named, named.registered_length, fun ending => named.atMost fresh, bound,
    fun spelled => bound fun n hn m hm => ?_⟩
  obtain ⟨r, hr, asks⟩ := named.asked n hn
  obtain ⟨r', hr', asks'⟩ := named.asked m hm
  exact sourceOf_injective fresh.templates (spelled r hr n asks) (spelled r' hr' m asks')

end

theorem benign_smallServer : smallServer.Benign := fun _ => nofun

theorem smallServer_noSnapshots : smallServer.AtMost ".html.tmp" 0 := by
  intro files _ stands
  cases files with
  | nil => exact Nat.le_refl 0
  | cons n files =>
      obtain ⟨-, content, time, here⟩ := stands n List.mem_cons_self
      cases here

/-- The template is asked for twice, once with its ending. -/
def pageTwice : List Request := [{ path := "/page" }, { path := "/page.html" }]

theorem entries_named_smallServer : smallServer.Fresh ∧ smallServer.Benign ∧
    smallServer.AtMost ".html.tmp" 0 ∧ ∃ names,
      smallServer.Named pageTwice names (smallServer.answerAll pageTwice) ∧ names.length = 1 ∧
      (smallServer.answerAll pageTwice).AtMost ".html.tmp" 1 ∧
      1 ≤ (smallServer.answerAll pageTwice).templateFiles.dedup.length := by
  obtain ⟨names, named, length, snapshots, bound, -⟩ :=
    entries_named fresh_smallServer benign_smallServer pageTwice
  have one : names.length = 1 := by
    rw [← length]
    decide +kernel
  have snapshots := snapshots ".html.tmp" (.inl rfl) smallServer_noSnapshots
  obtain ⟨name, rfl⟩ := List.length_eq_one_iff.mp one
  refine ⟨fresh_smallServer, benign_smallServer, smallServer_noSnapshots, [name], named, rfl,
    snapshots, bound fun n hn m hm _ => ?_⟩
  rw [List.mem_singleton.mp hn, List.mem_singleton.mp hm]

/-- The template is asked for in two spellings of one path. -/
def pageRespelled : List Request := [{ path := "/page" }, { path := "/./page" }]

/-- Two spellings of one path lead to the only template, and get two entries. -/
theorem spellings_not_shared :
    (smallServer.answerAll pageRespelled).context.registered.map (·.1)
        = ["B_file_/page", "B_file_/./page"] ∧
      smallServer.sourceOf "page" = smallServer.sourceOf "./page" ∧
      (smallServer.answerAll pageRespelled).templateFiles = [["t", "page.html"]] := by
  decide +kernel

end PageTemplates.Serve.Server
