import Mathlib.Logic.Relation
import PageTemplates.Proofs.Cache.Asking
import PageTemplates.Proofs.Disk.Acting
import PageTemplates.Proofs.Disk.Names
import PageTemplates.Serve.Server

/-!
# The folders of a server

A request names a file, and the name is checked after it was resolved. The main facts:

* `BodyAnswer`, `sendBody_answer`: a body script is sent only from the snapshot folder
  itself, and nothing but the log changes;
* `TemplateAnswer`, `Inside.sendTemplate`: the page of a template is asked for only if
  its file lies below the folder of the templates;
* `Inside`: the invariant of a server, all of whose entries are for such files;
* `respond_inside`: what is answered to any request in a run of the server.

What is not found leaves no entry. Some paths cannot be asked for at all, those with a
NUL and those with a name of too many bytes; they are not answered.
-/

namespace PageTemplates.Cache.Context

/-- What is sent for a page: the page as it is, or with something in place of its model
section. -/
def SentAs (a : Artifact) (body : Bytes) : Prop :=
  body = a.content ∨ ∃ charset markup, fill a charset markup = .ok body

/-- Sending a page with its own model data asks for the page, and nothing else. -/
theorem designed_page {i : Nat} {c c' : Context} {r : Except Failure Bytes}
    (h : perform (designed i) c = (r, c')) : ∃ r₁, perform (page i) c = (r₁, c') ∧
      ∀ body, r = .ok body → ∃ a, r₁ = .ok a ∧ SentAs a body := by
  unfold designed at h
  rw [perform_bind] at h
  rcases asked : perform (page i) c with ⟨_ | a, c₁⟩ <;> rw [asked] at h <;> cases h
  · exact ⟨_, rfl, fun _ => nofun⟩
  · refine ⟨.ok a, rfl, ?_⟩
    rintro _ ⟨⟩
    exact ⟨a, rfl, .inl rfl⟩

/-- Filling a page with model data asks for the page, and leaves a record at most. -/
theorem render_page {i : Nat} {c c' : Context} {r : Except Failure Bytes}
    {model? : Option Filling} (h : perform (render i model?) c = (r, c')) :
    ∃ r₁ c₁, perform (page i) c = (r₁, c₁) ∧ OnlyLog c₁ c' ∧
      ∀ body, r = .ok body → ∃ a, r₁ = .ok a ∧ SentAs a body := by
  unfold render at h
  rw [perform_bind] at h
  rcases asked : perform (page i) c with ⟨_ | a, c₁⟩ <;> rw [asked] at h
  · cases h
    exact ⟨_, _, rfl, .refl _, fun _ => nofun⟩
  · refine ⟨.ok a, c₁, rfl, ?_⟩
    dsimp only at h
    split at h
    · rw [perform_bind_ok (perform_get c₁)] at h
      cases filled : fill a (c₁.charsetOf i) ((model?.map (·.markup)).getD "") with
      | error e =>
          rw [filled] at h
          cases h
          exact ⟨.refl _, fun _ => nofun⟩
      | ok body =>
          rw [filled] at h
          cases h
          refine ⟨.refl _, ?_⟩
          rintro _ ⟨⟩
          exact ⟨a, rfl, .inr ⟨_, _, filled⟩⟩
    · rw [perform_bind_ok (perform_get c₁), perform_bind_ok (perform_modify _ c₁)] at h
      cases h
      refine ⟨.tell _ _ _, ?_⟩
      rintro _ ⟨⟩
      exact ⟨a, rfl, .inl rfl⟩

/-- Either way the page is asked for, and a record is left at most. -/
theorem sent_page {i : Nat} {c c' : Context} {r : Except Failure Bytes} (model? : Option Filling)
    (h : perform (match model? with
      | none => designed i
      | some data => render i (some data)) c = (r, c')) :
    ∃ r₁ c₁, perform (page i) c = (r₁, c₁) ∧ OnlyLog c₁ c' ∧
      ∀ body, r = .ok body → ∃ a, r₁ = .ok a ∧ SentAs a body := by
  cases model? with
  | none =>
      obtain ⟨r₁, page, answer⟩ := designed_page h
      exact ⟨r₁, c', page, .refl _, answer⟩
  | some data => exact render_page h

theorem start_entries {config : Config} {host : Host} {c : Context}
    (h : Context.start config host = .ok c) : c.entries = #[] := by
  unfold Context.start at h
  simp only [bind, Except.bind, pure, Except.pure] at h
  split at h
  · cases h
    rfl
  · split at h <;> cases h
    rfl

end PageTemplates.Cache.Context

namespace PageTemplates.Serve

open Cache (Entry EntryKey Source Context perform OnlyEntry)
open DiskPath

namespace Server

/-! ## Parts of answers -/

theorem outcome_onCache {ε α : Type} (act : Cache.Operation ε α) (s : Server) :
    outcome (onCache act) s
      = (.ok (perform act s.context).1, { s with context := (perform act s.context).2 }) := rfl

theorem outcome_orFail {ε α : Type} (lift : ε → Failure) (x : Except ε α) (s : Server) :
    outcome (orFail lift x) s = (x.mapError lift, s) := by
  cases x <;> rfl

theorem outcome_orFail_bind {ε α β : Type} (lift : ε → Failure) (x : Except ε α)
    (f : α → Answering β) (s : Server) :
    outcome (orFail lift x >>= f) s =
      match x with
      | .ok a => outcome (f a) s
      | .error e => (.error (lift e), s) := by
  rw [outcome_bind, outcome_orFail]
  cases x <;> rfl

theorem outcome_resolve_bind {β : Type} (d : Disk) (p : DiskPath) (f : DiskPath → Answering β)
    (s : Server) : outcome (orFail .disk (d.resolve p) >>= f) s =
      if p.hasNul then (.error (.disk .nulInPath), s) else outcome (f (d.here.resolve p)) s := by
  rw [outcome_orFail_bind, Disk.resolve]
  cases p.hasNul <;> rfl

/-- Asking the provider may change files, and nothing else that matters. -/
theorem modelFor_effect {s s' : Server} {name : String} {r : Except Failure (Option Cache.Filling)}
    (h : outcome (modelFor name) s = (r, s')) :
    ∃ disk asked, s' = { s with context := s.context.withDisk disk, asked } ∧
      (disk = s.context.disk ∨ ∃ provider given, s.provider = some provider ∧
        provider name s.context.disk = .ok (given, disk)) := by
  unfold modelFor at h
  rw [outcome_bind, outcome_get] at h
  dsimp only at h
  split at h
  · cases h
    exact ⟨s.context.disk, s.asked, rfl, .inl rfl⟩
  · rename_i provider known
    rw [outcome_bind, outcome_set] at h
    dsimp only at h
    split at h
    · cases h
      exact ⟨s.context.disk, _, rfl, .inl rfl⟩
    · rename_i given disk gives
      rw [outcome_bind, outcome_modify] at h
      refine ⟨disk, s.asked ++ [name], ?_, .inr ⟨provider, given, known, gives⟩⟩
      dsimp only at h
      split at h <;> cases h <;> rfl

def NotSent (r : Except Failure Response) : Prop :=
  ∀ response, r = .ok response → response.status ≠ 200

/-- Sending a page asks for it, and leaves a record at most. -/
theorem sendPage_page {s s' : Server} {name : String} {i : Nat} {model? : Option Cache.Filling}
    {r : Except Failure Response} (h : outcome (sendPage name i model?) s = (r, s')) :
    s' = { s with context := s'.context } ∧ ∃ r₁ c₁,
      perform (Context.page i) s.context = (r₁, c₁) ∧ Cache.OnlyLog c₁ s'.context ∧
      (NotSent r ∨ ∃ a response, r₁ = .ok a ∧ r = .ok response ∧
        Context.SentAs a response.body) := by
  unfold sendPage at h
  rw [outcome_bind, outcome_onCache] at h
  dsimp only at h
  obtain ⟨r₁, c₁, page, only, answer⟩ := Context.sent_page (i := i) (c := s.context) model? rfl
  split at h
  · rename_i body given
    rw [outcome_bind, outcome_get] at h
    dsimp only at h
    rw [outcome_orFail] at h
    cases h
    refine ⟨rfl, r₁, c₁, page, only, ?_⟩
    -- a page was had; it is sent unless its charset cannot stand in a header
    obtain ⟨a, had, sent⟩ := answer body given
    unfold Response.page
    split
    · exact .inl fun _ => nofun
    · exact .inr ⟨a, _, had, rfl, sent⟩
  · cases h
    refine ⟨rfl, r₁, c₁, page, only, .inl ?_⟩
    rintro _ ⟨⟩
    exact (by decide : (500 : Nat) ≠ 200)
  · cases h
    refine ⟨rfl, r₁, c₁, page, only, .inl ?_⟩
    rintro _ ⟨⟩
    exact (by decide : (404 : Nat) ≠ 200)
  · cases h
    exact ⟨rfl, r₁, c₁, page, only, .inl fun _ => nofun⟩

/-- Sending a page is work on its entry alone. -/
theorem sendPage_onlyEntry {s s' : Server} {name : String} {i : Nat} {e : Entry}
    {model? : Option Cache.Filling} {r : Except Failure Response}
    (here : s.context.entries[i]? = some e) (placed : e.WellPlaced s.context.config)
    (h : outcome (sendPage name i model?) s = (r, s')) :
    s' = { s with context := s'.context } ∧ OnlyEntry i e s.context s'.context := by
  obtain ⟨left, r₁, c₁, page, quiet, -⟩ := sendPage_page h
  have only := Context.page_onlyEntry here placed page
  obtain ⟨e₁, here₁, same⟩ := only.own
  exact ⟨left, only.trans
    (.of_onlyFiles here₁ same (.of_quiet quiet.sameEntries quiet.disk) fun _ hn => hn)⟩

/-! ## Body scripts -/

/-- The snapshot folder from the root. -/
def bodies (s : Server) : DiskPath := s.context.disk.here.resolve s.context.config.snapshotFolder

/-- Where the body script of a name would be. -/
def bodyPath (s : Server) (name : String) : DiskPath :=
  s.context.disk.here.resolve (s.bodies.joinText (name ++ ".tmp"))

/-- A path of a body script: it leads into the snapshot folder itself, and to a name
with the ending of body scripts. -/
def IsBodyPath (s : Server) (p : DiskPath) : Prop :=
  ∃ n, p = { s.bodies with names := s.bodies.names ++ [n] } ∧ ".js.tmp".toList <:+ n.toList

/-- What is answered to a request for the body script of a name. -/
inductive BodyAnswer (s : Server) (method name : String) : Except Failure Response → Prop
  | sent {content : Bytes} {time : Nat} (inside : s.IsBodyPath (s.bodyPath name))
      (stands : s.context.disk.item? (s.bodyPath name).names = some (.file content time)) :
      BodyAnswer s method name (.ok
        { contentType := some "application/x-javascript"
          body := if method == "HEAD" then [] else content, dated := true })
  | notFound (possible : s.context.config.snapshotFolder.hasNul = false ∧
        (s.bodies.joinText (name ++ ".tmp")).hasNul = false)
      (other : ¬ s.IsBodyPath (s.bodyPath name) ∨
        s.context.disk.isFile (s.bodyPath name) = .ok false) :
      BodyAnswer s method name (.ok (ErrorPage.notFound name))
  | nul (hasNul : s.context.config.snapshotFolder.hasNul ∨
      (s.bodies.joinText (name ++ ".tmp")).hasNul) :
      BodyAnswer s method name (.error (.disk .nulInPath))
  | refused {e : DiskError} (inside : s.IsBodyPath (s.bodyPath name))
      (asked : s.context.disk.isFile (s.bodyPath name) = .error e) :
      BodyAnswer s method name (.error (.disk e))

theorem isBodyPath_iff {s : Server} {p : DiskPath} (root : p.root = "/") :
    s.IsBodyPath p ↔ p.parent = s.bodies ∧ ".js.tmp".toList <:+ p.name.toList := by
  constructor
  · rintro ⟨n, rfl, ending⟩
    refine ⟨?_, by simpa [DiskPath.name] using ending⟩
    simp [DiskPath.parent]
  · rintro ⟨parent, ending⟩
    rcases List.eq_nil_or_concat p.names with none | ⟨front, n, named⟩
    · rw [DiskPath.name, none] at ending
      exact absurd ending (by decide)
    · refine ⟨n, ?_, by simpa [DiskPath.name, named] using ending⟩
      rw [← parent, DiskPath.parent, named]
      cases p
      simp_all

theorem stands_of_find {d : Disk} {p : DiskPath} (resolved : p.IsResolved) {i : Item}
    (found : d.find p = .ok (some i)) : d.item? p.names = some i := by
  unfold Disk.find at found
  split at found
  · rename_i names led
    rw [← d.spot_of_resolved resolved, ← Disk.place_eq_spot led]
    exact Except.ok.inj found
  · cases found
  · cases found

theorem isFile_eq {d : Disk} {p : DiskPath} :
    d.isFile p = (d.find p).map fun item? => item?.any fun
      | .file _ _ => true
      | .folder => false := by
  unfold Disk.isFile
  cases d.find p with
  | error e => rfl
  | ok item? => rcases item? with _ | ⟨_ | _⟩ <;> rfl

theorem file_of_isFile {d : Disk} {p : DiskPath} (resolved : p.IsResolved)
    (h : d.isFile p = .ok true) :
    ∃ content time, d.item? p.names = some (.file content time) := by
  rw [isFile_eq] at h
  cases found : d.find p with
  | error e =>
      rw [found] at h
      cases h
  | ok item? =>
      rw [found] at h
      rcases item? with _ | ⟨content, time⟩ | _
      · cases h
      · exact ⟨content, time, stands_of_find resolved found⟩
      · cases h

/-- A request for a body script is answered, and nothing but the log changes. -/
theorem sendBody_answer {s s' : Server} {method name : String} {r : Except Failure Response}
    (h : outcome (sendBody method name) s = (r, s')) :
    s.BodyAnswer method name r ∧ s' = { s with context := s'.context } ∧
      Cache.OnlyLog s.context s'.context := by
  unfold sendBody at h
  rw [outcome_bind, outcome_get] at h
  dsimp only at h
  -- two paths are resolved, the folder and the file, and either may have a NUL
  rw [outcome_resolve_bind] at h
  split at h
  · rename_i nul
    cases h
    exact ⟨.nul (.inl nul), rfl, .refl _⟩
  rename_i folderPossible
  rw [outcome_resolve_bind] at h
  split at h
  · rename_i nul
    cases h
    exact ⟨.nul (.inr nul), rfl, .refl _⟩
  rename_i pathPossible
  have possible : s.context.config.snapshotFolder.hasNul = false ∧
      (s.bodies.joinText (name ++ ".tmp")).hasNul = false :=
    ⟨Bool.eq_false_iff.mpr folderPossible, Bool.eq_false_iff.mpr pathPossible⟩
  -- what is not a body script by its path is not looked for on the disk
  change outcome (if (decide ((s.bodyPath name).parent ≠ s.bodies) ||
    !".js.tmp".toList.isSuffixOf (s.bodyPath name).name.toList) = true then _ else _) s = _ at h
  have inside : s.IsBodyPath (s.bodyPath name) ↔ _ := isBodyPath_iff rfl
  split at h
  · rename_i outside
    rw [outcome_bind, outcome_modify] at h
    cases h
    refine ⟨.notFound possible (.inl fun found => ?_), rfl, .tell _ _ _⟩
    obtain ⟨parent, ending⟩ := inside.mp found
    rw [List.isSuffixOf_iff_suffix.mpr ending] at outside
    simp [parent] at outside
  · rename_i path
    have inside := inside.mpr (by simpa using path)
    have asked : s.context.disk.isFile (s.bodyPath name) = _ := isFile_eq
    rw [outcome_orFail_bind] at h
    split at h
    · rename_i item? found
      have found : s.context.disk.find (s.bodyPath name) = .ok item? := found
      rw [found] at asked
      rcases item? with _ | ⟨content, time⟩ | _
      · cases h
        exact ⟨.notFound possible (.inr asked), rfl, .refl _⟩
      · cases h
        exact ⟨.sent inside (stands_of_find (resolve_isResolved _ _) found), rfl, .refl _⟩
      · cases h
        exact ⟨.notFound possible (.inr asked), rfl, .refl _⟩
    · rename_i e refused
      have refused : s.context.disk.find (s.bodyPath name) = .error e := refused
      rw [refused] at asked
      cases h
      exact ⟨.refused inside asked, rfl, .refl _⟩

/-! ## Templates -/

/-- Where the template of a name would be. -/
def sourceOf (s : Server) (name : String) : DiskPath :=
  DiskPath.resolve {} (s.templates.joinText (name ++ ".html"))

/-- A path of a template: it lies strictly below the folder of the templates, and leads to
a name with their ending. -/
structure IsTemplatePath (s : Server) (p : DiskPath) : Prop where
  below : p.isBelow s.templates
  ending : ".html".toList <:+ p.name.toList

/-- An entry for a file below the folder of the templates. -/
structure Keeps (s : Server) (e : Entry) : Prop where
  placed : e.WellPlaced s.context.config
  mode : e.mode = s.context.config.cacheMode
  source : ∃ name, e.templateId = "/" ++ name ∧ e.source = { path := s.sourceOf name }
  inside : s.IsTemplatePath e.source.path

/-- The folder of the templates is known from the root, and all entries are for files
below it. -/
structure Inside (s : Server) : Prop where
  templates : s.templates.IsResolved
  known : s.context.NamesKnown
  entries : ∀ (i : Nat) (e : Entry), s.context.entries[i]? = some e → s.Keeps e

section

variable {s s' : Server} {name : String}

theorem sourceOf_eq (inside : s.Inside) (here : DiskPath) (name : String) :
    here.resolve (s.templates.joinText (name ++ ".html")) = s.sourceOf name := by
  refine resolve_of_isAbsolute ?_ here
  unfold joinText join
  split
  · assumption
  · exact inside.templates.isAbsolute

theorem sourceOf_ending (s : Server) (name : String) :
    ".html".toList <:+ (s.sourceOf name).name.toList := by
  obtain ⟨front, last, named⟩ : ∃ front last,
      (s.sourceOf name).names = front ++ [last ++ ".html"] :=
    resolve_joinText_append {} s.templates name (by decide) (by decide)
  rw [DiskPath.name, named, List.getLast?_concat, Option.getD_some, String.toList_append]
  exact List.suffix_append _ _

/-- What an entry stands for stays as it is. -/
theorem Keeps.of_sameTemplate {e e' : Entry} (keeps : s.Keeps e) (same : e.SameTemplate e')
    (templates : s'.templates = s.templates) (config : s'.context.config = s.context.config) :
    s'.Keeps e' := by
  obtain ⟨name, id, source⟩ := keeps.source
  refine ⟨?_, ?_, ⟨name, same.templateId.trans id, ?_⟩, ?_⟩
  · rw [config]
    exact same.wellPlaced keeps.placed
  · rw [same.mode, config]
    exact keeps.mode
  · rw [same.source, source, sourceOf, sourceOf, templates]
  · rw [same.source]
    exact ⟨templates ▸ keeps.inside.below, keeps.inside.ending⟩

/-- Work on one entry keeps entries inside. -/
theorem Inside.onlyEntry (inside : s.Inside) {i : Nat} {e : Entry}
    (here : s.context.entries[i]? = some e) (left : s' = { s with context := s'.context })
    (only : OnlyEntry i e s.context s'.context) : s'.Inside := by
  have templates : s'.templates = s.templates := by rw [left]
  refine ⟨templates ▸ inside.templates, inside.known.onlyEntry here only, fun j e' he' => ?_⟩
  by_cases own : j = i
  · obtain ⟨e₁, here₁, same⟩ := only.own
    obtain rfl : e₁ = e' := Option.some.inj (here₁.symm.trans (own ▸ he'))
    exact (inside.entries i e here).of_sameTemplate same templates only.config
  · rw [only.others j own] at he'
    exact (inside.entries j e' he').of_sameTemplate (.refl e') templates only.config

/-- The entry of a template of that name. -/
def IsEntryOf (s : Server) (name : String) (e : Entry) : Prop :=
  e.templateId = "/" ++ name ∧ e.source = { path := s.sourceOf name }

theorem key_name_injective {mode : CacheMode} {store id id' : String}
    (same : (EntryKey.mk mode store id).name = (EntryKey.mk mode store id').name) : id = id' := by
  unfold EntryKey.name at same
  exact String.append_right_inj _ |>.mp same

/-- Registering a template below the folder gives an entry of its own. -/
theorem Inside.register (inside : s.Inside) (inside' : s.IsTemplatePath (s.sourceOf name))
    {i : Nat} {c : Context}
    (h : s.context.register ("/" ++ name) { path := s.sourceOf name } none = (i, c)) :
    ({ s with context := c } : Server).Inside ∧
      ∃ e, c.entries[i]? = some e ∧ s.IsEntryOf name e := by
  rcases s.context.register_index ("/" ++ name) { path := s.sourceOf name } none with
    ⟨i', registered, found⟩ | ⟨next, number, added⟩
  · cases found.symm.trans h
    refine ⟨inside, ?_⟩
    -- an entry of this name is that of this template, since names spell the templates
    obtain ⟨e, here, same⟩ := inside.known _ _ registered
    obtain ⟨name', id, source⟩ := (inside.entries _ e here).source
    refine ⟨e, here, ?_⟩
    have mode := (inside.entries _ e here).mode
    rw [Entry.key, mode, source] at same
    have id' : e.templateId = "/" ++ name := (key_name_injective same).symm
    rw [id, String.append_right_inj] at id'
    exact ⟨by rw [id, id'], by rw [source, id']⟩
  · rw [h] at next added
    dsimp only at next added
    subst next
    obtain ⟨id, mode, source⟩ := Cache.Context.make_eq s.context.config (s.context.modeOf none) ("/" ++ name)
      { path := s.sourceOf name } number
    refine ⟨⟨inside.templates, added.known inside.known, fun j e he => ?_⟩,
      _, added.new, id, source⟩
    have before (he : s.context.entries[j]? = some e) :
        ({ s with context := c } : Server).Keeps e :=
      (inside.entries j e he).of_sameTemplate (.refl e) rfl added.config
    rw [added.entries, Array.getElem?_push] at he
    split at he
    · cases he
      refine ⟨?_, ?_, ⟨name, id, source⟩, ?_⟩
      · rw [added.config]
        exact Cache.Context.make_wellPlaced _ _ _ _ _
      · rw [mode, added.config]
        rfl
      · rw [source]
        exact ⟨inside'.below, inside'.ending⟩
    · exact before he

/-- What is answered to a request for the template of a name, and the server after
that. -/
inductive TemplateAnswer (s : Server) (name : String) : Except Failure Response → Server → Prop
  | sent {c : Context} {s₁ s' : Server} {i : Nat} {e : Entry} {model? : Option Cache.Filling}
      {r : Except Failure Response} (inside : s.IsTemplatePath (s.sourceOf name))
      (stands : ∃ content time,
        s.context.disk.item? (s.sourceOf name).names = some (.file content time))
      (registered : s.context.register ("/" ++ name) { path := s.sourceOf name } none = (i, c))
      (entry : c.entries[i]? = some e) (of : s.IsEntryOf name e)
      (given : outcome (modelFor name) { s with context := c } = (.ok model?, s₁))
      (page : outcome (sendPage name i model?) s₁ = (r, s')) : TemplateAnswer s name r s'
  | withoutModel {c : Context} {s' : Server} {i : Nat} {e : Entry} {f : Failure}
      (inside : s.IsTemplatePath (s.sourceOf name))
      (stands : ∃ content time,
        s.context.disk.item? (s.sourceOf name).names = some (.file content time))
      (registered : s.context.register ("/" ++ name) { path := s.sourceOf name } none = (i, c))
      (entry : c.entries[i]? = some e) (of : s.IsEntryOf name e)
      (given : outcome (modelFor name) { s with context := c } = (.error f, s')) :
      TemplateAnswer s name (.error f) s'
  | notFound (possible : (s.templates.joinText (name ++ ".html")).hasNul = false)
      (other : ¬ s.IsTemplatePath (s.sourceOf name) ∨
        s.context.disk.isFile (s.sourceOf name) = .ok false) :
      TemplateAnswer s name (.ok (ErrorPage.notFound name)) s
  | nul (hasNul : (s.templates.joinText (name ++ ".html")).hasNul) :
      TemplateAnswer s name (.error (.disk .nulInPath)) s
  | refused {e : DiskError} (inside : s.IsTemplatePath (s.sourceOf name))
      (asked : s.context.disk.isFile (s.sourceOf name) = .error e) :
      TemplateAnswer s name (.error (.disk e)) s

/-- The page of a template that is there is asked for. -/
theorem Inside.sendRegistered (inside : s.Inside) (inside' : s.IsTemplatePath (s.sourceOf name))
    (stands : ∃ content time,
      s.context.disk.item? (s.sourceOf name).names = some (.file content time))
    {r : Except Failure Response} (h : outcome (do
      let (i, context) := s.context.register ("/" ++ name) { path := s.sourceOf name } none
      set { s with context }
      let model? ← modelFor name
      sendPage name i model?) s = (r, s')) : s.TemplateAnswer name r s' ∧ s'.Inside := by
  cases registered : s.context.register ("/" ++ name) { path := s.sourceOf name } none with
  | mk i c =>
      obtain ⟨inside₁, e, here, of⟩ := inside.register inside' registered
      rw [registered] at h
      dsimp only at h
      rw [outcome_bind, outcome_set] at h
      dsimp only at h
      rw [outcome_bind] at h
      cases given : outcome (modelFor name) { s with context := c } with
      | mk result s₁ =>
          rw [given] at h
          obtain ⟨disk, asked, rfl, -⟩ := modelFor_effect given
          -- the provider changes files, which says nothing about entries
          have inside₂ : ({ s with context := c.withDisk disk, asked } : Server).Inside :=
            ⟨inside₁.templates, inside₁.known, fun j e' he' =>
              (inside₁.entries j e' he').of_sameTemplate (.refl e') rfl rfl⟩
          cases result with
          | error f =>
              cases h
              exact ⟨.withoutModel inside' stands registered here of given, inside₂⟩
          | ok model? =>
              have placed := (inside₂.entries i e here).placed
              obtain ⟨left, only⟩ := sendPage_onlyEntry here placed h
              exact ⟨.sent inside' stands registered here of given h,
                inside₂.onlyEntry here left only⟩

/-- A request for a template is answered, and all entries are inside after that. -/
theorem Inside.sendTemplate (inside : s.Inside) {asked : String} {r : Except Failure Response}
    (h : outcome (sendTemplate asked) s = (r, s')) :
    s.TemplateAnswer (templateName asked) r s' ∧ s'.Inside := by
  unfold Server.sendTemplate at h
  rw [outcome_bind, outcome_get] at h
  dsimp only at h
  generalize templateName asked = name at h ⊢
  -- the path is resolved, then it is seen whether it is below the folder, and then on the disk
  rw [outcome_resolve_bind, sourceOf_eq inside] at h
  split at h
  · rename_i nul
    cases h
    exact ⟨.nul nul, inside⟩
  rename_i possible
  have possible := Bool.eq_false_iff.mpr possible
  split at h
  · rename_i outside
    cases h
    refine ⟨.notFound possible (.inl fun found => ?_), inside⟩
    simp [found.below] at outside
  · rename_i below
    have inside' : s.IsTemplatePath (s.sourceOf name) :=
      ⟨by simpa using below, sourceOf_ending s name⟩
    rw [outcome_orFail_bind] at h
    cases asked : s.context.disk.isFile (s.sourceOf name) with
    | error e =>
        rw [asked] at h
        cases h
        exact ⟨.refused inside' asked, inside⟩
    | ok isFile =>
        rw [asked] at h
        cases isFile with
        | false =>
            cases h
            exact ⟨.notFound possible (.inr asked), inside⟩
        | true =>
            have stands := file_of_isFile (resolve_isResolved _ _) asked
            exact inside.sendRegistered inside' stands h

/-! ## Requests -/

/-- What a target is sent. -/
def send (method : String) : Target → Answering Response
  | .body name => sendBody method name
  | .template asked => Server.sendTemplate asked

/-- A request is answered without looking at anything, or its target is sent. -/
theorem respond_cases {request : Request} {r : Except Failure Response}
    (h : outcome (respond request) s = (r, s')) :
    s' = s ∧ (∀ target, s.routes.target? request.path = .ok (some target) →
        request.method ≠ "GET" ∧ request.method ≠ "HEAD") ∨
      ∃ target, s.routes.target? request.path = .ok (some target) ∧
        outcome (send request.method target) s = (r, s') := by
  unfold respond at h
  rw [outcome_bind, outcome_get] at h
  dsimp only at h
  rw [outcome_orFail_bind] at h
  cases asked : s.routes.target? request.path with
  | error n =>
      rw [asked] at h
      cases h
      exact .inl ⟨rfl, fun _ => nofun⟩
  | ok target? =>
      rw [asked] at h
      cases target? with
      | none =>
          -- no route: the answer is a redirect or a refusal, and both leave the server as it is
          refine .inl ⟨?_, fun _ => nofun⟩
          dsimp only at h
          split at h
          · cases h
            rfl
          · rw [outcome_orFail_bind] at h
            split at h
            · split at h <;> cases h <;> rfl
            · cases h
              rfl
      | some target =>
          dsimp only at h
          split at h
          · rename_i method
            cases h
            refine .inl ⟨rfl, fun _ _ => ?_⟩
            simpa using method
          · exact .inr ⟨target, rfl, by cases target <;> exact h⟩

/-- Looking at nothing but the log keeps entries inside. -/
theorem Inside.onlyLog (inside : s.Inside) (left : s' = { s with context := s'.context })
    (quiet : Cache.OnlyLog s.context s'.context) : s'.Inside := by
  obtain ⟨log, quiet⟩ := quiet
  rw [left, quiet]
  exact ⟨inside.templates, inside.known, fun i e he =>
    (inside.entries i e he).of_sameTemplate (.refl e) rfl rfl⟩

/-- One thing that happens to a server: a request is answered, others change files, memory
forgets pages, or entries are dropped. -/
inductive Step : Server → Server → Prop
  | request (s : Server) (request : Request) : Step s (outcome (respond request) s).2
  | files (s : Server) (disk : Disk) : Step s (s.mapContext (·.withDisk disk))
  | forget (s : Server) (memory : Cache.Recency EntryKey Artifact) :
      Step s (s.mapContext fun c => { c with memory })
  | drop (s : Server) (templateId? : Option String) :
      Step s (outcome (onCache (Context.invalidate templateId?)) s).2

/-- What happens to a server in a run. -/
abbrev Run : Server → Server → Prop := Relation.ReflTransGen Step

/-- A server that has no entries yet, as it is when it has been started. -/
structure Fresh (s : Server) : Prop where
  templates : s.templates.IsResolved
  entries : s.context.entries = #[]
  registered : s.context.registered = []

theorem Fresh.inside (fresh : s.Fresh) : s.Inside := by
  refine ⟨fresh.templates, fun name i hn => ?_, fun i e he => ?_⟩
  · rw [fresh.registered] at hn
    cases hn
  · rw [fresh.entries] at he
    cases he

theorem start_fresh {templates : DiskPath} {config : Config} {h h' : Host}
    (r : (Server.start templates config).Returns h s h') : s.Fresh := by
  unfold Server.start at r
  rw [Act.returns_ask_bind] at r
  obtain ⟨folder, resolved, r⟩ := r
  rw [Act.returns_get_bind] at r
  split at r
  · cases r
  · rename_i context started
    rw [Act.returns_bind] at r
    obtain ⟨_, h₁, -, r⟩ := r
    split at r
    · rename_i routes _
      obtain ⟨rfl, -⟩ := Act.returns_pure.mp r
      refine ⟨?_, ?_, Context.start_registered started⟩
      · rw [Disk.resolve_eq_ok resolved]
        exact resolve_isResolved _ _
      · exact Context.start_entries started
    · cases r

theorem Inside.respond (inside : s.Inside) {request : Request} {r : Except Failure Response}
    (h : outcome (respond request) s = (r, s')) : s'.Inside := by
  rcases respond_cases h with ⟨rfl, -⟩ | ⟨target, -, sent⟩
  · exact inside
  · cases target with
    | body name =>
        obtain ⟨-, left, quiet⟩ := sendBody_answer sent
        exact inside.onlyLog left quiet
    | template asked => exact (inside.sendTemplate sent).2

theorem Inside.drop (inside : s.Inside) {templateId? : Option String}
    {r : Except DiskError (List String)} {c : Context}
    (h : perform (Context.invalidate templateId?) s.context = (r, c)) :
    ({ s with context := c } : Server).Inside := by
  have files := Context.invalidate_onlyFiles (fun e he => ?_) h
  · refine ⟨inside.templates, fun name i hn => ?_, fun i e he => ?_⟩
    · rw [files.registered, Context.unregister, List.mem_filter] at hn
      rw [files.entries]
      exact inside.known name i hn.1
    · rw [files.entries] at he
      exact (inside.entries i e he).of_sameTemplate (.refl e) rfl files.config
  · obtain ⟨⟨_, i⟩, -, here⟩ := List.mem_filterMap.mp he
    exact (inside.entries i e here).placed

theorem Inside.step (inside : s.Inside) (step : Step s s') : s'.Inside := by
  cases step with
  | request request => exact inside.respond rfl
  | files disk | forget memory =>
      exact ⟨inside.templates, inside.known, fun i e he =>
        (inside.entries i e he).of_sameTemplate (.refl e) rfl rfl⟩
  | drop templateId? => exact inside.drop rfl

theorem Inside.run (inside : s.Inside) (run : Run s s') : s'.Inside := by
  induction run with
  | refl => exact inside
  | tail _ step ih => exact ih.step step

/-- A server never leaves its folders. In every run a body script is sent only from the
snapshot folder itself, and all entries are for files below the folder of the templates;
a request for anything else is not found and leaves no entry, unless the system cannot
even be asked for the path. -/
theorem respond_inside {start : Server} (fresh : start.Fresh) (run : Run start s)
    {request : Request} {r : Except Failure Response}
    (h : outcome (respond request) s = (r, s')) :
    s'.Inside ∧ ∀ target, s.routes.target? request.path = .ok (some target) →
      request.method = "GET" ∨ request.method = "HEAD" →
      match target with
      | .body name => s.BodyAnswer request.method name r ∧
          s'.context.entries = s.context.entries ∧ s'.context.registered = s.context.registered
      | .template asked => s.TemplateAnswer (templateName asked) r s' := by
  have inside := fresh.inside.run run
  refine ⟨inside.respond h, fun target asks method => ?_⟩
  rcases respond_cases h with ⟨-, other⟩ | ⟨target', asks', sent⟩
  · exact absurd method (not_or.mpr (other target asks))
  · cases asks.symm.trans asks'
    cases target with
    | body name =>
        obtain ⟨answer, -, quiet⟩ := sendBody_answer sent
        exact ⟨answer, quiet.sameEntries.entries, quiet.sameEntries.registered⟩
    | template asked => exact (inside.sendTemplate sent).1

end

/-- A server for a folder with one template, which is served as it is. -/
def smallServer : Server where
  templates := { root := "/", names := ["t"] }
  routes :=
    { body := "/b/".toList.map .char ++ [.parameter "body_id" .path]
      template := [.char '/', .parameter "template_id" .path] }
  context :=
    { host :=
        { disk :=
            { items := [(["t"], .folder),
                (["t", "page.html"], .file (Bytes.ofAscii "<p>x</p>") 1)] } }
      config := { compiles := false, snapshotFolder := { root := "/", names := ["s"] } }
      memory := { capacity := some 1 } }

theorem fresh_smallServer : smallServer.Fresh := ⟨⟨rfl, by decide⟩, rfl, rfl⟩

theorem respond_inside_smallServer : smallServer.Fresh ∧ ∃ r s',
    outcome (respond { path := "/page" }) smallServer = (r, s') ∧ s'.Inside ∧
      smallServer.TemplateAnswer "page" r s' := by
  have asks : smallServer.routes.target? "/page" = .ok (some (.template "page")) := by rfl
  obtain ⟨r, s', answered⟩ : ∃ r s', outcome (respond { path := "/page" }) smallServer = (r, s') :=
    ⟨_, _, rfl⟩
  obtain ⟨inside, answer⟩ := respond_inside fresh_smallServer .refl answered
  exact ⟨fresh_smallServer, r, s', answered, inside, answer (.template "page") asks (.inl rfl)⟩

/-- A path with a NUL is not found to lead nowhere: there is an error in place of an
answer. -/
theorem respond_nul_fails :
    (outcome (respond { path := "/a\x00b" }) smallServer).1 = .error (.disk .nulInPath) ∧
      (outcome (respond { path := "/b/a\x00b" }) smallServer).1 = .error (.disk .nulInPath) :=
  ⟨rfl, rfl⟩

end Server

end PageTemplates.Serve
