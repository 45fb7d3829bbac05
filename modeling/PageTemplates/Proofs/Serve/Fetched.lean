import PageTemplates.Proofs.Cache.Supplied
import PageTemplates.Proofs.Compile.Loading
import PageTemplates.Proofs.Serve.Addresses
import PageTemplates.Proofs.Serve.Routing
import PageTemplates.Proofs.Serve.Shared

/-!
# Fetching the body of a page

A page whose body is split off loads the script of its body from an address, and the same
server answers for it. The main facts:

* `Worked`: what asking for a template does to the cache, with `Worked.each` for a condition
  on entries that is to stay;
* `Use`, `Remains`: what happens to a server in use, and what stays so;
* `Stocked`: the invariant that the entries for a template have their scripts, as long as
  these can be written when the template is asked for;
* `Offers`: a page was sent whose script is there, and requests leave it there;
* `page_fetches`: who asks at the address that a page loads its script from is sent the
  script of that page, if the characters of the address are asked for as they stand;
* `script_of_question_not_sent`: a question mark in the name of a template is not one.
-/

namespace PageTemplates.Serve.Server

open Cache (Entry Context perform OnlyLog OnlyEntry)
open Cache.Context (Each Lasting Supplied Served Steady Accepts SentAs)
open DiskPath

section

variable {s s' : Server} {name : String} {r : Except Failure Response}

/-! ## What a request does to the cache -/

/-- The provider leaves files alone. -/
def LeavesFiles (s : Server) : Prop :=
  ∀ provider, s.provider = some provider → ∀ name d given d',
    provider name d = .ok (given, d') → d' = d

theorem modelFor_leaves (leaves : s.LeavesFiles) {r : Except Failure (Option Cache.Filling)}
    (h : outcome (modelFor name) s = (r, s')) : ∃ asked, s' = { s with asked } := by
  obtain ⟨disk, asked, left, disk_eq⟩ := modelFor_effect h
  obtain rfl : disk = s.context.disk := by
    rcases disk_eq with same | ⟨provider, given, known, gives⟩
    · exact same
    · exact leaves provider known _ _ given disk gives
  exact ⟨asked, left⟩

/-- What asking for the template of a name does to the cache: nothing but records, if it is
not there; or it is registered, and its page may be asked for. -/
inductive Worked (s : Server) (name : String) (c' : Context) (r : Except Failure Response) : Prop
  | quiet (only : OnlyLog s.context c') (refused : NotSent r)
  | registered {i : Nat} {c : Context} (readable : s.context.disk.isFile (s.sourceOf name) = .ok true)
      (registered : s.context.register ("/" ++ name) { path := s.sourceOf name } none = (i, c))
      (only : OnlyLog c c') (refused : NotSent r)
  | page {i : Nat} {c c₁ : Context} {e : Entry} {r₁ : Except Cache.Failure Artifact}
      (readable : s.context.disk.isFile (s.sourceOf name) = .ok true)
      (registered : s.context.register ("/" ++ name) { path := s.sourceOf name } none = (i, c))
      (entry : c.entries[i]? = some e) (placed : e.WellPlaced c.config) (of : s.IsEntryOf name e)
      (done : perform (Context.page i) c = (r₁, c₁)) (only : OnlyLog c₁ c')
      (answer : NotSent r ∨ ∃ a response, r₁ = .ok a ∧ r = .ok response ∧
        SentAs a response.body)

theorem notSent_notFound (name : String) : NotSent (.ok (ErrorPage.notFound name)) := by
  rintro _ ⟨⟩
  exact (by decide : (404 : Nat) ≠ 200)

/-- Nothing is done for a template that is not there. -/
theorem sendTemplate_isFile (inside : s.Inside) {asked : String}
    (h : outcome (sendTemplate asked) s = (r, s')) :
    s.context.disk.isFile (s.sourceOf (templateName asked)) = .ok true ∨ s' = s ∧ NotSent r := by
  unfold Server.sendTemplate at h
  rw [outcome_bind, outcome_get] at h
  dsimp only at h
  generalize templateName asked = name at h ⊢
  rw [outcome_resolve_bind, sourceOf_eq inside] at h
  split at h
  · cases h
    exact .inr ⟨rfl, fun _ => nofun⟩
  split at h
  · cases h
    exact .inr ⟨rfl, notSent_notFound name⟩
  rw [outcome_orFail_bind] at h
  cases there : s.context.disk.isFile (s.sourceOf name) with
  | error e =>
      rw [there] at h
      cases h
      exact .inr ⟨rfl, fun _ => nofun⟩
  | ok isFile =>
      rw [there] at h
      cases isFile with
      | false =>
          cases h
          exact .inr ⟨rfl, notSent_notFound name⟩
      | true => exact .inl rfl

theorem Inside.sendTemplate_worked (inside : s.Inside) (leaves : s.LeavesFiles) {asked : String}
    (h : outcome (Server.sendTemplate asked) s = (r, s')) :
    s' = { s with context := s'.context, asked := s'.asked } ∧
      s.Worked (templateName asked) s'.context r := by
  rcases sendTemplate_isFile inside h with readable | ⟨rfl, refused⟩
  · obtain ⟨answer, -⟩ := inside.sendTemplate h
    generalize templateName asked = name at readable answer
    cases answer with
    | @sent c s₁ _ i e model? _ inside' stands registered entry of given page =>
        obtain ⟨asked, rfl⟩ := modelFor_leaves (s := { s with context := c }) leaves given
        obtain ⟨left, r₁, c₁, done, only, answer⟩ := sendPage_page page
        have placed := ((inside.register inside' registered).1.entries i e entry).placed
        exact ⟨by rw [left], .page readable registered entry placed of done only answer⟩
    | @withoutModel c _ i e f inside' stands registered entry of given =>
        obtain ⟨asked, rfl⟩ := modelFor_leaves (s := { s with context := c }) leaves given
        exact ⟨rfl, .registered readable registered (.refl c) fun _ => nofun⟩
    | notFound _ _ => exact ⟨rfl, .quiet (.refl _) (notSent_notFound name)⟩
    | nul _ | refused _ _ => exact ⟨rfl, .quiet (.refl _) fun _ => nofun⟩
  · exact ⟨rfl, .quiet (.refl _) refused⟩

/-- What every request does to the cache: no entry goes, and no number is given out twice. -/
structure Onward (c c' : Context) : Prop where
  config : c'.config = c.config
  here : c'.disk.here = c.disk.here
  number : c.host.named ≤ c'.host.named
  kept : ∀ i e, c.Registered i e → ∃ e', c'.Registered i e' ∧ e.SameTemplate e'

namespace Onward

variable {c c' c'' : Context}

theorem trans (h : Onward c c') (h' : Onward c' c'') : Onward c c'' := by
  refine ⟨h'.config.trans h.config, h'.here.trans h.here, h.number.trans h'.number,
    fun i e he => ?_⟩
  obtain ⟨e', he', same⟩ := h.kept i e he
  obtain ⟨e'', he'', same'⟩ := h'.kept i e' he'
  exact ⟨e'', he'', same.trans same'⟩

theorem of_quiet (only : OnlyLog c c') : Onward c c' := by
  obtain ⟨log, rfl⟩ := only
  exact ⟨rfl, rfl, Nat.le_refl _, fun i e he => ⟨e, he, .refl e⟩⟩

theorem of_added {e : Entry} (added : Context.Added e c c')
    (number : c.host.named ≤ c'.host.named) : Onward c c' := by
  refine ⟨added.config, by rw [added.disk], number, fun i e' he' => ⟨e', ⟨?_, ?_⟩, .refl e'⟩⟩
  · obtain ⟨name, hn⟩ := he'.1
    rw [added.registered]
    exact ⟨name, List.mem_append_left _ hn⟩
  · exact added.old he'.2

theorem of_onlyEntry {i : Nat} {e : Entry} (here : c.entries[i]? = some e)
    (only : OnlyEntry i e c c') (number : Cache.SameNumber c c') : Onward c c' := by
  refine ⟨only.config, only.disk.here, Nat.le_of_eq number.symm, fun j e₁ he₁ => ?_⟩
  by_cases own : j = i
  · obtain ⟨e', here', same⟩ := only.own
    obtain rfl : e = e₁ := Option.some.inj (here.symm.trans (own ▸ he₁.2))
    exact ⟨e', ⟨only.registered ▸ he₁.1, own ▸ here'⟩, same⟩
  · exact ⟨e₁, ⟨only.registered ▸ he₁.1, (only.others j own).trans he₁.2⟩, .refl e₁⟩

end Onward

/-- The cache after the template of a name was registered. -/
def registering (s : Server) (name : String) : Context :=
  (s.context.register ("/" ++ name) { path := s.sourceOf name } none).2

theorem registering_cases (s : Server) (name : String) : s.registering name = s.context ∨
    ∃ number, Context.Added (Entry.make s.context.config s.context.config.cacheMode ("/" ++ name)
      { path := s.sourceOf name } number) s.context (s.registering name) := by
  rcases s.context.register_cases ("/" ++ name) { path := s.sourceOf name } none with
    same | ⟨number, -, added⟩
  · exact .inl same
  · exact .inr ⟨number, added⟩

theorem registering_onward (s : Server) (name : String) :
    Onward s.context (s.registering name) := by
  rcases s.registering_cases name with same | ⟨number, added⟩
  · rw [same]
    exact .of_quiet (.refl _)
  · refine .of_added added ?_
    have more := s.context.register_number ("/" ++ name) { path := s.sourceOf name } none
    unfold registering
    omega

/-- The entry that registering gives is registered. -/
theorem registered_of_register {i : Nat} {c : Context} {e : Entry}
    (h : s.context.register ("/" ++ name) { path := s.sourceOf name } none = (i, c))
    (entry : c.entries[i]? = some e) : c.Registered i e := by
  refine ⟨?_, entry⟩
  rcases s.context.register_index ("/" ++ name) { path := s.sourceOf name } none with
    ⟨j, registered, found⟩ | ⟨next, number, added⟩
  · cases found.symm.trans h
    exact ⟨_, registered⟩
  · rw [h] at next added
    dsimp only at next added
    rw [added.registered, next]
    exact ⟨_, List.mem_append_right _ (List.mem_singleton_self _)⟩

theorem Worked.onward {c' : Context} (worked : s.Worked name c' r) : Onward s.context c' := by
  cases worked with
  | quiet only _ => exact .of_quiet only
  | @registered i c _ registered only _ =>
      obtain rfl : s.registering name = c := congrArg Prod.snd registered
      exact (s.registering_onward name).trans (.of_quiet only)
  | @page i c c₁ e r₁ _ registered entry placed of done only _ =>
      obtain rfl : s.registering name = c := congrArg Prod.snd registered
      have work := Context.page_onlyEntry entry placed done
      exact ((s.registering_onward name).trans
        (.of_onlyEntry entry work (Context.page_sameNumber entry done))).trans (.of_quiet only)

/-- A condition on entries stays if a new entry that is selected satisfies it, and the entry
whose page was asked for still does. -/
theorem Worked.each {c' : Context} {select : Nat → String → Prop} {P : Context → Entry → Prop}
    (worked : s.Worked name c' r) (lasting : Lasting P) (each : Each select P s.context)
    (enough : c'.host.named < 16 ^ 32)
    (new : s.context.disk.isFile (s.sourceOf name) = .ok true → ∀ number,
      Context.Added (Entry.make s.context.config s.context.config.cacheMode ("/" ++ name)
        { path := s.sourceOf name } number) s.context (s.registering name) →
      select s.context.entries.size ("/" ++ name) → P (s.registering name)
        (Entry.make s.context.config s.context.config.cacheMode ("/" ++ name)
          { path := s.sourceOf name } number))
    (own : ∀ {i e e' c₁ r₁}, P (s.registering name) e → select i e.templateId →
      (s.registering name).Registered i e → perform (Context.page i) (s.registering name) = (r₁, c₁) →
      c₁.entries[i]? = some e' → c'.Registered i e' → P c₁ e') : Each select P c' := by
  -- in every case but the first the template is registered before anything else is done
  have added (enough : (s.registering name).host.named < 16 ^ 32)
      (readable : s.context.disk.isFile (s.sourceOf name) = .ok true) :
      Each select P (s.registering name) :=
    each.register lasting none enough (new readable)
  cases worked with
  | quiet only _ => exact each.quiet lasting only
  | @registered i c readable registered only _ =>
      obtain rfl : s.registering name = c := congrArg Prod.snd registered
      have number := (Onward.of_quiet only).number
      exact (added (by omega) readable).quiet lasting only
  | @page i c c₁ e r₁ readable registered entry placed of done only _ =>
      obtain rfl : s.registering name = c := congrArg Prod.snd registered
      have onward := Onward.of_onlyEntry entry (Context.page_onlyEntry entry placed done)
        (Context.page_sameNumber entry done)
      have number := onward.number.trans (Onward.of_quiet only).number
      have each := added (by omega) readable
      have registered := registered_of_register registered entry
      -- other entries keep what holds of them; the one that was asked for is up to `own`
      refine (each.page lasting registered done fun e' here' selected => ?_).quiet lasting only
      refine own (each.holds i e registered selected) selected registered done here' ?_
      have kept := only.sameEntries
      obtain ⟨e₁, he₁, -⟩ := onward.kept i e registered
      obtain rfl : e₁ = e' := Option.some.inj (he₁.2.symm.trans here')
      exact ⟨kept.registered ▸ he₁.1, kept.entries ▸ he₁.2⟩

/-! ## A server in use -/

/-- A request asks for a template, or leaves at most a record. -/
theorem Inside.respond_worked (inside : s.Inside) (leaves : s.LeavesFiles) {request : Request}
    (h : outcome (Server.respond request) s = (r, s')) :
    s' = { s with context := s'.context, asked := s'.asked } ∧
      (OnlyLog s.context s'.context ∨
        ∃ name, s.Asks request name ∧ s.Worked name s'.context r) := by
  rcases respond_cases h with ⟨rfl, -⟩ | ⟨target, asks, sent⟩
  · exact ⟨rfl, .inl (.refl _)⟩
  · cases target with
    | body name =>
        obtain ⟨-, left, quiet⟩ := sendBody_answer sent
        exact ⟨by rw [left], .inl quiet⟩
    | template asked =>
        obtain ⟨left, worked⟩ := inside.sendTemplate_worked leaves sent
        exact ⟨left, .inr ⟨_, ⟨asked, asks, rfl⟩, worked⟩⟩

/-- One thing that happens to a server in use: it answers a request, and the body script of
the template of a name can be written then; a file outside the snapshot folder is edited;
or entries are dropped. -/
inductive Use (name : String) : Server → Server → Prop
  | request (s : Server) (request : Request)
      (free : ∀ i e, (outcome (respond request) s).2.context.Registered i e →
        e.templateId = "/" ++ name → Accepts s.context e) :
      Use name s (outcome (respond request) s).2
  | edit (s : Server) {path : DiskPath} {content : Bytes} {time : Nat} {disk : Disk}
      (outlying : s.context.Outlying path)
      (written : s.context.disk.writeAt path content time = .ok disk)
      (later : ∀ names data t, s.context.disk.file path = .ok (names, data, t) → t < time) :
      Use name s (s.mapContext (·.withDisk disk))
  | drop (s : Server) (templateId? : Option String) :
      Use name s (outcome (onCache (Context.invalidate templateId?)) s).2

/-- What stays so while a server is in use. -/
structure Remains (start s : Server) : Prop where
  same : s = { start with context := s.context, asked := s.asked }
  config : s.context.config = start.context.config
  here : s.context.disk.here = start.context.disk.here
  inside : s.Inside

namespace Remains

variable {start : Server}

theorem leaves (h : Remains start s) (leaves : start.LeavesFiles) : s.LeavesFiles := by
  have provider : s.provider = start.provider := by rw [h.same]
  rw [LeavesFiles, provider]
  exact leaves

theorem sourceOf (h : Remains start s) (name : String) : s.sourceOf name = start.sourceOf name := by
  rw [h.same]
  rfl

theorem outlying (h : Remains start s) {path : DiskPath} (outlying : start.context.Outlying path) :
    s.context.Outlying path := by
  unfold Context.Outlying at outlying ⊢
  rwa [h.here, h.config]

/-- What a request does to the cache. -/
theorem onward (h : Remains start s) (leaves : start.LeavesFiles) {request : Request}
    (answered : outcome (respond request) s = (r, s')) : Onward s.context s'.context := by
  rcases (h.inside.respond_worked (h.leaves leaves) answered).2 with quiet | ⟨_, -, worked⟩
  · exact .of_quiet quiet
  · exact worked.onward

theorem request (h : Remains start s) (leaves : start.LeavesFiles) {request : Request}
    (answered : outcome (respond request) s = (r, s')) : Remains start s' := by
  have onward := h.onward leaves answered
  obtain ⟨left, -⟩ := h.inside.respond_worked (h.leaves leaves) answered
  exact ⟨by rw [left, h.same], onward.config.trans h.config, onward.here.trans h.here,
    h.inside.respond answered⟩

theorem use (h : Remains start s) (leaves : start.LeavesFiles) (use : Use name s s') :
    Remains start s' ∧ s.context.host.named ≤ s'.context.host.named := by
  cases use with
  | request request _ => exact ⟨h.request leaves rfl, (h.onward leaves rfl).number⟩
  | edit outlying written later =>
      exact ⟨⟨by rw [mapContext, h.same], h.config, (Disk.writeAt_ok written).1.here.trans h.here,
        h.inside.step (.files s _)⟩, Nat.le_refl _⟩
  | drop templateId? =>
      rcases dropped : perform (Context.invalidate templateId?) s.context with ⟨r, c⟩
      have left : (outcome (onCache (Context.invalidate templateId?)) s).2
          = { s with context := c } := by
        rw [outcome_onCache, dropped]
      rw [left]
      have files := Context.invalidate_onlyFiles (fun e he => by
        obtain ⟨⟨_, i⟩, -, here⟩ := List.mem_filterMap.mp he
        exact (h.inside.entries i e here).placed) dropped
      exact ⟨⟨by rw [h.same], files.config.trans h.config, files.disk.here.trans h.here,
        h.inside.drop dropped⟩, Nat.le_of_eq (Context.invalidate_sameNumber dropped).symm⟩

/-- So it is in every run. -/
theorem run (fresh : start.Fresh) (leaves : start.LeavesFiles)
    (run : Relation.ReflTransGen (Use name) start s) : Remains start s := by
  induction run with
  | refl => exact ⟨rfl, rfl, rfl, fresh.inside⟩
  | tail _ use ih => exact (ih.use leaves use).1

end Remains

/-! ## Templates whose scripts can be written -/

/-- The entries for the template of a name have scripts once their pages were compiled. -/
abbrev Stocked (name : String) (s : Server) : Prop :=
  Each (fun _ id => id = "/" ++ name) Supplied s.context

section

variable {start : Server} {asked : String}

/-- A new entry for the template has nothing that a script would be missing for. -/
theorem Remains.supplied_new (remains : Remains start s)
    (split : start.context.config.cacheMode = .browserCacheable)
    (outlying : start.context.Outlying (start.sourceOf name))
    (readable : s.context.disk.isFile (s.sourceOf asked) = .ok true) {number : Nat}
    (added : Context.Added (Entry.make s.context.config s.context.config.cacheMode ("/" ++ asked)
      { path := s.sourceOf asked } number) s.context (s.registering asked))
    (selected : "/" ++ asked = "/" ++ name) :
    Supplied (s.registering asked) (Entry.make s.context.config s.context.config.cacheMode
      ("/" ++ asked) { path := s.sourceOf asked } number) := by
  obtain rfl : asked = name := (String.append_right_inj _).mp selected
  have mode : s.context.config.cacheMode = .browserCacheable := by rw [remains.config, split]
  have apart : (s.registering asked).Outlying (s.sourceOf asked) := by
    unfold Context.Outlying
    rw [added.config, added.disk, remains.sourceOf]
    exact remains.outlying outlying
  have there : ∃ data, (s.registering asked).disk.read (s.sourceOf asked) = .ok data := by
    rw [added.disk]
    exact Disk.read_of_isFile readable
  rw [mode, ← added.config]
  exact Context.supplied_make apart there

theorem Remains.registering (remains : Remains start s) (stocked : s.Stocked name)
    (split : start.context.config.cacheMode = .browserCacheable)
    (outlying : start.context.Outlying (start.sourceOf name))
    (readable : s.context.disk.isFile (s.sourceOf asked) = .ok true)
    (enough : (s.registering asked).host.named < 16 ^ 32) :
    Each (fun _ id => id = "/" ++ name) Supplied (s.registering asked) :=
  stocked.register Context.lasting_supplied none enough
    fun _ added => remains.supplied_new split outlying readable added

/-- Registering a template changes nothing about what can be written. -/
theorem accepts_registering {e e' : Entry} (accepts : Accepts s.context e')
    (same : e.SameTemplate e') (asked : String) : Accepts (s.registering asked) e := by
  refine accepts.of_same same ?_
  rcases s.registering_cases asked with none | ⟨_, added⟩
  · rw [none]
  · exact added.disk

/-- A request keeps the entries for the template supplied if their scripts can be written. -/
theorem Stocked.worked (stocked : s.Stocked name) (remains : Remains start s)
    (split : start.context.config.cacheMode = .browserCacheable)
    (outlying : start.context.Outlying (start.sourceOf name)) {c' : Context}
    (worked : s.Worked asked c' r) (enough : c'.host.named < 16 ^ 32)
    (free : ∀ i e, c'.Registered i e → e.templateId = "/" ++ name → Accepts s.context e) :
    Each (fun _ id => id = "/" ++ name) Supplied c' := by
  refine worked.each Context.lasting_supplied stocked enough
    (fun readable _ added selected => remains.supplied_new split outlying readable added selected) ?_
  intro i e e' c₁ r₁ supplied selected registered done here' registered'
  have only := Context.page_onlyEntry registered.2 supplied.steady.placed done
  obtain ⟨e₁, here₁, same⟩ := only.own
  obtain rfl : e₁ = e' := Option.some.inj (here₁.symm.trans here')
  have accepts := accepts_registering
    (free i e₁ registered' (same.templateId.trans selected)) same asked
  obtain ⟨e₂, here₂, -, supplied', -⟩ := supplied.page accepts registered.2 done
  obtain rfl : e₂ = e₁ := Option.some.inj (here₂.symm.trans here')
  exact supplied'

/-- Whatever happens, the entries for the template stay supplied as long as their scripts
can be written when it is asked for. -/
theorem Stocked.use (stocked : s.Stocked name) (remains : Remains start s)
    (leaves : start.LeavesFiles) (split : start.context.config.cacheMode = .browserCacheable)
    (outlying : start.context.Outlying (start.sourceOf name)) (use : Use name s s')
    (enough : s'.context.host.named < 16 ^ 32) : s'.Stocked name := by
  cases use with
  | request request free =>
      obtain ⟨-, quiet | ⟨asked, -, worked⟩⟩ :=
        remains.inside.respond_worked (remains.leaves leaves) (rfl : outcome (respond request) s = _)
      · exact stocked.quiet Context.lasting_supplied quiet
      · exact stocked.worked remains split outlying worked enough free
  | edit apart written later => exact stocked.edited apart written later
  | drop templateId? => exact stocked.dropped rfl

theorem Fresh.stocked_run (fresh : start.Fresh) (leaves : start.LeavesFiles)
    (split : start.context.config.cacheMode = .browserCacheable)
    (outlying : start.context.Outlying (start.sourceOf name))
    (run : Relation.ReflTransGen (Use name) start s) (enough : s.context.host.named < 16 ^ 32) :
    s.Stocked name := by
  induction run with
  | refl => exact .of_empty fresh.registered
  | tail run use ih =>
      have remains := Remains.run fresh leaves run
      have number := (remains.use leaves use).2
      exact (ih (by omega)).use remains leaves split outlying use enough

/-! ## A page that was sent -/

/-- Entry number `i` is registered for the template of a name, and its source is compiled
to a page whose script is there. -/
structure Offers (start s : Server) (name : String) (i : Nat) (p : Compile.Compilation) :
    Prop where
  remains : Remains start s
  each : Each (fun j _ => j = i) (fun c e => Steady c e ∧ Served c e p) s.context
  entry : ∃ e, s.context.Registered i e ∧ start.IsEntryOf name e ∧ ∃ path, e.body = some path

/-- A template whose page was sent has its script in place. -/
theorem Stocked.sent (stocked : s.Stocked name) (remains : Remains start s)
    (leaves : start.LeavesFiles) (split : start.context.config.cacheMode = .browserCacheable)
    (outlying : start.context.Outlying (start.sourceOf name)) {s₁ : Server} {request : Request}
    {response : Response} (get : request.method = "GET") (asks : s.Asks request name)
    (answered : outcome (respond request) s = (.ok response, s₁)) (ok : response.status = 200)
    (free : ∀ i e, s₁.context.Registered i e → e.templateId = "/" ++ name → Accepts s.context e)
    (enough : s₁.context.host.named < 16 ^ 32) :
    ∃ i p, Offers start s₁ name i p ∧ SentAs p.artifact response.body := by
  obtain ⟨asked, target, rfl⟩ := asks
  have remains₁ := remains.request leaves answered
  rcases respond_cases answered with ⟨-, other⟩ | ⟨target', asks', sent⟩
  · exact absurd get (other _ target).1
  cases target.symm.trans asks'
  obtain ⟨left, worked⟩ := remains.inside.sendTemplate_worked (remains.leaves leaves) sent
  have stocked₁ := stocked.worked remains split outlying worked enough free
  -- only a page that was found and compiled is answered with 200
  cases worked with
  | quiet _ refused => exact absurd ok (refused response rfl)
  | registered _ _ _ refused => exact absurd ok (refused response rfl)
  | @page i c c₁ e r₁ readable registered entry placed of done only answer =>
      obtain ⟨a, _, rfl, same, given⟩ := answer.resolve_left fun refused =>
        refused response rfl ok
      cases same
      obtain rfl : s.registering (templateName asked) = c := congrArg Prod.snd registered
      have registered := registered_of_register registered entry
      have work := Context.page_onlyEntry entry placed done
      have onward := (Onward.of_onlyEntry entry work (Context.page_sameNumber entry done)).trans
        (.of_quiet only)
      -- first the entry is looked up or made, then its page is asked for
      have stocked' := remains.registering stocked split outlying readable
        (Nat.lt_of_le_of_lt onward.number enough)
      have supplied := stocked'.holds i e registered of.1
      obtain ⟨e₁, here₁, like⟩ := work.own
      obtain ⟨e₂, registered₂, like₂⟩ := onward.kept i e registered
      have kept := only.sameEntries
      obtain rfl : e₁ = e₂ :=
        Option.some.inj ((kept.entries ▸ here₁ : s₁.context.entries[i]? = some e₁).symm.trans
          registered₂.2)
      have accepts := accepts_registering
        (free i e₁ registered₂ (like.templateId.trans of.1)) like (templateName asked)
      obtain ⟨e', here', -, supplied', gives⟩ := supplied.page accepts entry done
      obtain rfl : e' = e₁ := Option.some.inj (here'.symm.trans here₁)
      obtain ⟨p, served, rfl⟩ := gives a rfl
      refine ⟨i, p, ⟨remains₁, ⟨stocked₁.orderly, stocked₁.numbered, ?_⟩, e', registered₂, ?_,
        supplied'.stored⟩, given⟩
      · rintro _ e₂ hr rfl
        obtain rfl : e' = e₂ := Option.some.inj (registered₂.2.symm.trans hr.2)
        exact (Context.lasting_served p).same ⟨supplied'.steady, served⟩ here' hr.2 kept.config
          kept.memory only.disk
      · exact ⟨like.templateId.trans of.1, like.source.trans (remains.sourceOf _ ▸ of.2)⟩

/-- Requests take no script away from a page that was sent. -/
theorem Offers.request {i : Nat} {p : Compile.Compilation} (offers : Offers start s name i p)
    (leaves : start.LeavesFiles) (request : Request)
    (enough : (outcome (respond request) s).2.context.host.named < 16 ^ 32) :
    Offers start (outcome (respond request) s).2 name i p := by
  obtain ⟨e, registered, of, path, body⟩ := offers.entry
  have remains := offers.remains
  obtain ⟨e', registered', same⟩ :=
    (remains.onward leaves (rfl : outcome (respond request) s = _)).kept i e registered
  refine ⟨remains.request leaves rfl, ?_, e', registered',
    ⟨same.templateId.trans of.1, same.source.trans of.2⟩, path, same.body.trans body⟩
  obtain ⟨-, quiet | ⟨asked, -, worked⟩⟩ :=
    remains.inside.respond_worked (remains.leaves leaves) (rfl : outcome (respond request) s = _)
  · exact offers.each.quiet (Context.lasting_served p) quiet
  · refine worked.each (Context.lasting_served p) offers.each enough ?_ ?_
    · rintro - number added rfl
      -- a new entry has a number of its own
      have old := registered.2
      rw [Array.getElem?_eq_none (Nat.le_refl _)] at old
      cases old
    · rintro _ e₁ e₂ c₁ r₁ served rfl registered₁ done here₂ -
      obtain ⟨e₃, here₃, -, steady, served⟩ := served.2.page served.1 registered₁.2 done
      obtain rfl : e₃ = e₂ := Option.some.inj (here₃.symm.trans here₂)
      exact ⟨steady, served⟩

theorem Remains.number_le (remains : Remains start s) (leaves : start.LeavesFiles)
    (requests : List Request) :
    s.context.host.named ≤ (s.answerAll requests).context.host.named := by
  induction requests generalizing s with
  | nil => exact Nat.le_refl _
  | cons request requests ih =>
      exact (remains.onward leaves rfl).number.trans (ih (remains.request leaves rfl))

theorem Offers.answerAll {i : Nat} {p : Compile.Compilation} (offers : Offers start s name i p)
    (leaves : start.LeavesFiles) (requests : List Request)
    (enough : (s.answerAll requests).context.host.named < 16 ^ 32) :
    Offers start (s.answerAll requests) name i p := by
  induction requests generalizing s with
  | nil => exact offers
  | cons request requests ih =>
      have remains := offers.remains.request leaves (rfl : outcome (respond request) s = _)
      have number := remains.number_le leaves requests
      exact ih (offers.request leaves request (Nat.lt_of_le_of_lt number enough)) enough

/-! ## Fetching a script -/

/-- A character that is asked for as it stands in an address, and that is read as it was
printed whatever the charset. -/
def isAddressChar (c : Char) : Bool :=
  c != '?' && c != '#' && c != '%' && c != '\n'
    && [Family.latin1, .utf, .ascii, .raw].all (Markup.isReadBack · c)

theorem isAddressChar_iff {c : Char} : isAddressChar c ↔
    (c ≠ '?' ∧ c ≠ '#' ∧ c ≠ '%') ∧ c ≠ '\n' ∧ ∀ family, Markup.isReadBack family c := by
  simp only [isAddressChar, Bool.and_eq_true, bne_iff_ne, List.all_cons, List.all_nil, and_true]
  constructor
  · rintro ⟨⟨⟨⟨mark, sign⟩, percent⟩, line⟩, latin1, utf, ascii, raw⟩
    refine ⟨⟨mark, sign, percent⟩, line, fun family => ?_⟩
    cases family with
    | latin1 => exact latin1
    | utf => exact utf
    | ascii => exact ascii
    | raw => exact raw
  · rintro ⟨⟨mark, sign, percent⟩, line, back⟩
    exact ⟨⟨⟨⟨mark, sign⟩, percent⟩, line⟩, back _, back _, back _, back _⟩

/-- The body script of the template of a name has an address of plain characters, below a
root that is no pattern, and the way to the snapshot folder can be asked for. -/
structure Addressed (s : Server) (name : String) : Prop where
  routes : Routes.below s.context.config.bodyUrlRoot = .ok s.routes
  noBrace : '\x7b' ∉ s.context.config.bodyUrlRoot.toList
  root : s.context.config.bodyUrlRoot.toList.all isAddressChar
  name : name.toList.all isAddressChar
  noNul : s.bodies.hasNul = false
  short : s.bodies.text.utf8ByteSize + 256 ≤ Disk.maxPath

theorem isAddressChar_digit : ∀ d < 16, isAddressChar (Nat.digitChar d) := by decide

theorem isAddressChar_snapshot {name : String} (plain : name.toList.all isAddressChar)
    (number : Nat) : (Names.snapshot ("/" ++ name) number).toList.all isAddressChar := by
  rw [List.all_eq_true] at plain ⊢
  intro c hc
  rcases Context.mem_snapshot hc with rfl | ⟨own, other⟩ | ⟨d, small, rfl⟩
  · decide
  · rw [String.toList_append, List.mem_append] at own
    exact plain c (own.resolve_left fun slash => other (List.mem_singleton.mp slash))
  · exact isAddressChar_digit d small

/-- The page of a split template loads a script from the address of the entry. -/
theorem loads_of_compile {config : Config} {e : Entry} {data : Bytes} {p : Compile.Compilation}
    (mode : e.mode = .browserCacheable) (h : (e.compile config data).value = .ok p)
    (plain : (e.bodyUrl config).toList.all isAddressChar) :
    ∃ text, Charset.encode (Markup.outputCharset (some p.charset)) text = .ok p.artifact.content ∧
      Compile.Loads text (e.bodyUrl config) := by
  unfold Entry.compile at h
  simp only [bind, mode] at h
  split at h
  · cases h
  · obtain ⟨family, text, -, written, loads⟩ :=
      Compile.compileAs_loads (s := e.settings config) (by simp [Entry.settings, mode]) h
    rw [List.all_eq_true] at plain
    refine ⟨text, written, loads (fun line => absurd (plain _ line) (by decide)) ?_⟩
    rw [List.all_eq_true]
    exact fun c hc => (isAddressChar_iff.mp (plain c hc)).2.2 family

/-- A page that was sent loads a script from an address, and who asks there is sent the
script of that page. -/
structure Fetches (s : Server) (p : Compile.Compilation) (e : Entry) : Prop where
  compiles : ∃ time, Cache.Context.Compiles s.context e time p
  loads : ∃ text, Charset.encode (Markup.outputCharset (some p.charset)) text
    = .ok p.artifact.content ∧ Compile.Loads text (e.bodyUrl s.context.config)
  answer : ∃ script s', p.bodyScript.map (·.2) = some script ∧
    outcome (respond { path := askedPath (e.bodyUrl s.context.config) }) s
      = (.ok { contentType := some "application/x-javascript", body := script, dated := true }, s')

theorem Offers.fetches {i : Nat} {p : Compile.Compilation} (offers : Offers start s name i p)
    (addressed : start.Addressed name) :
    ∃ e, s.context.Registered i e ∧ start.IsEntryOf name e ∧ s.Fetches p e := by
  obtain ⟨e, registered, of, path, body⟩ := offers.entry
  obtain ⟨steady, served⟩ := offers.each.holds i e registered rfl
  have remains := offers.remains
  have config := remains.config
  obtain rfl := steady.placed.body path body
  -- the address of the script
  have filed : e.files ≠ [] := List.ne_nil_of_mem
    (show _ ∈ e.files from List.mem_append_right _ (Option.mem_toList.mpr body))
  obtain ⟨number, -, base⟩ := (offers.each.numbered i e registered).resolve_left
    (offers.each.orderly.named i e registered filed)
  have url : e.bodyUrl s.context.config
      = start.context.config.bodyUrlRoot ++ (e.baseName ++ ".js") := by
    unfold Entry.bodyUrl
    rw [steady.mode, config]
    exact String.append_assoc
  have script : (e.baseName ++ ".js").toList.all isAddressChar := by
    rw [String.toList_append, List.all_append, Bool.and_eq_true, base, of.1]
    exact ⟨isAddressChar_snapshot addressed.name number, by decide⟩
  have plain : (e.bodyUrl s.context.config).toList.all isAddressChar := by
    rw [url, String.toList_append, List.all_append, Bool.and_eq_true]
    exact ⟨addressed.root, script⟩
  have asked : askedPath (e.bodyUrl s.context.config) = e.bodyUrl s.context.config :=
    askedPath_of_plain fun c hc => (isAddressChar_iff.mp (List.all_eq_true.mp plain c hc)).1
  -- the script is there, and is what stands behind the address
  obtain ⟨names, content, time, file, made⟩ := served.file body
  obtain ⟨time', compiles⟩ := served.compiles
  obtain ⟨_, data, -, compiled⟩ := id compiles
  have target : s.routes.target? (e.bodyUrl s.context.config)
      = .ok (some (.body (e.baseName ++ ".js"))) := by
    have routes : s.routes = start.routes := by rw [remains.same]
    rw [url, routes]
    exact target?_body addressed.noBrace addressed.routes fun line =>
      absurd (List.all_eq_true.mp script _ line) (by decide)
  have bodies : s.bodies = start.bodies := by rw [Server.bodies, remains.here, config]; rfl
  refine ⟨e, registered, of, ⟨time', compiles⟩, loads_of_compile steady.mode compiled plain,
    content, (outcome (sendBody "GET" (e.baseName ++ ".js")) s).2, made, ?_⟩
  have answer := sendBody_of_file (s := s) (Cache.bodyName_plain steady.placed.noSlash) file
    (bodies ▸ addressed.noNul) (bodies ▸ addressed.short) rfl
  rw [asked, respond, outcome_bind, outcome_get]
  dsimp only
  rw [outcome_orFail_bind, target]
  exact Prod.ext answer rfl

/-- A page whose body is split off can fetch it: after any run of the server in which the
body script can be written whenever the page is asked for, a page that is sent loads the
script of its body from an address, and whoever asks for this address is sent the script
of that very page, whatever is asked for in between. -/
theorem page_fetches {request : Request} {response : Response} {s₁ : Server}
    (requests : List Request) (fresh : start.Fresh) (leaves : start.LeavesFiles)
    (split : start.context.config.cacheMode = .browserCacheable)
    (outlying : start.context.Outlying (start.sourceOf name)) (addressed : start.Addressed name)
    (run : Relation.ReflTransGen (Use name) start s) (get : request.method = "GET")
    (asks : s.Asks request name) (answered : outcome (respond request) s = (.ok response, s₁))
    (ok : response.status = 200)
    (free : ∀ i e, s₁.context.Registered i e → e.templateId = "/" ++ name → Accepts s.context e)
    (enough : (s₁.answerAll requests).context.host.named < 16 ^ 32) :
    ∃ i e p, (s₁.answerAll requests).context.Registered i e ∧ start.IsEntryOf name e ∧
      SentAs p.artifact response.body ∧ (s₁.answerAll requests).Fetches p e := by
  have remains := Remains.run fresh leaves run
  have number := (remains.request leaves answered).number_le leaves requests
  have before := (remains.onward leaves answered).number
  have stocked := fresh.stocked_run leaves split outlying run (by omega)
  obtain ⟨i, p, offers, sent⟩ :=
    stocked.sent remains leaves split outlying get asks answered ok free (by omega)
  obtain ⟨e, registered, of, fetches⟩ := (offers.answerAll leaves requests enough).fetches addressed
  exact ⟨i, e, p, registered, of, sent, fetches⟩

end

end

/-- A server for a folder with one template, whose body is split off. -/
def splitServer (file : String) : Server where
  templates := { root := "/", names := ["t"] }
  routes :=
    { body := "/b/".toList.map .char ++ [.parameter "body_id" .path]
      template := [.char '/', .parameter "template_id" .path] }
  context :=
    { host :=
        { disk :=
            { items := [(["t"], .folder),
                (["t", file], .file (Bytes.ofAscii "<body></body>") 1)] } }
      config :=
        { browserCacheable := true, bodyUrlRoot := "/b/"
          snapshotFolder := { root := "/", names := ["s"] } }
      memory := { capacity := some 1 } }

/-- How a server answers to who asks for a page and then for the address of its script: the
statuses of the two answers, and whether the script could be written. -/
def statuses? (s : Server) (path : String) : Option (Nat × Nat × Bool) :=
  match outcome (respond { path }) s with
  | (.ok page, s₁) => do
      let e ← s₁.context.entries[0]?
      let free := s₁.context.entries.toList.all fun e =>
        e.body.all fun path => decide ((Cache.writeSnapshot path [] s.context.disk).1 = none)
      match (outcome (respond { path := askedPath (e.bodyUrl s₁.context.config) }) s₁).1 with
      | .ok answer =>
          return (page.status, answer.status, free && decide (s₁.context.host.named < 16 ^ 32))
      | .error _ => none
  | _ => none

/-- The page of the first entry was sent, its script could be written, and this is how the
server answers at its address. -/
structure AsksTwice (s : Server) (path : String) (page : Response) (s₁ : Server) (status : Nat) :
    Prop where
  answered : outcome (respond { path }) s = (.ok page, s₁)
  ok : page.status = 200
  free : ∀ e ∈ s₁.context.entries.toList, Accepts s.context e
  enough : s₁.context.host.named < 16 ^ 32
  again : ∃ e answer s₂, s₁.context.entries[0]? = some e ∧
    outcome (respond { path := askedPath (e.bodyUrl s₁.context.config) }) s₁ = (.ok answer, s₂) ∧
      answer.status = status

theorem asksTwice_of_statuses? {s : Server} {path : String} {status : Nat}
    (h : s.statuses? path = some (200, status, true)) :
    ∃ page s₁, s.AsksTwice path page s₁ status := by
  unfold statuses? at h
  split at h
  · rename_i page s₁ answered
    refine ⟨page, s₁, ?_⟩
    cases entry : s₁.context.entries[0]? with
    | none =>
        rw [entry] at h
        cases h
    | some e =>
        rw [entry] at h
        dsimp only [bind, Option.bind] at h
        split at h
        · rename_i answer again
          simp only [pure, Option.some.injEq, Prod.mk.injEq, Bool.and_eq_true,
            decide_eq_true_eq] at h
          obtain ⟨ok, rfl, free, enough⟩ := h
          refine ⟨answered, ok, fun e he path body => ?_, enough, e, answer, _, entry,
            Prod.ext again rfl, rfl⟩
          have own := List.all_eq_true.mp free e he
          rw [body] at own
          exact of_decide_eq_true own
        · cases h
  · cases h

theorem fresh_splitServer (file : String) : (splitServer file).Fresh :=
  ⟨⟨rfl, by simp [splitServer]⟩, rfl, rfl⟩

theorem addressed_splitServer : (splitServer "page.html").Addressed "page" where
  routes := by rfl
  noBrace := by decide
  root := by decide
  name := by decide
  noNul := by decide
  short := by decide

theorem page_fetches_splitServer :
    (splitServer "page.html").Fresh ∧ (splitServer "page.html").LeavesFiles ∧
      (splitServer "page.html").Addressed "page" ∧ ∃ page s₁ e p,
        (splitServer "page.html").AsksTwice "/page" page s₁ 200 ∧ s₁.Fetches p e ∧
        SentAs p.artifact page.body := by
  have fresh := fresh_splitServer "page.html"
  have addressed := addressed_splitServer
  have leaves : (splitServer "page.html").LeavesFiles := fun _ => nofun
  have outlying : (splitServer "page.html").context.Outlying
      ((splitServer "page.html").sourceOf "page") := by
    unfold Context.Outlying
    decide +kernel
  have statuses : (splitServer "page.html").statuses? "/page" = some (200, 200, true) := by
    decide +kernel
  obtain ⟨page, s₁, asks⟩ := asksTwice_of_statuses? statuses
  obtain ⟨_, e, p, -, -, sent, fetches⟩ := page_fetches [] fresh leaves rfl outlying
    addressed .refl rfl ⟨"page", by rfl, by decide⟩ asks.answered asks.ok
    (fun _ e registered _ => asks.free e (Array.mem_of_getElem? registered.2).val)
    asks.enough
  exact ⟨fresh, leaves, addressed, page, s₁, e, p, asks, fetches, sent⟩

/-- A question mark in the name of a template cuts its address off: its page is sent, but
not the script that the page loads. -/
theorem script_of_question_not_sent : ∃ page s₁,
    (splitServer "a?b.html").AsksTwice "/a?b" page s₁ 404 :=
  asksTwice_of_statuses? (by decide +kernel)

end PageTemplates.Serve.Server
