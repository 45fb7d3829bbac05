import Mathlib.Data.List.Induction
import PageTemplates.Proofs.Cache.Transparency

/-!
# Requests for entries

An entry is registered under a name that spells its mode, its store and its template, one
behind the other. The main facts:

* `Indexed`: the invariant of the names;
* `registered_after_iff`: an entry stays registered until a call drops its template;
* `got_after_iff`: a later request gets the same entry exactly if it has the same name
  and nothing has dropped the entry;
* `neverMixed_iff`: no entry is taken for another exactly if requests for different
  entries have different names, which holds if no name of a store has an underscore;
* `stores_mixed`: otherwise a template of one store can be taken for one of another.
-/

namespace PageTemplates.Cache

/-- A request for the entry of a template. -/
structure Request where
  templateId : String
  source : Source
  mode? : Option CacheMode := none
deriving Repr, DecidableEq

/-- The mode, the store and the template that are asked for. -/
def Request.key (config : Config) (r : Request) : EntryKey :=
  ⟨r.mode?.getD config.cacheMode, r.source.store, r.templateId⟩

/-- A call that registers an entry or drops some. -/
inductive Call where
  | request (r : Request)
  | invalidate (templateId? : Option String)
deriving Repr, DecidableEq

/-- A call drops the entries of a template. -/
def Call.drops (templateId : String) : Call → Bool
  | .request _ => false
  | .invalidate templateId? => templateId?.all (templateId == ·)

namespace Context

/-- The number of the entry that a request gets. -/
def got (c : Context) (r : Request) : Nat := (c.register r.templateId r.source r.mode?).1

/-- The cache after a call; one that drops entries may fail on their files. -/
def next (c : Context) : Call → Context
  | .request r => (c.register r.templateId r.source r.mode?).2
  | .invalidate templateId? => (perform (invalidate templateId?) c).2

def after (c : Context) (calls : List Call) : Context := calls.foldl next c

/-- Each request gets an entry of the mode, the store and the template that it asks for,
and two get the same one if they agree in these and no call in between drops it. -/
structure NeverMixed (c : Context) (calls : List Call) : Prop where
  requested : ∀ before r behind, calls = before ++ .request r :: behind →
    ∃ e, (c.after (before ++ [.request r])).entryAt? ((c.after before).got r) = some e ∧
      e.key = r.key c.config
  same_iff : ∀ before r between r' behind,
    calls = before ++ .request r :: (between ++ .request r' :: behind) →
    ((c.after before).got r = (c.after (before ++ .request r :: between)).got r' ↔
      r.key c.config = r'.key c.config ∧ ∀ call ∈ between, call.drops r.templateId = false)

/-- Requests of one name are for one entry, unless the earlier entry is dropped in between. -/
def NamesApart (c : Context) (calls : List Call) : Prop :=
  ∀ before r between r' behind,
    calls = before ++ .request r :: (between ++ .request r' :: behind) →
    (∀ call ∈ between, call.drops r.templateId = false) →
    (r.key c.config).name = (r'.key c.config).name → r.key c.config = r'.key c.config

/-- Entries are registered under the names of their keys, and one under each. -/
structure Indexed (c : Context) : Prop where
  known : c.NamesKnown
  once : (c.registered.map (·.1)).Nodup

section

variable {c : Context}

/-! ## Names -/

theorem toList_name (k : EntryKey) : k.name.toList =
    k.mode.letter.toList ++ '_' :: (k.store.toList ++ '_' :: k.templateId.toList) := by
  simp [EntryKey.name]

/-- What stands in front of the first underscore, and behind it, can be read off. -/
theorem eq_of_append_underscore {cs cs' ds ds' : List Char} (plain : '_' ∉ cs) (plain' : '_' ∉ cs')
    (same : cs ++ '_' :: ds = cs' ++ '_' :: ds') : cs = cs' ∧ ds = ds' := by
  have front {cs ds : List Char} (plain : '_' ∉ cs) :
      (cs ++ '_' :: ds).takeWhile (· != '_') = cs := by
    rw [List.takeWhile_append_of_pos, List.takeWhile_cons_of_neg (by decide), List.append_nil]
    intro ch mem
    exact bne_iff_ne.mpr fun eq => plain (eq ▸ mem)
  obtain rfl : cs = cs' := by rw [← @front cs ds plain, same, front plain']
  exact ⟨rfl, (List.cons.inj (List.append_cancel_left same)).2⟩

theorem letter_injective {mode mode' : CacheMode}
    (same : mode.letter.toList = mode'.letter.toList) : mode = mode' := by
  revert same
  cases mode <;> cases mode' <;> decide

/-- Two keys of one name are the same, if their stores have no underscore. -/
theorem key_eq_of_name {k k' : EntryKey} (plain : '_' ∉ k.store.toList)
    (plain' : '_' ∉ k'.store.toList) (same : k.name = k'.name) : k = k' := by
  have text := congrArg String.toList same
  rw [toList_name, toList_name] at text
  have length : k.mode.letter.toList.length = k'.mode.letter.toList.length := by
    cases k.mode <;> cases k'.mode <;> rfl
  obtain ⟨letters, rest⟩ := List.append_inj text length
  obtain ⟨stores, ids⟩ := eq_of_append_underscore plain plain' (List.cons.inj rest).2
  cases k
  cases k'
  rw [EntryKey.mk.injEq]
  exact ⟨letter_injective letters, String.toList_inj.mp stores, String.toList_inj.mp ids⟩

/-! ## A call -/

/-- A request gets the entry that is registered under its name, or a new one. -/
theorem request_cases (c : Context) (r : Request) :
    (((r.key c.config).name, c.got r) ∈ c.registered ∧ c.next (.request r) = c) ∨
      c.got r = c.entries.size ∧
        ∃ e, e.key = r.key c.config ∧ Added e c (c.next (.request r)) := by
  rcases c.register_index r.templateId r.source r.mode? with
    ⟨i, registered, same⟩ | ⟨new, number, added⟩
  · refine .inl ⟨?_, congrArg (·.2) same⟩
    rw [got, same]
    exact registered
  · exact .inr ⟨new, _, make_key _ _ _ _ _, added⟩

theorem invalidate_sameEntries {templateId? : Option String} :
    SameEntries (c.unregister templateId?) (c.next (.invalidate templateId?)) :=
  invalidate_leaves (fun _ => ⟨rfl, rfl, rfl, rfl⟩) .trans (fun _ _ => ⟨rfl, rfl, rfl, rfl⟩)
    (fun _ _ _ => ⟨rfl, rfl, rfl, rfl⟩) c templateId?

theorem config_next (c : Context) (call : Call) : (c.next call).config = c.config := by
  cases call with
  | request r =>
      rcases c.request_cases r with ⟨-, same⟩ | ⟨-, e, -, added⟩
      · rw [same]
      · exact added.config
  | invalidate templateId? => exact invalidate_sameEntries.config

theorem entries_next {i : Nat} {e : Entry} (here : c.entries[i]? = some e) (call : Call) :
    (c.next call).entries[i]? = some e := by
  cases call with
  | request r =>
      rcases c.request_cases r with ⟨-, same⟩ | ⟨-, e', -, added⟩
      · rwa [same]
      · exact added.old here
  | invalidate templateId? =>
      rw [invalidate_sameEntries.entries]
      exact here

theorem Indexed.next (h : c.Indexed) (call : Call) : (c.next call).Indexed := by
  cases call with
  | request r =>
      rcases c.request_cases r with ⟨-, same⟩ | ⟨-, e, -, added⟩
      · rwa [same]
      · exact ⟨added.known h.known, added.once h.once⟩
  | invalidate templateId? =>
      have fewer : (c.next (.invalidate templateId?)).registered.Sublist c.registered := by
        rw [invalidate_sameEntries.registered]
        exact List.filter_sublist
      refine ⟨fun name i hn => ?_, h.once.sublist (fewer.map _)⟩
      obtain ⟨e, here, same⟩ := h.known name i (fewer.subset hn)
      exact ⟨e, entries_next here _, same⟩

theorem Indexed.number_unique (h : c.Indexed) {name : String} {i j : Nat}
    (hi : (name, i) ∈ c.registered) (hj : (name, j) ∈ c.registered) : i = j := by
  have same := List.inj_on_of_nodup_map h.once hi hj rfl
  cases same
  rfl

theorem Indexed.name_unique (h : c.Indexed) {name name' : String} {i : Nat}
    (hi : (name, i) ∈ c.registered) (hi' : (name', i) ∈ c.registered) : name = name' := by
  obtain ⟨e, here, rfl⟩ := h.known name i hi
  obtain ⟨e', here', rfl⟩ := h.known name' i hi'
  rw [Option.some.inj (here.symm.trans here')]

/-- An entry stays registered until its template is dropped. -/
theorem registered_next_iff {name : String} {i : Nat} {e : Entry}
    (here : c.entries[i]? = some e) (call : Call) :
    (name, i) ∈ (c.next call).registered ↔
      (name, i) ∈ c.registered ∧ call.drops e.templateId = false := by
  cases call with
  | request r =>
      rcases c.request_cases r with ⟨-, same⟩ | ⟨-, e', -, added⟩
      · rw [same, Call.drops, and_iff_left rfl]
      · have old : i ≠ c.entries.size := by
          obtain ⟨below, -⟩ := Array.getElem?_eq_some_iff.mp here
          exact Nat.ne_of_lt below
        rw [added.registered, List.mem_append, List.mem_singleton, Prod.mk.injEq,
          or_iff_left fun new => old new.2, Call.drops, and_iff_left rfl]
  | invalidate templateId? =>
      have drops : c.isDropped templateId? (name, i) =
          (Call.invalidate templateId?).drops e.templateId := by
        rw [isDropped, entryAt?, here]
        rfl
      rw [invalidate_sameEntries.registered, unregister, List.mem_filter, drops,
        Bool.not_eq_true']

theorem got_mem (c : Context) (r : Request) :
    ((r.key c.config).name, c.got r) ∈ (c.next (.request r)).registered := by
  rcases c.request_cases r with ⟨known, same⟩ | ⟨new, e, key, added⟩
  · rwa [same]
  · rw [added.registered, key, new]
    exact List.mem_append_right _ (List.mem_singleton_self _)

/-- A request gets an entry that is there exactly if the entry is registered under its name. -/
theorem Indexed.got_eq_iff (h : c.Indexed) {i : Nat} {e : Entry} (here : c.entries[i]? = some e)
    (r : Request) : c.got r = i ↔ ((r.key c.config).name, i) ∈ c.registered := by
  have kept : ((r.key c.config).name, i) ∈ (c.next (.request r)).registered ↔
      ((r.key c.config).name, i) ∈ c.registered :=
    (registered_next_iff here (.request r)).trans (and_iff_left rfl)
  rw [← kept]
  constructor
  · rintro rfl
    exact c.got_mem r
  · exact (h.next _).number_unique (c.got_mem r)

/-! ## Calls in sequence -/

theorem after_concat (c : Context) (calls : List Call) (call : Call) :
    c.after (calls ++ [call]) = (c.after calls).next call := by
  rw [after, List.foldl_append]
  rfl

theorem after_append_cons (c : Context) (before : List Call) (call : Call) (behind : List Call) :
    c.after (before ++ call :: behind) = ((c.after before).next call).after behind := by
  rw [after, List.foldl_append, List.foldl_cons]
  rfl

/-- What holds at first and is kept by every call holds after any calls. -/
theorem after_induction {P : Context → Prop} (start : P c) (step : ∀ c call, P c → P (c.next call))
    (calls : List Call) : P (c.after calls) := by
  induction calls using List.reverseRecOn with
  | nil => exact start
  | append_singleton calls call ih =>
      rw [after_concat]
      exact step _ call ih

theorem config_after (c : Context) (calls : List Call) : (c.after calls).config = c.config :=
  after_induction (P := fun c' => c'.config = c.config) rfl
    (fun c' call same => (c'.config_next call).trans same) calls

theorem entries_after {i : Nat} {e : Entry} (here : c.entries[i]? = some e) (calls : List Call) :
    (c.after calls).entries[i]? = some e :=
  after_induction (P := fun c' => c'.entries[i]? = some e) here
    (fun _ call here => entries_next here call) calls

theorem Indexed.after (h : c.Indexed) (calls : List Call) : (c.after calls).Indexed :=
  after_induction h (fun _ call h => h.next call) calls

theorem indexed_of_empty (empty : c.registered = []) : c.Indexed := by
  refine ⟨fun name i hn => ?_, ?_⟩
  · rw [empty] at hn
    cases hn
  · rw [empty]
    exact List.nodup_nil

theorem registered_after_iff {name : String} {i : Nat} {e : Entry}
    (here : c.entries[i]? = some e) (calls : List Call) :
    (name, i) ∈ (c.after calls).registered ↔
      (name, i) ∈ c.registered ∧ ∀ call ∈ calls, call.drops e.templateId = false := by
  induction calls using List.reverseRecOn with
  | nil => exact (and_iff_left fun call => nofun).symm
  | append_singleton calls call ih =>
      rw [after_concat, registered_next_iff (entries_after here calls), ih, and_assoc,
        List.forall_mem_append, List.forall_mem_singleton]

/-- Two requests get the same entry exactly if they have the same name and no call in between
drops the template of the entry. -/
theorem Indexed.got_after_iff (h : c.Indexed) (r r' : Request) (between : List Call) {e : Entry}
    (here : (c.next (.request r)).entries[c.got r]? = some e) :
    c.got r = ((c.next (.request r)).after between).got r' ↔
      (r.key c.config).name = (r'.key c.config).name ∧
        ∀ call ∈ between, call.drops e.templateId = false := by
  have first := h.next (.request r)
  have later := (first.after between).got_eq_iff (entries_after here between) r'
  rw [eq_comm, later, registered_after_iff here, config_after, config_next]
  refine and_congr_left fun _ => ⟨fun named => ?_, fun same => ?_⟩
  · exact first.name_unique (c.got_mem r) named
  · rw [← same]
    exact c.got_mem r

/-- Who is registered was made for a request. -/
theorem made_for_request (empty : c.registered = []) (calls : List Call) {name : String} {i : Nat}
    (registered : (name, i) ∈ (c.after calls).registered) :
    ∃ before r behind e, calls = before ++ .request r :: behind ∧ (c.after before).got r = i ∧
      (c.after (before ++ [.request r])).entries[i]? = some e ∧ e.key = r.key c.config := by
  induction calls using List.reverseRecOn with
  | nil =>
      rw [after, List.foldl_nil, empty] at registered
      cases registered
  | append_singleton calls call ih =>
      -- what was registered before the last call was made for a request before it
      have earlier (still : (name, i) ∈ (c.after calls).registered) :
          ∃ before r behind e, calls ++ [call] = before ++ .request r :: behind ∧
            (c.after before).got r = i ∧
            (c.after (before ++ [.request r])).entries[i]? = some e ∧ e.key = r.key c.config := by
        obtain ⟨before, r, behind, e, rfl, got, here, key⟩ := ih still
        refine ⟨before, r, behind ++ [call], e, ?_, got, here, key⟩
        rw [List.append_assoc, List.cons_append]
      rw [after_concat] at registered
      cases call with
      | request r =>
          rcases (c.after calls).request_cases r with ⟨-, same⟩ | ⟨new, e, key, added⟩
          · rw [same] at registered
            exact earlier registered
          · rw [added.registered, List.mem_append, List.mem_singleton, Prod.mk.injEq] at registered
            rcases registered with still | ⟨-, rfl⟩
            · exact earlier still
            · refine ⟨calls, r, [], e, rfl, new, ?_, ?_⟩
              · rw [after_concat]
                exact added.new
              · rw [key, config_after]
      | invalidate templateId? =>
          rw [invalidate_sameEntries.registered, unregister, List.mem_filter] at registered
          exact earlier registered.1

/-! ## Entries that are taken for others -/

/-- The entry that a request gets is the one that it asks for, if names are apart. -/
theorem requested_of_namesApart (empty : c.registered = []) {calls : List Call}
    (apart : c.NamesApart calls) {before : List Call} {r : Request} {behind : List Call}
    (shape : calls = before ++ .request r :: behind) :
    ∃ e, (c.after (before ++ [.request r])).entries[(c.after before).got r]? = some e ∧
      e.key = r.key c.config := by
  rw [after_concat]
  rcases (c.after before).request_cases r with ⟨known, same⟩ | ⟨new, e, key, added⟩
  · obtain ⟨first, r₀, between, e, rfl, got, here, key⟩ := made_for_request empty before known
    -- the entry was made for the request `r₀`, and has not been dropped since
    rw [after_concat] at here
    have indexed := (indexed_of_empty empty).after first
    have again := (indexed.got_after_iff r₀ r between (got ▸ here)).mp
      (by rw [got, ← after_append_cons])
    rw [config_after] at again
    have id : e.templateId = r₀.templateId := congrArg EntryKey.templateId key
    refine ⟨e, ?_, key.trans (apart first r₀ between r behind ?_ (id ▸ again.2) again.1)⟩
    · rw [same]
      rw [after_append_cons] at here ⊢
      exact entries_after here between
    · rw [shape, List.append_assoc, List.cons_append]
  · refine ⟨e, ?_, ?_⟩
    · rw [new]
      exact added.new
    · rw [key, config_after]

/-- What a later request gets, if entries so far are those that were asked for. -/
theorem same_iff_of_requested (empty : c.registered = []) {before between : List Call}
    {r r' : Request} {e : Entry}
    (here : (c.after (before ++ [.request r])).entries[(c.after before).got r]? = some e)
    (key : e.key = r.key c.config) :
    (c.after before).got r = (c.after (before ++ .request r :: between)).got r' ↔
      (r.key c.config).name = (r'.key c.config).name ∧
        ∀ call ∈ between, call.drops r.templateId = false := by
  rw [after_concat] at here
  have iff := ((indexed_of_empty empty).after before).got_after_iff r r' between here
  have id : e.templateId = r.templateId := congrArg EntryKey.templateId key
  rwa [config_after, ← after_append_cons, id] at iff

theorem namesApart_of_plain {calls : List Call}
    (plain : ∀ r, .request r ∈ calls → '_' ∉ r.source.store.toList) : c.NamesApart calls := by
  rintro before r between r' behind rfl -
  exact key_eq_of_name (plain r (by simp)) (plain r' (by simp))

/-- No entry is taken for another exactly if requests of one name are for one entry, which is
so if no store has an underscore in its name. -/
theorem neverMixed_iff (empty : c.registered = []) (calls : List Call) :
    (c.NeverMixed calls ↔ c.NamesApart calls) ∧
      ((∀ r, .request r ∈ calls → '_' ∉ r.source.store.toList) → c.NeverMixed calls) := by
  have iff : c.NeverMixed calls ↔ c.NamesApart calls := by
    constructor
    · intro never before r between r' behind shape kept named
      obtain ⟨e, here, key⟩ := never.requested before r _ shape
      refine ((never.same_iff before r between r' behind shape).mp ?_).1
      exact (same_iff_of_requested empty here key).mpr ⟨named, kept⟩
    · intro apart
      refine ⟨fun before r behind => requested_of_namesApart empty apart,
        fun before r between r' behind shape => ?_⟩
      obtain ⟨e, here, key⟩ := requested_of_namesApart empty apart shape
      rw [same_iff_of_requested empty here key]
      refine and_congr_left fun kept => ⟨apart before r between r' behind shape kept, ?_⟩
      exact congrArg EntryKey.name
  exact ⟨iff, fun plain => iff.mpr (namesApart_of_plain plain)⟩

/-- A request for a template of a store. -/
def requestFrom (store templateId : String) : Request :=
  { templateId, source := { store, path := ⟨"/", ["t"]⟩ } }

/-- An id with an underscore is asked for in two stores, and its entry is dropped in between. -/
def plainCalls : List Call :=
  [.request (requestFrom "file" "a_b"), .invalidate (some "b"), .request (requestFrom "file" "a_b"),
    .request (requestFrom "web" "a_b"), .invalidate (some "a_b"), .request (requestFrom "file" "a_b")]

theorem neverMixed_iff_plainCalls : oneTemplateCache.registered = [] ∧
    (∀ r, .request r ∈ plainCalls → '_' ∉ r.source.store.toList) ∧
    oneTemplateCache.NeverMixed plainCalls ∧ oneTemplateCache.NamesApart plainCalls ∧
    (oneTemplateCache.after plainCalls).entries.size = 3 := by
  have plain : ∀ r, .request r ∈ plainCalls → '_' ∉ r.source.store.toList := by
    intro r mem
    simp only [plainCalls, List.mem_cons, Call.request.injEq, List.not_mem_nil, reduceCtorEq,
      or_false, false_or] at mem
    rcases mem with rfl | rfl | rfl | rfl <;> decide
  obtain ⟨iff, never⟩ := neverMixed_iff (c := oneTemplateCache) rfl plainCalls
  exact ⟨rfl, plain, never plain, iff.mp (never plain), by decide⟩

/-- The template `b` of the store `file_a` is asked for, and the entry of the template `a_b`
of the store `file` is given. -/
theorem stores_mixed :
    ¬ oneTemplateCache.NeverMixed
        [.request (requestFrom "file" "a_b"), .request (requestFrom "file_a" "b")] ∧
      ∃ e, let c := oneTemplateCache.after [.request (requestFrom "file" "a_b")]
        c.entryAt? (c.got (requestFrom "file_a" "b")) = some e ∧
          e.key = (requestFrom "file" "a_b").key c.config := by
  refine ⟨fun never => ?_, _, rfl, rfl⟩
  have same := ((never.same_iff [] _ [] _ [] rfl).mp rfl).1
  exact absurd same (by decide)

end

end Context

end PageTemplates.Cache
