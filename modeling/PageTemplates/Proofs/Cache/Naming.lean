import PageTemplates.Proofs.Cache.Orderly
import PageTemplates.Proofs.Text.Ascii

/-!
# Names that are made up

The files of an entry are called by its template and a number that no entry before it
had. The main facts:

* `Names.snapshot_number`: names of different numbers differ, whatever the templates are,
  as long as the digits suffice;
* `Numbered`: the invariant that the numbers of all entries have been given out;
* `Numbered.fresh`: so the next number makes a name that no entry has.
-/

namespace PageTemplates

namespace Names

/-- Names of different numbers differ, whatever they are for. -/
theorem snapshot_number {id id' : String} {n m : Nat} (hn : n < 16 ^ 32) (hm : m < 16 ^ 32)
    (same : snapshot id n = snapshot id' m) : n = m := by
  have length : (Text.hexDigits 32 n).length = (Text.hexDigits 32 m).length := by
    rw [Text.length_hexDigits (by decide) hn, Text.length_hexDigits (by decide) hm]
  have digits := (List.append_inj' (String.ofList_injective same) length).2
  rw [← Text.digitsValue_hexDigits 32 n, digits, Text.digitsValue_hexDigits]

end Names

namespace Cache

/-! ## Numbers are given out in registering alone -/

/-- No number was given out. -/
def SameNumber (c c' : Context) : Prop := c'.host.named = c.host.named

theorem SameNumber.trans {c c' c'' : Context} (h : SameNumber c c') (h' : SameNumber c' c'') :
    SameNumber c c'' := Eq.trans h' h

theorem OnlyLog.sameNumber {c c' : Context} (quiet : OnlyLog c c') : SameNumber c c' := by
  obtain ⟨log, rfl⟩ := quiet
  rfl

namespace Context

theorem storeBody_sameNumber (e : Entry) (script? : Option Bytes) (c : Context) :
    Leaves SameNumber (storeBody e script?) c := by
  unfold Leaves storeBody
  split
  · rename_i path script body
    rcases hw : writeSnapshot path script c.disk with ⟨err?, d⟩
    simp only [perform_bind, perform_get, hw, perform_modify]
    cases err? with
    | none => rfl
    | some err =>
        dsimp only
        split
        · rfl
        · exact tell_named (c.withDisk d) _ _
  · rfl

theorem storePage_sameNumber (i : Nat) (e : Entry) (content : Bytes) (c : Context) :
    Leaves SameNumber (storePage i e content) c := by
  unfold Leaves storePage
  split
  · rename_i path snapshot
    rcases hw : writeSnapshot path content c.disk with ⟨err?, d⟩
    simp only [perform_bind, perform_get, hw, perform_modify]
    cases err? with
    | none => rfl
    | some err =>
        dsimp only
        split
        · rfl
        · exact tell_named (c.withDisk d) _ _
  · rfl

theorem accept_sameNumber (i : Nat) (e : Entry) (p : Compile.Compilation) (modified : Nat)
    (c : Context) : Leaves SameNumber (accept i e p modified) c := by
  have modified' (f : Context → Context) (same : ∀ c, SameNumber c (f c)) (c : Context) :
      Leaves SameNumber (modify f : Operation Failure Unit) c := same c
  rw [accept_eq]
  refine (modified' _ (fun _ => rfl) c).bind .trans fun _ c₁ _ => ?_
  refine (storeBody_sameNumber _ _ c₁).bind .trans fun _ c₂ _ => ?_
  refine (modified' _ (fun _ => rfl) c₂).bind .trans fun _ c₃ _ => ?_
  refine (storePage_sameNumber _ _ _ c₃).bind .trans fun _ c₄ _ => ?_
  exact (modified' _ (fun _ => rfl) c₄).bind .trans fun _ c₅ _ => modified' _ (fun _ => rfl) c₅

/-- Asking for a page gives out no number. -/
theorem page_sameNumber {i : Nat} {e : Entry} {c c' : Context} {r : Except Failure Artifact}
    (here : c.entries[i]? = some e) (h : perform (page i) c = (r, c')) : SameNumber c c' := by
  cases page_asked here h with
  | atHand _ _ _ => rfl
  | tried h =>
      cases h with
      | failed quiet _ => exact quiet.sameNumber
      | @compiled c₁ _ time p _ quiet _ done =>
          have accepted := accept_sameNumber i e p time c₁
          rw [Leaves, done] at accepted
          exact quiet.sameNumber.trans accepted

/-- Dropping entries gives out no number. -/
theorem invalidate_sameNumber {c c' : Context} {templateId? : Option String}
    {r : Except DiskError (List String)} (h : perform (invalidate templateId?) c = (r, c')) :
    SameNumber c c' := by
  have left := invalidate_leaves (R := SameNumber) (fun _ => rfl) .trans (fun _ _ => rfl)
    tell_named c templateId?
  rwa [h] at left

theorem register_number (c : Context) (templateId : String) (source : Source)
    (mode? : Option CacheMode) :
    (c.register templateId source mode?).2.host.named = c.host.named ∨
      (c.register templateId source mode?).2.host.named = c.host.named + 1 := by
  unfold register
  dsimp only
  split
  · exact .inl rfl
  · rw [tell_named]
    dsimp only
    split
    · exact .inl rfl
    · exact .inr rfl

/-! ## The invariant -/

/-- The names of all entries that have one were made from numbers that were given out. -/
def Numbered (c : Context) : Prop :=
  ∀ i e, c.Registered i e → e.baseName = "" ∨
    ∃ k, k ≤ c.host.named ∧ e.baseName = Names.snapshot e.templateId k

namespace Numbered

variable {c c' : Context}

/-- The next number makes a name that no entry has. -/
theorem fresh (numbered : c.Numbered) (enough : c.host.named + 1 < 16 ^ 32) (id : String)
    {i : Nat} {e : Entry} (h : c.Registered i e) :
    e.baseName ≠ Names.snapshot id (c.host.named + 1) := by
  intro same
  rcases numbered i e h with none | ⟨k, given, name⟩
  · exact snapshot_ne_empty id _ (same.symm.trans none)
  · have number := Names.snapshot_number (by omega) enough (name.symm.trans same)
    omega

/-- Entries that stay as they are keep the invariant. -/
theorem shrunk (numbered : c.Numbered) (number : SameNumber c c')
    (registered : c'.registered.Sublist c.registered) (entries : c'.entries = c.entries) :
    c'.Numbered := by
  rintro i e ⟨⟨name, hn⟩, he⟩
  rw [number]
  exact numbered i e ⟨⟨name, registered.subset hn⟩, entries ▸ he⟩

/-- Work on one entry keeps the invariant. -/
theorem onlyEntry (numbered : c.Numbered) {i : Nat} {e : Entry} (hi : c.Registered i e)
    (only : OnlyEntry i e c c') (number : SameNumber c c') : c'.Numbered := by
  intro j e₁ hr
  obtain ⟨e', here', same⟩ := only.own
  rw [number]
  rcases registered_of_onlyEntry only here' hr with ⟨rfl, rfl⟩ | ⟨-, hr⟩
  · rw [same.baseName, same.templateId]
    exact numbered _ e hi
  · exact numbered j e₁ hr

/-- Registering keeps the invariant. -/
theorem register (numbered : c.Numbered) (known : c.NamesKnown) (templateId : String)
    (source : Source) (mode? : Option CacheMode) :
    (c.register templateId source mode?).2.Numbered := by
  have more : c.host.named ≤ (c.register templateId source mode?).2.host.named := by
    rcases c.register_number templateId source mode? with same | next <;> omega
  rcases c.register_cases templateId source mode? with same | ⟨number, unique, added⟩
  · rwa [same]
  · intro i e hr
    rcases added.registered_before known hr with ⟨rfl, rfl⟩ | ⟨-, hr⟩
    · cases mode : c.modeOf mode? with
      | basic => exact .inl rfl
      | compiled | browserCacheable =>
          obtain ⟨-, given⟩ := unique.resolve_left (by simp [mode])
          exact .inr ⟨number, Nat.le_of_eq given.symm, rfl⟩
    · refine (numbered i e hr).imp_right ?_
      rintro ⟨k, given, name⟩
      exact ⟨k, given.trans more, name⟩

end Numbered

/-- Dropping entries deletes files of theirs, and nothing else. -/
theorem Orderly.invalidate_onlyFiles {c c' : Context} (orderly : Orderly c)
    {templateId? : Option String} {r : Except DiskError (List String)}
    (h : perform (invalidate templateId?) c = (r, c')) :
    OnlyFiles (fun n => ∃ e ∈ c.droppedEntries templateId?,
      n = pageName e.baseName ∨ n = bodyName e.baseName) (c.unregister templateId?) c' := by
  refine Context.invalidate_onlyFiles (fun e he => ?_) h
  obtain ⟨i, hi, -⟩ := registered_of_dropped he
  exact orderly.placed i e hi

/-- Dropping entries keeps both invariants. -/
theorem Orderly.dropped {c c' : Context} (orderly : Orderly c) (numbered : c.Numbered)
    {templateId? : Option String} {r : Except DiskError (List String)}
    (h : perform (invalidate templateId?) c = (r, c')) : Orderly c' ∧ c'.Numbered := by
  have files := orderly.invalidate_onlyFiles h
  have registered : c'.registered.Sublist c.registered := by
    rw [files.registered]
    exact List.filter_sublist
  exact ⟨orderly.shrunk files.config registered files.entries,
    numbered.shrunk (invalidate_sameNumber h) registered files.entries⟩

/-- Registering keeps names apart as long as the digits of numbers suffice. -/
theorem Orderly.registerNext {c : Context} (orderly : Orderly c) (numbered : c.Numbered)
    {templateId : String} {source : Source} (mode? : Option CacheMode)
    (enough : (c.register templateId source mode?).2.host.named < 16 ^ 32) :
    Orderly (c.register templateId source mode?).2 := by
  refine orderly.register mode? fun new i e hr => numbered.fresh ?_ templateId hr
  have next := (c.register_number templateId source mode?).resolve_left new
  omega

end Context

end Cache

end PageTemplates
