import Mathlib.Data.List.Dedup
import Mathlib.Data.List.Induction
import Mathlib.Data.List.Perm.Subperm
import Mathlib.Order.Nat
import PageTemplates.Proofs.Cache.Files

/-!
# Which keys a store still holds

A store that may hold `m` keys is judged by the whole history of what was done to it. The
main facts:

* `UsedAt`, `LastUsedAt`: a key is used when a value is put under it, or found;
* `Crowded`: the moment at which `m` other keys are held that were all used later;
* `Tidy`: the invariant of a history: the keys that are held are different ones, no more
  than `m`, and stand in the order of their last use;
* `lost_step`: a key that goes was discarded, or it was the one used longest ago;
* `evicts_least_recent`: a key is held if nothing took it since its last use and it was
  never crowded out.
-/

namespace PageTemplates.Cache

/-- What is done to a store. -/
inductive Step (κ ν : Type) where
  | put (k : κ) (v : Option ν)
  | get (k : κ)
  | has (k : κ)
  | discard (k : κ)
  | clear

namespace Recency

variable {κ ν : Type} [BEq κ]

def step (s : Recency κ ν) : Step κ ν → Recency κ ν
  | .put k v => s.insert k v
  | .get k => (s.get k).2
  | .has _ => s
  | .discard k => s.erase k
  | .clear => s.clear

def after (s : Recency κ ν) (h : List (Step κ ν)) : Recency κ ν := h.foldl step s

/-- The keys that are held, the one used longest ago first. -/
def keys (s : Recency κ ν) : List κ := s.held.map (·.1)

/-- A step uses a key: a value is put under it, or one is found. -/
def Uses (s : Recency κ ν) (e : Step κ ν) (k : κ) : Prop :=
  (∃ v, e = .put k v) ∨ e = .get k ∧ (s.get k).1 ≠ none

/-- The step `i` of a history uses a key. -/
def UsedAt (s : Recency κ ν) (h : List (Step κ ν)) (i : Nat) (k : κ) : Prop :=
  ∃ e, h[i]? = some e ∧ (s.after (h.take i)).Uses e k

/-- The step `i` of a history is the last one to use a key. -/
def LastUsedAt (s : Recency κ ν) (h : List (Step κ ν)) (i : Nat) (k : κ) : Prop :=
  s.UsedAt h i k ∧ ∀ j, i < j → ¬ s.UsedAt h j k

/-- Neither was the key discarded after the step `i`, nor were all. -/
def Undisturbed (h : List (Step κ ν)) (i : Nat) (k : κ) : Prop :=
  ∀ j, i < j → h[j]? ≠ some (.discard k) ∧ h[j]? ≠ some .clear

/-- After `t` steps as many other keys are held as there may be, and all of them were used
later than the step `i`. -/
def Crowded (s : Recency κ ν) (h : List (Step κ ν)) (i t : Nat) (k : κ) : Prop :=
  ∃ others : List κ, others.Nodup ∧ s.capacity = some others.length ∧
    ∀ k' ∈ others, k' ≠ k ∧ (s.after (h.take t)).contains k' ∧
      ∃ j, i < j ∧ j < t ∧ s.UsedAt h j k'

/-- The last value that was put under a key. -/
def LastPut (h : List (Step κ ν)) (k : κ) (v : Option ν) : Prop :=
  ∃ i : Nat, h[i]? = some (.put k v) ∧ ∀ j, i < j → ∀ w, h[j]? ≠ some (.put k w)

/-! ## One step -/

section

@[simp] theorem get_fst (s : Recency κ ν) (k : κ) : (s.get k).1 = s.find? k := by
  unfold get
  split <;> simp_all

theorem keys_erase (s : Recency κ ν) (k : κ) : (s.erase k).keys = s.keys.filter (!· == k) := by
  rw [keys, keys, erase, List.filter_map]
  rfl

/-- The keys in the order of their last use, if one is used now. -/
def touched (s : Recency κ ν) (k : κ) : List κ := s.keys.filter (!· == k) ++ [k]

theorem keys_moved (s : Recency κ ν) (k : κ) (v : Option ν) :
    ((s.erase k).held ++ [(k, v)]).map (·.1) = s.touched k := by
  rw [List.map_append, touched, ← keys_erase]
  rfl

theorem keys_insert (s : Recency κ ν) (k : κ) (v : Option ν) :
    (s.insert k v).keys = match s.capacity with
      | none => s.touched k
      | some m => (s.touched k).drop ((s.touched k).length - m) := by
  rw [← keys_moved s k v, List.length_map]
  unfold insert trim
  cases s.capacity with
  | none => rfl
  | some m => exact List.map_drop

theorem keys_get (s : Recency κ ν) (k : κ) :
    (s.get k).2.keys = if (s.find? k).isSome then s.touched k else s.keys := by
  unfold get
  split
  · rename_i none
    rw [none]
    rfl
  · rename_i v found
    rw [found]
    exact keys_moved s k (some v)

@[simp] theorem capacity_step (s : Recency κ ν) (e : Step κ ν) :
    (s.step e).capacity = s.capacity := by
  cases e with
  | put k v =>
      simp only [step, insert, trim]
      split <;> rfl
  | get k =>
      simp only [step, get]
      split <;> rfl
  | has k | discard k | clear => rfl

end

section

variable [LawfulBEq κ] {s : Recency κ ν} {k k' : κ} {v : Option ν} {e : Step κ ν}

theorem contains_iff_mem_keys : s.contains k ↔ k ∈ s.keys := by
  rw [contains, List.any_eq_true, keys, List.mem_map]
  simp only [beq_iff_eq]

theorem find?_eq_none (h : k ∉ s.keys) : s.find? k = none := by
  have absent : s.held.lookup k = none := by
    rw [List.lookup_eq_none_iff]
    intro x hx
    refine bne_iff_ne.mpr ?_
    rintro rfl
    exact h (List.mem_map_of_mem hx)
  rw [find?, absent, Option.join_none]

theorem mem_keys_of_find? {v : ν} (h : s.find? k = some v) : k ∈ s.keys :=
  List.mem_map_of_mem (mem_of_find? h)

/-- A key that is held once is found with its value. -/
theorem find?_of_mem (once : s.keys.Nodup) (h : (k, v) ∈ s.held) : s.find? k = v := by
  obtain ⟨before, behind, split⟩ := List.append_of_mem h
  have first : ∀ x ∈ before, (k != x.1) = true := by
    intro x hx
    refine bne_iff_ne.mpr ?_
    rintro rfl
    rw [keys, split, List.map_append, List.map_cons] at once
    exact (List.nodup_append.mp once).2.2 _ (List.mem_map_of_mem hx) _ List.mem_cons_self rfl
  have found : s.held.lookup k = some v := List.lookup_eq_some_iff.mpr ⟨before, behind, split, first⟩
  rw [find?, found, Option.join_some]

theorem mem_touched : k' ∈ s.touched k ↔ k' ∈ s.keys ∨ k' = k := by
  by_cases same : k' = k <;> simp [touched, same]

theorem touched_nodup (once : s.keys.Nodup) : (s.touched k).Nodup := by
  refine List.nodup_append.mpr ⟨once.filter _, List.nodup_singleton k, ?_⟩
  rintro a ha b hb rfl
  simp_all

/-- What is held after a step was held before, or is put. -/
theorem mem_keys_step (h : k ∈ (s.step e).keys) : k ∈ s.keys ∨ ∃ v, e = .put k v := by
  obtain ⟨⟨k, v⟩, hm, rfl⟩ := List.mem_map.mp h
  cases e with
  | put k' v' =>
      rcases mem_of_mem_insert hm with ⟨rfl, -⟩ | ⟨-, hm⟩
      · exact .inr ⟨v', rfl⟩
      · exact .inl (List.mem_map_of_mem hm)
  | get k' => exact .inl (List.mem_map_of_mem (mem_of_mem_get hm))
  | has k' => exact .inl h
  | discard k' => exact .inl (List.mem_map_of_mem (mem_erase.mp hm).2)
  | clear => cases hm

/-- A value that is held after a step is the one that is put, or was held before. -/
theorem mem_held_step (h : (k, v) ∈ (s.step e).held) :
    e = .put k v ∨ (k, v) ∈ s.held ∧ ∀ w, e ≠ .put k w := by
  cases e with
  | put k' v' =>
      rcases mem_of_mem_insert h with ⟨rfl, rfl⟩ | ⟨other, hm⟩
      · exact .inl rfl
      · refine .inr ⟨hm, ?_⟩
        rintro w ⟨⟩
        exact other rfl
  | get k' => exact .inr ⟨mem_of_mem_get h, nofun⟩
  | has k' => exact .inr ⟨h, nofun⟩
  | discard k' => exact .inr ⟨(mem_erase.mp h).2, nofun⟩
  | clear => cases h

omit [LawfulBEq κ] in
/-- A step uses one key at most. -/
theorem Uses.unique (h : s.Uses e k) (h' : s.Uses e k') : k = k' := by
  rcases h with ⟨v, rfl⟩ | ⟨rfl, -⟩ <;> rcases h' with ⟨v', put⟩ | ⟨got, -⟩ <;> grind

omit [LawfulBEq κ] in
/-- A step that uses a key moves it behind the others, of which some may go. A step that
uses none leaves the order as it is. -/
theorem keys_step (s : Recency κ ν) (e : Step κ ν) :
    (∃ k, s.Uses e k ∧ (s.step e).keys <:+ s.touched k) ∨
      (∀ k, ¬ s.Uses e k) ∧ (s.step e).keys.Sublist s.keys := by
  cases e with
  | put k v =>
      refine .inl ⟨k, .inl ⟨v, rfl⟩, ?_⟩
      rw [step, keys_insert]
      split
      · exact List.suffix_rfl
      · exact List.drop_suffix _ _
  | get k =>
      rw [step, keys_get]
      split
      · rename_i found
        exact .inl ⟨k, .inr ⟨rfl, by simpa using Option.isSome_iff_ne_none.mp found⟩, List.suffix_rfl⟩
      · rename_i missed
        refine .inr ⟨?_, List.Sublist.refl _⟩
        rintro k' (⟨v, ⟨⟩⟩ | ⟨⟨⟩, found⟩)
        simp_all
  | has k => exact .inr ⟨by simp [Uses], List.Sublist.refl _⟩
  | discard k => exact .inr ⟨by simp [Uses], keys_erase s k ▸ List.filter_sublist⟩
  | clear => exact .inr ⟨by simp [Uses], List.nil_sublist _⟩

/-- A store that held no more keys than it may hold does so after a step. -/
theorem length_keys_step {m : Nat} (bound : s.capacity = some m) (once : s.keys.Nodup)
    (few : s.keys.length ≤ m) : (s.step e).keys.length ≤ m := by
  cases e with
  | put k v =>
      rw [step, keys_insert, bound]
      simp only [List.length_drop]
      omega
  | get k =>
      rw [step, keys_get]
      split
      · rename_i found
        obtain ⟨v, found⟩ := Option.isSome_iff_exists.mp found
        have among : s.touched k ⊆ s.keys := by
          intro k' hk'
          rcases mem_touched.mp hk' with hk' | rfl
          · exact hk'
          · exact mem_keys_of_find? found
        exact ((touched_nodup once).subperm among).length_le.trans few
      · exact few
  | has k => exact few
  | discard k =>
      rw [step, keys_erase]
      exact (List.length_filter_le _ _).trans few
  | clear => exact Nat.zero_le m

omit [LawfulBEq κ] in
/-- A key that gives way to another was the one used longest ago. -/
theorem touched_of_evicted (few : ∀ m, s.capacity = some m → s.keys.length ≤ m)
    (held : k ∈ s.touched k') (gone : k ∉ (s.insert k' v).keys) :
    s.touched k' = k :: (s.insert k' v).keys ∧
      s.capacity = some (s.insert k' v).keys.length := by
  rw [keys_insert] at gone ⊢
  cases bound : s.capacity with
  | none =>
      rw [bound] at gone
      exact absurd held gone
  | some m =>
      rw [bound] at gone
      dsimp only at gone ⊢
      have more : (s.touched k').length ≤ m + 1 := by
        rw [touched, List.length_append, List.length_singleton]
        exact Nat.succ_le_succ ((List.length_filter_le _ _).trans (few m bound))
      -- one key is added at most, so one is dropped, and that is the first
      have excess : (s.touched k').length - m = 1 := by
        by_contra
        have none : (s.touched k').length - m = 0 := by omega
        rw [none, List.drop_zero] at gone
        exact gone held
      rw [excess] at gone ⊢
      obtain ⟨first, rest, split⟩ := List.exists_cons_of_length_pos (by omega : 0 < (s.touched k').length)
      rw [split] at held gone excess ⊢
      rw [List.drop_one, List.tail_cons] at gone ⊢
      obtain rfl : k = first := (List.mem_cons.mp held).resolve_right gone
      refine ⟨rfl, congrArg some ?_⟩
      rw [List.length_cons] at excess
      omega

/-- A key that goes was discarded, or gave way to another. -/
theorem lost_step (held : k ∈ s.keys) (gone : k ∉ (s.step e).keys) :
    e = .discard k ∨ e = .clear ∨ ∃ k' v, e = .put k' v := by
  cases e with
  | put k' v => exact .inr (.inr ⟨k', v, rfl⟩)
  | get k' =>
      rw [step, keys_get] at gone
      split at gone
      · exact absurd (mem_touched.mpr (.inl held)) gone
      · exact absurd held gone
  | has k' => exact absurd held gone
  | discard k' =>
      rw [step, keys_erase] at gone
      left
      by_contra other
      refine gone (List.mem_filter.mpr ⟨held, ?_⟩)
      simp_all
  | clear => exact .inr (.inl rfl)

end

/-! ## A history -/

section

variable {s : Recency κ ν} {h : List (Step κ ν)} {e : Step κ ν} {i t : Nat} {k k' : κ}
  {v : Option ν}

theorem after_append (s : Recency κ ν) (h h' : List (Step κ ν)) :
    s.after (h ++ h') = (s.after h).after h' := List.foldl_append

theorem after_concat (s : Recency κ ν) (h : List (Step κ ν)) (e : Step κ ν) :
    s.after (h ++ [e]) = (s.after h).step e := after_append s h [e]

@[simp] theorem capacity_after (s : Recency κ ν) (h : List (Step κ ν)) :
    (s.after h).capacity = s.capacity := by
  induction h using List.reverseRecOn with
  | nil => rfl
  | append_singleton h e ih => rw [after_concat, capacity_step, ih]

omit [BEq κ] in
theorem getElem?_behind {j : Nat} (behind : h.length < j) : (h ++ [e])[j]? = none := by
  rw [List.getElem?_eq_none_iff, List.length_append, List.length_singleton]
  exact behind

theorem UsedAt.lt (used : s.UsedAt h i k) : i < h.length := by
  obtain ⟨e, here, -⟩ := used
  exact (List.getElem?_eq_some_iff.mp here).1

theorem usedAt_concat_iff (below : i < h.length) :
    s.UsedAt (h ++ [e]) i k ↔ s.UsedAt h i k := by
  unfold UsedAt
  rw [List.getElem?_append_left below, List.take_append_of_le_length below.le]

theorem usedAt_concat_last : s.UsedAt (h ++ [e]) h.length k ↔ (s.after h).Uses e k := by
  unfold UsedAt
  rw [List.getElem?_concat_length, List.take_left]
  simp

/-- A use is one of before, or the one made now. -/
theorem usedAt_concat : s.UsedAt (h ++ [e]) i k ↔
    s.UsedAt h i k ∨ i = h.length ∧ (s.after h).Uses e k := by
  rcases Nat.lt_trichotomy i h.length with below | rfl | above
  · rw [usedAt_concat_iff below]
    exact ⟨.inl, fun used => used.resolve_right fun last => below.ne last.1⟩
  · rw [usedAt_concat_last]
    exact ⟨fun used => .inr ⟨rfl, used⟩, fun used => (used.resolve_left fun old => old.lt.false).2⟩
  · constructor
    · intro used
      have := used.lt
      rw [List.length_append, List.length_singleton] at this
      omega
    · rintro (used | ⟨rfl, -⟩)
      · exact absurd used.lt above.not_gt
      · exact absurd above (Nat.lt_irrefl _)

/-- One key was used later than another. -/
def UsedLater (s : Recency κ ν) (h : List (Step κ ν)) (k k' : κ) : Prop :=
  ∃ j, s.UsedAt h j k' ∧ ∀ i, s.UsedAt h i k → i < j

theorem UsedLater.concat (later : s.UsedLater h k k') (other : ¬ (s.after h).Uses e k) :
    s.UsedLater (h ++ [e]) k k' := by
  obtain ⟨j, used, last⟩ := later
  refine ⟨j, usedAt_concat.mpr (.inl used), fun i now => last i ?_⟩
  exact (usedAt_concat.mp now).resolve_right fun new => other new.2

theorem usedLater_now (other : ¬ (s.after h).Uses e k) (used : (s.after h).Uses e k') :
    s.UsedLater (h ++ [e]) k k' := by
  refine ⟨h.length, usedAt_concat_last.mpr used, fun i now => ?_⟩
  exact ((usedAt_concat.mp now).resolve_right fun new => other new.2).lt

omit [BEq κ] in
theorem lastPut_now (h : List (Step κ ν)) (k : κ) (v : Option ν) :
    LastPut (h ++ [.put k v]) k v := by
  refine ⟨h.length, List.getElem?_concat_length, fun j behind w => ?_⟩
  rw [getElem?_behind behind]
  exact nofun

omit [BEq κ] in
theorem LastPut.concat (last : LastPut h k v) (other : ∀ w, e ≠ .put k w) :
    LastPut (h ++ [e]) k v := by
  obtain ⟨i, here, last⟩ := last
  have below := (List.getElem?_eq_some_iff.mp here).1
  refine ⟨i, by rwa [List.getElem?_append_left below], fun j behind w => ?_⟩
  rcases Nat.lt_or_ge j h.length with old | new
  · rw [List.getElem?_append_left old]
    exact last j behind w
  · intro put
    have mem : Step.put k w ∈ [e] := by
      rw [List.getElem?_append_right new] at put
      exact List.mem_of_getElem? put
    exact other w (List.mem_singleton.mp mem).symm

end

/-- What is so after a history: there are no more keys than there may be, no key is held
twice, they stand in the order of their last use, and with the last value put. -/
structure Tidy (s : Recency κ ν) (h : List (Step κ ν)) : Prop where
  once : (s.after h).keys.Nodup
  few : ∀ m, s.capacity = some m → (s.after h).keys.length ≤ m
  sorted : (s.after h).keys.Pairwise (s.UsedLater h)
  values : ∀ k v, (k, v) ∈ (s.after h).held → LastPut h k v

section

variable [LawfulBEq κ] {s : Recency κ ν} {h : List (Step κ ν)} {e : Step κ ν} {i t : Nat}
  {k k' : κ} {v : Option ν}

/-- The order stays right when a key is used. -/
theorem Tidy.sorted_touched (tidy : s.Tidy h) (used : (s.after h).Uses e k) :
    ((s.after h).touched k).Pairwise (s.UsedLater (h ++ [e])) := by
  have other {a : κ} (ha : a ∈ (s.after h).keys.filter (!· == k)) : ¬ (s.after h).Uses e a := by
    intro now
    obtain rfl := now.unique used
    simp at ha
  refine List.pairwise_append.mpr ⟨?_, List.pairwise_singleton _ k, ?_⟩
  · refine (tidy.sorted.sublist List.filter_sublist).imp_of_mem ?_
    exact fun ha _ later => later.concat (other ha)
  · intro a ha b hb
    rw [List.mem_singleton.mp hb]
    exact usedLater_now (other ha) used

theorem Tidy.concat (tidy : s.Tidy h) (e : Step κ ν) : s.Tidy (h ++ [e]) := by
  have bound (m : Nat) (hm : s.capacity = some m) : (s.after (h ++ [e])).keys.length ≤ m := by
    rw [after_concat]
    exact length_keys_step (by rw [capacity_after, hm]) tidy.once (tidy.few m hm)
  have values (k : κ) (v : Option ν) (hm : (k, v) ∈ (s.after (h ++ [e])).held) :
      LastPut (h ++ [e]) k v := by
    rw [after_concat] at hm
    rcases mem_held_step hm with rfl | ⟨before, other⟩
    · exact lastPut_now h k v
    · exact (tidy.values k v before).concat other
  rcases keys_step (s.after h) e with ⟨k, used, moved⟩ | ⟨unused, fewer⟩
  · rw [← after_concat] at moved
    exact ⟨(touched_nodup tidy.once).sublist moved.sublist, bound,
      (tidy.sorted_touched used).sublist moved.sublist, values⟩
  · rw [← after_concat] at fewer
    refine ⟨tidy.once.sublist fewer, bound, ?_, values⟩
    exact (tidy.sorted.imp fun later => later.concat (unused _)).sublist fewer

/-- A store that was empty is tidy after any history. -/
theorem tidy_of_empty (empty : s.held = []) (h : List (Step κ ν)) : s.Tidy h := by
  have none : s.keys = [] := by rw [keys, empty, List.map_nil]
  induction h using List.reverseRecOn with
  | nil =>
      have nothing : (s.after []).keys = [] := none
      refine ⟨?_, fun m _ => ?_, ?_, fun k v hm => ?_⟩
      · rw [nothing]
        exact List.nodup_nil
      · rw [nothing]
        exact Nat.zero_le m
      · rw [nothing]
        exact List.Pairwise.nil
      · change (k, v) ∈ s.held at hm
        rw [empty] at hm
        cases hm
  | append_singleton h e ih => exact ih.concat e

/-! ## Which keys are held -/

/-- A key that is held, and was not used for some steps, was held before them. -/
theorem mem_keys_take (held : k ∈ (s.after h).keys) (le : t ≤ h.length)
    (unused : ∀ j, t ≤ j → ¬ s.UsedAt h j k) : k ∈ (s.after (h.take t)).keys := by
  induction h using List.reverseRecOn with
  | nil =>
      rw [List.take_nil]
      exact held
  | append_singleton h e ih =>
      rw [List.length_append, List.length_singleton] at le
      rcases Nat.lt_or_ge h.length t with all | below
      · rwa [List.take_of_length_le]
        rw [List.length_append, List.length_singleton]
        exact all
      · rw [List.take_append_of_le_length below]
        refine ih ?_ below fun j hj used => unused j hj (usedAt_concat.mpr (.inl used))
        rw [after_concat] at held
        refine (mem_keys_step held).resolve_right fun put => ?_
        exact unused h.length below (usedAt_concat_last.mpr (.inl put))

/-- A key that is held was used, and nothing took it since. -/
theorem exists_lastUsedAt (empty : s.held = []) (held : k ∈ (s.after h).keys) :
    ∃ i, s.LastUsedAt h i k ∧ Undisturbed h i k := by
  induction h using List.reverseRecOn with
  | nil =>
      rw [after, List.foldl_nil, keys, empty] at held
      cases held
  | append_singleton h e ih =>
      rw [after_concat] at held
      by_cases used : (s.after h).Uses e k
      · refine ⟨h.length, ⟨usedAt_concat_last.mpr used, fun j behind now => ?_⟩, fun j behind => ?_⟩
        · rcases usedAt_concat.mp now with old | ⟨rfl, -⟩
          · exact absurd old.lt behind.not_gt
          · exact behind.false
        · rw [getElem?_behind behind]
          exact ⟨nofun, nofun⟩
      · have before := (mem_keys_step held).resolve_right fun put => used (.inl put)
        obtain ⟨i, ⟨last, none⟩, spared⟩ := ih before
        refine ⟨i, ⟨usedAt_concat.mpr (.inl last), fun j behind now => ?_⟩, fun j behind => ?_⟩
        · exact none j behind ((usedAt_concat.mp now).resolve_right fun new => used new.2)
        · rcases Nat.lt_or_ge j h.length with old | new
          · rw [List.getElem?_append_left old]
            exact spared j behind
          · rw [List.getElem?_append_right new]
            constructor
            · intro taken
              obtain rfl := List.mem_singleton.mp (List.mem_of_getElem? taken)
              simp [step, keys_erase] at held
            · intro taken
              obtain rfl := List.mem_singleton.mp (List.mem_of_getElem? taken)
              cases held

/-- A key that was held all the time was never crowded out: there would have been one key
too many. -/
theorem not_crowded (empty : s.held = []) (held : k ∈ (s.after h).keys)
    (last : s.LastUsedAt h i k) (later : i < t) (le : t ≤ h.length) : ¬ s.Crowded h i t k := by
  rintro ⟨others, distinct, bound, all⟩
  have still := mem_keys_take held le fun j hj => last.2 j (later.trans_le hj)
  have few := (tidy_of_empty empty (h.take t)).few _ bound
  have distinct : (k :: others).Nodup :=
    List.nodup_cons.mpr ⟨fun here => (all k here).1 rfl, distinct⟩
  have among : k :: others ⊆ (s.after (h.take t)).keys :=
    List.cons_subset.mpr ⟨still, fun k' hk' => contains_iff_mem_keys.mp (all k' hk').2.1⟩
  have more := (distinct.subperm among).length_le
  rw [List.length_cons] at more
  omega

/-- A key that gives way is crowded out. -/
theorem crowded_of_evicted (tidy : s.Tidy h) (held : k ∈ (s.after h).touched k')
    (gone : k ∉ (s.after (h ++ [.put k' v])).keys) (used : s.UsedAt (h ++ [.put k' v]) i k) :
    s.Crowded (h ++ [.put k' v]) i (h.length + 1) k := by
  rw [after_concat] at gone
  obtain ⟨first, full⟩ := touched_of_evicted (by simpa using tidy.few) held gone
  have distinct := touched_nodup (k := k') tidy.once
  have sorted := tidy.sorted_touched (e := .put k' v) (.inl ⟨v, rfl⟩)
  rw [first] at distinct sorted
  obtain ⟨other, distinct⟩ := List.nodup_cons.mp distinct
  refine ⟨_, distinct, by rw [← full, capacity_after], fun k'' hk'' => ⟨?_, ?_, ?_⟩⟩
  · rintro rfl
    exact other hk''
  · rw [List.take_of_length_le (by simp), after_concat]
    exact contains_iff_mem_keys.mpr hk''
  · obtain ⟨j, used', last⟩ := (List.pairwise_cons.mp sorted).1 k'' hk''
    exact ⟨j, last i used, by simpa using used'.lt, used'⟩

omit [LawfulBEq κ] in
theorem Crowded.concat (crowded : s.Crowded h i t k) (le : t ≤ h.length) :
    s.Crowded (h ++ [e]) i t k := by
  obtain ⟨others, distinct, full, all⟩ := crowded
  refine ⟨others, distinct, full, fun k' hk' => ?_⟩
  obtain ⟨other, held, j, behind, before, used⟩ := all k' hk'
  rw [List.take_append_of_le_length le]
  exact ⟨other, held, j, behind, before, usedAt_concat.mpr (.inl used)⟩

/-- A key that was used and not taken is held, or it was crowded out. -/
theorem mem_keys_or_crowded (empty : s.held = []) (last : s.LastUsedAt h i k)
    (spared : Undisturbed h i k) :
    k ∈ (s.after h).keys ∨ ∃ t, i < t ∧ t ≤ h.length ∧ s.Crowded h i t k := by
  induction h using List.reverseRecOn with
  | nil => exact absurd last.1.lt (Nat.not_lt_zero i)
  | append_singleton h e ih =>
      rw [List.length_append, List.length_singleton]
      by_cases gone : k ∈ (s.after (h ++ [e])).keys
      · exact .inl gone
      have tidy := tidy_of_empty empty h
      have evicted {k' : κ} {v : Option ν} (put : e = .put k' v)
          (held : k ∈ (s.after h).touched k') :
          ∃ t, i < t ∧ t ≤ h.length + 1 ∧ s.Crowded (h ++ [e]) i t k := by
        subst put
        refine ⟨h.length + 1, by simpa using last.1.lt, Nat.le_refl _, ?_⟩
        exact crowded_of_evicted tidy held gone last.1
      right
      -- the last use came before this event, or is this event: a put, or a get that found it
      rcases usedAt_concat.mp last.1 with before | ⟨rfl, ⟨v, put⟩ | ⟨rfl, found⟩⟩
      · have below := before.lt
        have last' : s.LastUsedAt h i k :=
          ⟨before, fun j behind used => last.2 j behind (usedAt_concat.mpr (.inl used))⟩
        have spared' : Undisturbed h i k := by
          intro j behind
          rcases Nat.lt_or_ge j h.length with old | new
          · have := spared j behind
            rwa [List.getElem?_append_left old] at this
          · rw [List.getElem?_eq_none new]
            exact ⟨nofun, nofun⟩
        -- it was held until now and this event drops it, or it was crowded out before
        rcases ih last' spared' with held | ⟨t, behind, le, crowded⟩
        · rw [after_concat] at gone
          have now := spared h.length below
          rw [List.getElem?_concat_length] at now
          rcases lost_step held gone with rfl | rfl | ⟨k', v, put⟩
          · exact absurd rfl now.1
          · exact absurd rfl now.2
          · exact evicted put (mem_touched.mpr (.inl held))
        · exact ⟨t, behind, le.trans (Nat.le_succ _), crowded.concat le⟩
      · exact evicted put (mem_touched.mpr (.inr rfl))
      · rw [after_concat, step, keys_get, get_fst] at *
        rw [if_pos (Option.isSome_iff_ne_none.mpr found)] at gone
        exact absurd (mem_touched.mpr (.inr rfl)) gone

theorem contains_after_iff (empty : s.held = []) : (s.after h).contains k ↔
    (∃ v, .put k v ∈ h) ∧ ∃ i, s.LastUsedAt h i k ∧ Undisturbed h i k ∧
      ∀ t, i < t → t ≤ h.length → ¬ s.Crowded h i t k := by
  rw [contains_iff_mem_keys]
  constructor
  · intro held
    obtain ⟨⟨k, v⟩, hm, rfl⟩ := List.mem_map.mp held
    obtain ⟨j, put, -⟩ := (tidy_of_empty empty h).values k v hm
    obtain ⟨i, last, spared⟩ := exists_lastUsedAt empty held
    exact ⟨⟨v, List.mem_of_getElem? put⟩, i, last, spared,
      fun t later le => not_crowded empty held last later le⟩
  · rintro ⟨-, i, last, spared, free⟩
    refine (mem_keys_or_crowded empty last spared).resolve_right ?_
    rintro ⟨t, later, le, crowded⟩
    exact free t later le crowded

/-- A store that may hold `m` keys is one that forgets what was used least recently: it
holds no more keys, and none twice; a key that is held is found with the value that was put
last, and no other is; a key is held if it was put, nothing took it since its last use, and
at no moment since were there `m` other keys that were all used later. Asking whether a key
is held makes no difference to what is held later. -/
theorem evicts_least_recent {capacity : Option Int} (positive : ∀ m, capacity = some m → 1 ≤ m) :
    ∃ s : Recency κ ν, make? capacity = some s ∧ s.capacity = capacity.map Int.toNat ∧
      ∀ h : List (Step κ ν),
        (∀ m, capacity = some m → ((s.after h).size : Int) ≤ m) ∧ (s.after h).keys.Nodup ∧
        (∀ k, (s.after h).contains k → ∃ v, LastPut h k v ∧ ((s.after h).get k).1 = v) ∧
        (∀ k, ¬ (s.after h).contains k → ((s.after h).get k).1 = none) ∧
        (∀ k, (s.after h).contains k ↔
          (∃ v, .put k v ∈ h) ∧ ∃ i, s.LastUsedAt h i k ∧ Undisturbed h i k ∧
            ∀ t, i < t → t ≤ h.length → ¬ s.Crowded h i t k) ∧
        ∀ k h', s.after (h ++ .has k :: h') = s.after (h ++ h') := by
  have made : make? capacity = some { capacity := capacity.map Int.toNat : Recency κ ν } := by
    unfold make?
    cases capacity with
    | none => rfl
    | some m => exact if_neg (by have := positive m rfl; omega)
  refine ⟨_, made, rfl, fun h => ?_⟩
  -- one invariant of all histories carries every part of the statement
  have tidy := tidy_of_empty (s := { capacity := capacity.map Int.toNat }) (ν := ν) rfl h
  refine ⟨fun m bound => ?_, tidy.once, fun k held => ?_, fun k other => ?_,
    fun k => contains_after_iff rfl, fun k h' => ?_⟩
  · have few := tidy.few m.toNat (by rw [bound, Option.map_some])
    have one := positive m bound
    rw [keys, List.length_map] at few
    rw [size]
    omega
  · obtain ⟨⟨k, v⟩, hm, rfl⟩ := List.mem_map.mp (contains_iff_mem_keys.mp held)
    exact ⟨v, tidy.values k v hm, by rw [get_fst, find?_of_mem tidy.once hm]⟩
  · rw [get_fst, find?_eq_none (mt contains_iff_mem_keys.mpr other)]
  · rw [after_append, after_append]
    rfl

end

/-- Two keys may be held; the first is looked up before a third is put. -/
def threePut : List (Step String String) :=
  [.put "a" (some "A"), .put "b" (some "B"), .get "a", .has "b", .put "c" (some "C")]

/-- The key that was not looked up is the one that is gone. -/
theorem evicts_least_recent_threePut : (∀ m, some (2 : Int) = some m → 1 ≤ m) ∧
    ∃ s : Recency String String, make? (some 2) = some s ∧
      (s.after threePut).keys = ["a", "c"] ∧
      (∃ v, LastPut threePut "a" v ∧ ((s.after threePut).get "a").1 = v) ∧
      ((s.after threePut).get "b").1 = none ∧
      ∃ i, s.LastUsedAt threePut i "a" ∧ Undisturbed threePut i "a" := by
  have positive : ∀ m, some (2 : Int) = some m → 1 ≤ m := by
    rintro m ⟨⟩
    decide
  obtain ⟨s, made, -, law⟩ := evicts_least_recent (κ := String) (ν := String) positive
  obtain ⟨-, -, found, missed, held, -⟩ := law threePut
  cases made
  have here : (after { capacity := some 2 } threePut).contains "a" := by decide
  have gone : ¬ (after { capacity := some 2 } threePut).contains "b" := by decide
  obtain ⟨-, i, last, spared, -⟩ := (held "a").mp here
  exact ⟨positive, _, rfl, by decide, found "a" here, missed "b" gone, i, last, spared⟩

end Recency

end PageTemplates.Cache
