import Mathlib.Data.List.Induction
import Mathlib.Data.List.Nodup
import PageTemplates.Proofs.Disk.Names

/-!
# Files and folders as a tree

Any list of items makes a `Disk`, but the items of a file system form a tree: no
two stand at one place, and each stands in a folder. The main facts:

* `IsTree`: the items of a disk form a tree, and their names are names;
* `place_of_folders`: a resolved path with nothing but folders on the way leads to
  its own names, unless it is too long;
* `removeFolder_items`: clearing a folder of a tree takes away just what stands at
  and below it;
* `mem_below`, `below_nodup`: a folder lists what stands below it, each once;
* `read_of_write`: what was written is read.
-/

namespace PageTemplates.Disk

open DiskPath

/-- A name that a file or folder can have. -/
structure IsItemName (n : String) : Prop extends IsPlainName n where
  noNul : '\x00' ∉ n.toList

/-- No two items stand at one place. -/
def Distinct (d : Disk) : Prop := (d.items.map (·.1)).Nodup

/-- Everything stands at a place of its own, in a folder, and is called by a name. -/
structure IsTree (d : Disk) : Prop where
  distinct : d.Distinct
  parents : ∀ i ∈ d.items, d.item? i.1.dropLast = some .folder
  named : ∀ i ∈ d.items, ∀ n ∈ i.1, IsItemName n

variable {d d' : Disk}

/-! ## Items -/

theorem mem_items_of_item? {ns : List String} {i : Item} (h : d.item? ns = some i)
    (inner : ns ≠ []) : (ns, i) ∈ d.items := by
  rw [item?, if_neg (by simpa using inner)] at h
  obtain ⟨before, behind, shape, -⟩ := List.lookup_eq_some_iff.mp h
  rw [shape]
  exact List.mem_append_right _ List.mem_cons_self

theorem item?_of_mem_items (distinct : d.Distinct) {ns : List String} {i : Item}
    (h : (ns, i) ∈ d.items) (inner : ns ≠ []) : d.item? ns = some i := by
  rw [item?, if_neg (by simpa using inner), List.lookup_eq_some_iff]
  obtain ⟨before, behind, shape⟩ := List.append_of_mem h
  refine ⟨before, behind, shape, fun j hj => bne_iff_ne.mpr ?_⟩
  rintro rfl
  rw [Distinct, shape, List.map_append, List.map_cons, List.nodup_middle, List.nodup_cons]
    at distinct
  exact distinct.1 (List.mem_append_left _ (List.mem_map.mpr ⟨j, hj, rfl⟩))

theorem item?_of_items_filter (keep : List String → Bool)
    (items : d'.items = d.items.filter (keep ·.1)) {ns : List String} (inner : ns ≠ []) :
    d'.item? ns = if keep ns then d.item? ns else none := by
  simp only [item?, List.isEmpty_iff, inner, if_false, items]
  generalize d.items = is
  induction is with
  | nil => simp
  | cons i is ih =>
      by_cases same : ns = i.1 <;> by_cases kept : keep i.1 <;> grind

theorem item?_ne_none_of_mem (distinct : d.Distinct) {i : List String × Item} (h : i ∈ d.items) :
    d.item? i.1 ≠ none := by
  by_cases inner : i.1 = []
  · rw [inner, item?_nil]
    exact Option.some_ne_none _
  · rw [item?_of_mem_items distinct h inner]
    exact Option.some_ne_none _

namespace IsTree

/-- On the way to an item there are folders only. -/
theorem folder_of_prefix (tree : d.IsTree) {ns ms : List String} (stands : d.item? ns ≠ none)
    (front : ms <+: ns) (other : ms ≠ ns) : d.item? ms = some .folder := by
  induction ns using List.reverseRecOn with
  | nil => exact absurd (List.prefix_nil.mp front) other
  | append_singleton ns n ih =>
      obtain ⟨i, item⟩ := Option.ne_none_iff_exists'.mp stands
      have up := tree.parents _ (mem_items_of_item? item (by simp))
      rw [List.dropLast_concat] at up
      rcases List.prefix_concat_iff.mp front with rfl | front
      · exact absurd rfl other
      · by_cases here : ms = ns
        · rw [here, up]
        · exact ih (by simp [up]) front here

theorem isItemName (tree : d.IsTree) {ns : List String} (stands : d.item? ns ≠ none) :
    ∀ n ∈ ns, IsItemName n := by
  intro n hn
  obtain ⟨i, item⟩ := Option.ne_none_iff_exists'.mp stands
  exact tree.named _ (mem_items_of_item? item (List.ne_nil_of_mem hn)) n hn

end IsTree

/-! ## Paths -/

/-- Names are followed through folders unless one is too long. -/
theorem follow_of_folders {start ns : List String} (noUp : ".." ∉ ns)
    (folders : ∀ ms, ms <+: ns → ms ≠ ns → d.item? (start ++ ms) = some .folder) :
    d.follow start ns = if ∃ n ∈ ns, maxName < n.utf8ByteSize then .error .nameTooLong
      else .ok (start ++ ns) := by
  induction ns generalizing start with
  | nil => rw [follow, List.append_nil, if_neg (by simp)]
  | cons n ns ih =>
      have here := folders [] List.nil_prefix (by simp)
      rw [List.append_nil] at here
      rw [List.mem_cons, not_or] at noUp
      have other : (n == "..") = false := beq_eq_false_iff_ne.mpr (Ne.symm noUp.1)
      rw [follow, here]
      dsimp only
      split
      · rename_i long
        rw [if_pos ⟨n, List.mem_cons_self, long⟩]
      · rename_i short
        rw [other, if_neg Bool.false_ne_true, List.append_cons start n ns, ih noUp.2]
        · simp only [List.exists_mem_cons_iff, short, false_or]
        · intro ms front shorter
          rw [List.append_assoc]
          exact folders _ ((List.prefix_cons_inj n).mpr front) (by simpa using shorter)

/-- Where names lead to there are folders on the way, and no name is too long. -/
theorem follow_eq_ok {start ns ms : List String} (h : d.follow start ns = .ok ms)
    (folders : ∀ ps, ps <+: start → ps ≠ start → d.item? ps = some .folder)
    (short : ∀ n ∈ start, ¬ maxName < n.utf8ByteSize) :
    (∀ ps, ps <+: ms → ps ≠ ms → d.item? ps = some .folder) ∧
      ∀ n ∈ ms, ¬ maxName < n.utf8ByteSize := by
  induction ns generalizing start with
  | nil =>
      cases h
      exact ⟨folders, short⟩
  | cons n ns ih =>
      rw [follow] at h
      split at h
      · cases h
      · cases h
      rename_i here
      split at h
      · cases h
      rename_i shortName
      -- `..` leads back among the folders passed before; any other name starts in `start`
      refine ih h (fun ps front other => ?_) fun m hm => ?_
      · split at front <;> rename_i up
        · rw [if_pos up] at other
          refine folders ps (front.trans (List.dropLast_prefix start)) ?_
          rintro rfl
          exact other (front.eq_of_length_le (List.dropLast_prefix _).length_le)
        · rw [if_neg up] at other
          by_cases same : ps = start
          · rw [same, here]
          · exact folders ps ((List.prefix_concat_iff.mp front).resolve_left other) same
      · split at hm
        · exact short m (List.dropLast_subset _ hm)
        · rcases List.mem_append.mp hm with old | new
          · exact short m old
          · rwa [List.mem_singleton.mp new]

/-- Where a resolved path leads to when there are folders on the way. -/
theorem place_of_folders {p : DiskPath} (resolved : p.IsResolved) (noNul : p.hasNul = false)
    (folders : ∀ ms, ms <+: p.names → ms ≠ p.names → d.item? ms = some .folder) :
    d.place p = .ok p.names ∨ ∃ q, d.place p = .error (.refused .nameTooLong q) := by
  rw [place, if_neg (by simp [noNul])]
  split
  · exact .inr ⟨p, rfl⟩
  · rw [DiskPath.join, if_pos resolved.isAbsolute]
    rw [follow_of_folders resolved.noUp folders]
    split
    · exact .inr ⟨p, rfl⟩
    · exact .inl rfl

/-- A path that leads somewhere has its names followed from the root. -/
theorem follow_of_place {p : DiskPath} {names : List String} (led : d.place p = .ok names) :
    d.follow [] (d.here.join p).names = .ok names := by
  unfold place at led
  split at led
  · cases led
  split at led
  · cases led
  · cases reached : d.follow [] (d.here.join p).names with
    | error e =>
        rw [reached] at led
        cases led
    | ok ms =>
        rw [reached] at led
        cases led
        rfl

/-- No name on the way of a path that leads somewhere is too long. -/
theorem short_of_place {p : DiskPath} {names : List String} (led : d.place p = .ok names) :
    ∀ n ∈ names, n.utf8ByteSize ≤ maxName := fun n hn =>
  Nat.le_of_not_lt ((follow_eq_ok (follow_of_place led)
    (fun _ none other => absurd (List.prefix_nil.mp none) other) (List.forall_mem_nil _)).2 n hn)

/-- A path that leads somewhere leads there when it is resolved, unless that makes it too
long. -/
theorem place_resolve {p : DiskPath} {names : List String} (led : d.place p = .ok names)
    (noNul : (d.here.resolve p).hasNul = false)
    (short : (d.here.resolve p).text.utf8ByteSize ≤ maxPath) :
    d.place (d.here.resolve p) = .ok names := by
  have resolved : (d.here.resolve p).IsResolved := resolve_isResolved _ _
  have named : names = (d.here.resolve p).names := place_eq_spot led
  have followed := follow_of_place led
  obtain ⟨folders, shortNames⟩ :=
    follow_eq_ok followed (fun ps none other => absurd (List.prefix_nil.mp none) other)
      (List.forall_mem_nil _)
  rw [named] at folders shortNames
  rw [place, if_neg (by simp [noNul]), if_neg (by omega), DiskPath.join,
    if_pos resolved.isAbsolute, follow_of_folders resolved.noUp folders,
    if_neg (by simpa using shortNames), named]
  rfl

/-- What a resolved path leads to when there are folders on the way. -/
theorem find_of_folders {p : DiskPath} (resolved : p.IsResolved) (noNul : p.hasNul = false)
    (folders : ∀ ms, ms <+: p.names → ms ≠ p.names → d.item? ms = some .folder)
    {item? : Option Item} (found : d.find p = .ok item?) :
    d.place p = .ok p.names ∧ item? = d.item? p.names := by
  unfold find at found
  rcases place_of_folders resolved noNul folders with led | ⟨q, long⟩
  · rw [led] at found
    cases found
    exact ⟨led, rfl⟩
  · rw [long] at found
    cases found

/-- In a tree, a way to something leads there unless it is too long. -/
theorem IsTree.find (tree : d.IsTree) {p : DiskPath} (resolved : p.IsResolved) {ns : List String}
    (stands : d.item? ns ≠ none) (front : p.names <+: ns) {item? : Option Item}
    (found : d.find p = .ok item?) : d.place p = .ok p.names ∧ item? = d.item? p.names := by
  refine find_of_folders resolved ?_ ?_ found
  · exact List.any_eq_false.mpr fun n hn nul =>
      (tree.isItemName stands n (front.subset hn)).noNul (List.contains_iff_mem.mp nul)
  · intro ms short other
    refine tree.folder_of_prefix stands (short.trans front) ?_
    rintro rfl
    exact other (short.eq_of_length (Nat.le_antisymm short.length_le front.length_le))

/-! ## Clearing a folder -/

theorem isFile_eq_ok {p : DiskPath} {b : Bool} (h : d.isFile p = .ok b) :
    ∃ item?, d.find p = .ok item? ∧
      (b = false → ∀ content time, item? ≠ some (.file content time)) := by
  unfold isFile at h
  cases found : d.find p with
  | error e =>
      rw [found] at h
      cases h
  | ok item? =>
      refine ⟨item?, rfl, ?_⟩
      rintro rfl content time rfl
      rw [found] at h
      cases h

/-- Clearing a folder takes away what stands at and below it, and is refused for a
file. -/
theorem removeFolder_items (tree : d.IsTree) {p : DiskPath} (resolved : p.IsResolved)
    (h : d.removeFolder p = .ok d') :
    (∀ content time, d.item? p.names ≠ some (.file content time)) ∧
      d'.items = d.items.filter fun i => !p.names.isPrefixOf i.1 := by
  unfold removeFolder at h
  cases asked : d.isFile p with
  | error e =>
      rw [asked] at h
      cases h
  | ok isFile =>
      rw [asked] at h
      cases isFile with
      | true => cases h
      | false =>
          cases h
          obtain ⟨item?, found, notFile⟩ := isFile_eq_ok asked
          refine ⟨fun content time file => ?_, ?_⟩
          · have stands : d.item? p.names ≠ none := by simp [file]
            refine notFile rfl content time ?_
            rw [(tree.find resolved stands (List.prefix_refl _) found).2, file]
          unfold removeAll
          split
          · rename_i e nowhere
            refine (List.filter_eq_self.mpr fun i hi => ?_).symm
            rw [Bool.not_eq_true', ← Bool.not_eq_true, List.isPrefixOf_iff_prefix]
            -- an item below the path would make it lead there
            intro front
            have stands := item?_ne_none_of_mem tree.distinct hi
            rw [(tree.find resolved stands front found).1] at nowhere
            cases nowhere
          · rename_i names led
            rw [place_eq_spot led, spot_of_resolved d resolved]

theorem removeFolder_item? (tree : d.IsTree) {p : DiskPath} (resolved : p.IsResolved)
    (inner : p.names ≠ []) (h : d.removeFolder p = .ok d') (ns : List String) :
    d'.item? ns = if p.names <+: ns then none else d.item? ns := by
  cases ns with
  | nil => rw [item?_nil, item?_nil, if_neg fun none => inner (List.prefix_nil.mp none)]
  | cons n ns =>
      rw [item?_of_items_filter (fun ns => !p.names.isPrefixOf ns)
        (removeFolder_items tree resolved h).2 (List.cons_ne_nil n ns)]
      by_cases front : p.names <+: n :: ns
      · rw [if_pos front, List.isPrefixOf_iff_prefix.mpr front, if_neg (by simp)]
      · rw [if_neg front, Bool.eq_false_iff.mpr (mt List.isPrefixOf_iff_prefix.mp front),
          if_pos (by simp)]

theorem removeFolder_distinct (tree : d.IsTree) {p : DiskPath} (resolved : p.IsResolved)
    (h : d.removeFolder p = .ok d') : d'.Distinct := by
  rw [Distinct, (removeFolder_items tree resolved h).2]
  exact tree.distinct.sublist (List.filter_sublist.map _)

/-! ## Making folders -/

theorem put_distinct (distinct : d.Distinct) (names : List String) (i : Item) :
    (d.put names i).Distinct := by
  rw [Distinct, put, List.map_append, List.nodup_append']
  refine ⟨distinct.sublist (List.filter_sublist.map _), List.nodup_singleton _, ?_⟩
  simp

theorem makeFolder_distinct {p : DiskPath} (h : d.makeFolder p = .ok d')
    (distinct : d.Distinct) : d'.Distinct :=
  makeTo_keeps (R := fun d d' => d.Distinct → d'.Distinct) (fun _ => id)
    (fun h h' distinct => h' (h distinct)) (fun _ names _ h => put_distinct h names .folder)
    h distinct

/-! ## Listing a folder -/

theorem mem_below {p : DiskPath} {names : List String} (led : d.place p = .ok names)
    {ns : List String} {i : Item} : (ns, i) ∈ d.below p ↔ ns ≠ [] ∧ (names ++ ns, i) ∈ d.items := by
  unfold below
  rw [led]
  simp only [List.mem_mergeSort, List.mem_map, List.mem_filter, Bool.and_eq_true,
    List.isPrefixOf_iff_prefix, decide_eq_true_eq, Prod.exists, Prod.mk.injEq]
  constructor
  · rintro ⟨ms, j, ⟨item, ⟨rest, rfl⟩, longer⟩, rfl, rfl⟩
    rw [List.drop_left]
    exact ⟨by rintro rfl; simp at longer, item⟩
  · rintro ⟨filled, item⟩
    refine ⟨names ++ ns, i, ⟨item, List.prefix_append _ _, ?_⟩, List.drop_left, rfl⟩
    simpa using List.length_pos_iff.mpr filled

theorem below_nodup (distinct : d.Distinct) (p : DiskPath) :
    ((d.below p).map (·.1)).Nodup := by
  unfold below
  split
  · exact List.nodup_nil
  · rename_i names led
    rw [((List.mergeSort_perm _ _).map _).nodup_iff, List.map_map]
    change (List.map ((·.drop names.length) ∘ fun i : List String × Item => i.1) _).Nodup
    rw [← List.map_map]
    refine (distinct.sublist (List.filter_sublist.map _)).map_on ?_
    simp only [List.mem_map, List.mem_filter, Bool.and_eq_true, List.isPrefixOf_iff_prefix]
    rintro _ ⟨i, ⟨-, ⟨rest, front⟩, -⟩, rfl⟩ _ ⟨j, ⟨-, ⟨rest', front'⟩, -⟩, rfl⟩ same
    rw [← front, ← front', List.drop_left, List.drop_left] at same
    rw [← front, ← front', same]

/-! ## Reading what was written -/

/-- What was written is read. -/
theorem read_of_write {p : DiskPath} {content : Bytes} (h : d.write p content = .ok d') :
    d'.read p = .ok content := by
  obtain ⟨same, stands⟩ := write_ok h
  unfold write writeAt at h
  cases led : d.place p with
  | error e =>
      rw [led] at h
      cases h
  | ok names =>
      have still := same.place_ok led
      rw [standing, ← place_eq_spot still] at stands
      exact read_ok_iff.mpr ⟨_, _, file_of_place still stands⟩

/-- What can be read stands at the spot. -/
theorem standing_of_read {p : DiskPath} {content : Bytes} (h : d.read p = .ok content) :
    ∃ time, d.standing p = some (.file content time) := by
  obtain ⟨names, time, file⟩ := read_ok_iff.mp h
  exact ⟨time, (standing_of_file file).2.2⟩

/-- What is found is at the place that the path leads to. -/
theorem place_of_find {p : DiskPath} {i : Item} (found : d.find p = .ok (some i)) :
    ∃ names, d.place p = .ok names ∧ d.item? names = some i := by
  unfold find at found
  split at found
  · rename_i names led
    exact ⟨names, led, Except.ok.inj found⟩
  · cases found
  · cases found

/-- A file that is there can be read. -/
theorem read_of_isFile {p : DiskPath} (h : d.isFile p = .ok true) :
    ∃ data, d.read p = .ok data := by
  unfold isFile at h
  cases found : d.find p with
  | error e =>
      rw [found] at h
      cases h
  | ok item? =>
      rw [found] at h
      rcases item? with _ | ⟨content, time⟩ | _
      · cases h
      · obtain ⟨names, led, stands⟩ := place_of_find found
        exact ⟨content, read_ok_iff.mpr ⟨names, time, file_of_place led stands⟩⟩
      · cases h

theorem SameBut.read_eq {s : List String → Prop} (same : SameBut s d d') {p : DiskPath}
    (apart : ¬ s (d.spot p)) {content : Bytes} (h : d.read p = .ok content) :
    d'.read p = .ok content := by
  obtain ⟨names, time, file⟩ := read_ok_iff.mp h
  exact read_ok_iff.mpr ⟨names, time, same.file_eq apart file⟩

end PageTemplates.Disk
