import PageTemplates.Proofs.Markup.Walked

/-!
# Trees as linked nodes

A tree that is added to linked nodes can be read back from them. The main facts:

* `Planted`: what adding trees leaves as it was, and what is new;
* `Planted.cons`, `Planted.below`: trees one after the other, and trees below a new node;
* `tree_addTree`: every tree is the tree of linked nodes.
-/

namespace PageTemplates.Markup

namespace Forest

open Relation (ReflTransGen)

variable {f g : Forest} {p m i : Nat} {parent : Option Nat} {ns : List Nat} {cs : List Node}

/-- A node with more children. -/
def withChildren (f : Forest) (m : Nat) (ns : List Nat) : Cell :=
  { f.cell m with children := f.childrenOf m ++ ns }

/-- The trees `cs` were added below `parent`, and `ns` are their roots. All their nodes are
new, and of the old ones only `parent` has changed. -/
structure Planted (f : Forest) (parent : Option Nat) (ns : List Nat) (cs : List Node)
    (g : Forest) : Prop where
  sound : g.Sound
  plain : g.Plain
  grown : f.cells.size ≤ g.cells.size
  old : ∀ m < f.cells.size, g.cell m = if parent = some m then f.withChildren m ns else f.cell m
  new : ∀ n ∈ ns, ∀ m ∈ g.walk n, f.cells.size ≤ m ∧ m < g.cells.size
  trees : ns.map g.tree = cs

/-- What is to be given children is there, and can hold them. -/
def Fertile (f : Forest) (parent : Option Nat) : Prop :=
  ∀ p ∈ parent, p < f.cells.size ∧ (f.cell p).label.canHold

theorem Planted.nil (h : f.Sound) (plain : f.Plain) (parent : Option Nat) :
    f.Planted parent [] [] f where
  sound := h
  plain := plain
  grown := Nat.le_refl _
  old m _ := by
    rw [withChildren, List.append_nil]
    exact (ite_self _).symm
  new := nofun
  trees := rfl

theorem Planted.label (planted : f.Planted parent ns cs g) (old : m < f.cells.size) :
    (g.cell m).label = (f.cell m).label := by
  rw [planted.old m old]
  split <;> rfl

theorem Planted.fertile (planted : f.Planted parent ns cs g) (fertile : f.Fertile parent) :
    g.Fertile parent := by
  intro p there
  obtain ⟨within, holds⟩ := fertile p there
  exact ⟨Nat.lt_of_lt_of_le within planted.grown, by rwa [planted.label within]⟩

/-- Trees that were added keep their nodes when others are added to the same parent. -/
theorem Planted.kept {g' : Forest} {ns' : List Nat} {cs' : List Node}
    (fertile : f.Fertile parent) (first : f.Planted parent ns cs g)
    (next : g.Planted parent ns' cs' g') (mem : i ∈ ns) (below : ReflTransGen g.HasParent m i) :
    g'.cell m = g.cell m := by
  obtain ⟨new, within⟩ := first.new i mem m ((mem_walk_iff first.sound).mpr below)
  rw [next.old m within, if_neg]
  intro same
  have old := (fertile m same).1
  omega

/-- Trees are added one after the other. -/
theorem Planted.cons {g' : Forest} {c : Node} (fertile : f.Fertile parent)
    (first : f.Planted parent [i] [c] g) (next : g.Planted parent ns cs g') :
    f.Planted parent (i :: ns) (c :: cs) g' where
  sound := next.sound
  plain := next.plain
  grown := Nat.le_trans first.grown next.grown
  old m old := by
    rw [next.old m (Nat.lt_of_lt_of_le old first.grown), withChildren, childrenOf, first.old m old]
    split
    · rw [withChildren, withChildren, List.append_assoc]
      rfl
    · rfl
  -- the parent is an old node, so the trees after the first leave the first as it is
  new n mem m visited := by
    have := next.grown
    have := first.grown
    rcases List.mem_cons.mp mem with rfl | mem
    · have same := walk_congr first.sound next.sound fun m below =>
        first.kept fertile next List.mem_cons_self below
      rw [same] at visited
      obtain ⟨new, within⟩ := first.new n List.mem_cons_self m visited
      omega
    · obtain ⟨new, within⟩ := next.new n mem m visited
      omega
  trees := by
    have same : g'.tree i = g.tree i := tree_congr first.sound first.plain next.sound next.plain
      fun m below => first.kept fertile next List.mem_cons_self below
    have tree : g.tree i = c := List.singleton_inj.mp first.trees
    rw [List.map_cons, same, tree, next.trees]

/-! ## A new node -/

section

variable {label : Node}

theorem cell_addCell_new (label : Node) (there : ∀ p ∈ parent, p < f.cells.size) :
    (f.addCell label parent).2.cell f.cells.size = { label, tag := label.tag, parent } := by
  have pushed : ({ cells := f.cells.push { label, tag := label.tag, parent } } : Forest).cell
      f.cells.size = { label, tag := label.tag, parent } := by simp [cell]
  cases parent with
  | none => exact pushed
  | some p =>
      show (Forest.update _ p _).cell _ = _
      rw [cell_update, if_neg fun both => Nat.ne_of_lt (there p rfl) both.1, pushed]

theorem cell_addCell_old (label : Node) (old : m < f.cells.size) :
    (f.addCell label parent).2.cell m =
      if parent = some m then f.withChildren m [f.cells.size] else f.cell m := by
  have pushed (c : Cell) : ({ cells := f.cells.push c } : Forest).cell m = f.cell m := by
    simp [cell, Array.getElem?_push, Nat.ne_of_lt old]
  cases parent with
  | none => exact pushed _
  | some p =>
      show (Forest.update _ p _).cell m = _
      rw [cell_update, pushed, Array.size_push]
      by_cases same : p = m
      · rw [if_pos ⟨same, by omega⟩, if_pos (congrArg some same)]
        rfl
      · rw [if_neg fun both => same both.1, if_neg fun both => same (Option.some.inj both)]

/-- A node stays as it was, is given a child, or is the new one. -/
theorem cell_addCell_cases (label : Node) (there : ∀ p ∈ parent, p < f.cells.size) (n : Nat) :
    (f.addCell label parent).2.cell n = f.cell n ∨
      parent = some n ∧ (f.addCell label parent).2.cell n = f.withChildren n [f.cells.size] ∨
      (f.addCell label parent).2.cell n = { label, tag := label.tag, parent } := by
  rcases Nat.lt_trichotomy n f.cells.size with old | rfl | outside
  · rw [cell_addCell_old label old]
    split
    · exact .inr (.inl ⟨‹_›, rfl⟩)
    · exact .inl rfl
  · exact .inr (.inr (cell_addCell_new label there))
  · have size := (f.addCell_size label parent).2
    rw [cell_of_size_le (by omega : (f.addCell label parent).2.cells.size ≤ n),
      cell_of_size_le (by omega : f.cells.size ≤ n)]
    exact .inl rfl

theorem Plain.addCell (plain : f.Plain) (bare : label.children = [])
    (fertile : f.Fertile parent) : (f.addCell label parent).2.Plain := by
  have cases := cell_addCell_cases label fun p mem => (fertile p mem).1
  refine ⟨fun n => ?_, fun n element => ?_, fun n some => ?_⟩
  -- a node is as before, is the parent with one child more, or is the new one
  · rcases cases n with same | ⟨-, given⟩ | new
    · rw [same]
      exact plain.bare n
    · rw [given]
      exact plain.bare n
    · rw [new]
      exact bare
  · rcases cases n with same | ⟨-, given⟩ | new
    · rw [same] at element ⊢
      exact plain.named n element
    · rw [given] at element ⊢
      exact plain.named n element
    · rw [new] at element ⊢
      cases label with
      | element => rfl
      | document | text | comment | doctype | markup => cases element
  · rw [childrenOf] at some
    rcases cases n with same | ⟨mem, given⟩ | new
    · rw [same] at some ⊢
      exact plain.branching n some
    · rw [given]
      exact (fertile n mem).2
    · rw [new] at some
      exact absurd rfl some

/-- A new node with what is added below it. -/
theorem Planted.below (there : ∀ p ∈ parent, p < f.cells.size)
    (inner : (f.addCell label parent).2.Planted (some f.cells.size) ns cs g) :
    f.Planted parent [f.cells.size]
      [(label.mapTag fun _ => label.tag).mapChildren fun _ => cs] g := by
  have size := (f.addCell_size label parent).2
  have grown := inner.grown
  have root : g.cell f.cells.size = { label, tag := label.tag, parent, children := ns } := by
    rw [inner.old _ (by omega), if_pos rfl, withChildren, childrenOf, cell_addCell_new label there]
    rfl
  refine ⟨inner.sound, inner.plain, by omega, fun m old => ?_, fun n mem m visited => ?_, ?_⟩
  · have other : ¬ some f.cells.size = some m := fun same =>
      Nat.ne_of_lt old (Option.some.inj same).symm
    rw [inner.old m (by omega), if_neg other, cell_addCell_old label old]
  · cases List.mem_singleton.mp mem
    rw [walk_eq inner.sound, childrenOf, root] at visited
    rcases List.mem_cons.mp visited with rfl | visited
    · omega
    · obtain ⟨c, child, visited⟩ := List.mem_flatMap.mp visited
      obtain ⟨new, within⟩ := inner.new c child m visited
      omega
  · rw [List.map_singleton, tree_eq inner.sound inner.plain, tagged, childrenOf, root, inner.trees]

end

section

variable (h : f.Sound) (plain : f.Plain) (fertile : f.Fertile parent) (label : Node)
  (bare : label.children = [])

include h plain fertile bare

/-- A new node gets trees below it. -/
theorem planted_branch (holds : label.canHold)
    (rest : ∀ {g : Forest} {p : Nat}, g.Sound → g.Plain → g.Fertile (some p) →
      ∃ ns, g.Planted (some p) ns cs (g.addTrees p cs)) :
    f.Planted parent [(f.addCell label parent).1]
      [(label.mapTag fun _ => label.tag).mapChildren fun _ => cs]
      ((f.addCell label parent).2.addTrees (f.addCell label parent).1 cs) := by
  have there : ∀ p ∈ parent, p < f.cells.size := fun p mem => (fertile p mem).1
  obtain ⟨number, size⟩ := f.addCell_size label parent
  have fertile' : (f.addCell label parent).2.Fertile (some f.cells.size) := by
    rintro p ⟨⟩
    rw [cell_addCell_new label there]
    exact ⟨by omega, holds⟩
  obtain ⟨ns, inner⟩ := rest (h.addCell label there) (plain.addCell bare fertile) fertile'
  rw [number]
  exact inner.below there

theorem planted_leaf : f.Planted parent [(f.addCell label parent).1]
    [(label.mapTag fun _ => label.tag).mapChildren fun _ => []] (f.addCell label parent).2 := by
  have there : ∀ p ∈ parent, p < f.cells.size := fun p mem => (fertile p mem).1
  rw [(f.addCell_size label parent).1]
  exact (Planted.nil (h.addCell label there) (plain.addCell bare fertile) _).below there

end

mutual

/-- The nodes of a tree are that tree. -/
theorem addTree_planted : ∀ (n : Node) {f : Forest} {parent : Option Nat}, f.Sound → f.Plain →
    f.Fertile parent → f.Planted parent [(f.addTree parent n).1] [n] (f.addTree parent n).2
  | .document cs, _, _, h, plain, fertile =>
      planted_branch h plain fertile (.document []) rfl rfl (addTrees_planted cs)
  | .element _ cs, _, _, h, plain, fertile =>
      planted_branch h plain fertile (.element _ []) rfl rfl (addTrees_planted cs)
  | .text _, _, _, h, plain, fertile => planted_leaf h plain fertile _ rfl
  | .comment _, _, _, h, plain, fertile => planted_leaf h plain fertile _ rfl
  | .doctype _, _, _, h, plain, fertile => planted_leaf h plain fertile _ rfl
  | .markup _, _, _, h, plain, fertile => planted_leaf h plain fertile _ rfl

theorem addTrees_planted : ∀ (cs : List Node) {f : Forest} {p : Nat}, f.Sound → f.Plain →
    f.Fertile (some p) → ∃ ns, f.Planted (some p) ns cs (f.addTrees p cs)
  | [], f, p, h, plain, _ => ⟨[], .nil h plain (some p)⟩
  | c :: cs, f, p, h, plain, fertile => by
      have first := addTree_planted c h plain fertile
      obtain ⟨ns, rest⟩ := addTrees_planted cs first.sound first.plain (first.fertile fertile)
      exact ⟨_, first.cons fertile rest⟩

end

theorem plain_empty : ({} : Forest).Plain where
  bare _ := rfl
  named _ := nofun
  branching _ some := absurd rfl some

/-- Every tree is the tree of linked nodes. -/
theorem tree_addTree (n : Node) :
    (addTree {} none n).2.Sound ∧ (addTree {} none n).2.Plain ∧
      (addTree {} none n).2.tree (addTree {} none n).1 = n := by
  have planted := addTree_planted n sound_empty plain_empty (nofun : Fertile {} none)
  exact ⟨planted.sound, planted.plain, List.singleton_inj.mp planted.trees⟩

end Forest

end PageTemplates.Markup
