import PageTemplates.Compile.Rework
import PageTemplates.Proofs.Markup.Places
import PageTemplates.Proofs.Markup.Planted

/-!
# New nodes among children

A new tree is made first, without a parent, and then put among the children of a node. The
main facts:

* `Grown`: old nodes keep their parents, so what is above one is what was above it;
* `Attached`: new trees stand among the children of a node, and nothing else has changed;
* `attached_last`, `attached_before`: the calls that do it are not refused;
* `Attached.append`, `Attached.inside`: trees beside one another, and below a new one;
* `Attached.tree_parent`, `Attached.tree_apart`: what the old trees become;
* `Attached.givesWay_freed`: a node that is taken out gives way to what was put in front of
  it.
-/

namespace PageTemplates.Markup

namespace Forest

open Relation (ReflTransGen TransGen)

variable {f g k : Forest} {n : Node} {m p q s t : Nat} {front back ss : List Nat}
  {ns : List Node}

/-- There are more nodes, and each of the old ones has the parent that it had. -/
structure Grown (f g : Forest) : Prop where
  sound : g.Sound
  plain : g.Plain
  size : f.cells.size ≤ g.cells.size
  content : ∀ m < f.cells.size, (g.cell m).content = (f.cell m).content
  parent : ∀ m < f.cells.size, g.parentOf m = f.parentOf m

/-- The trees `ns` stand among the children of `p`. Their roots `ss` are new, and all other
children are as before. -/
structure Attached (f : Forest) (p : Nat) (front back : List Nat) (ns : List Node) (ss : List Nat)
    (g : Forest) : Prop extends f.Grown g where
  within : p < f.cells.size
  split : f.childrenOf p = front ++ back
  here : g.childrenOf p = front ++ (ss ++ back)
  others : ∀ m < f.cells.size, m ≠ p → g.childrenOf m = f.childrenOf m
  fresh : ∀ s ∈ ss, f.cells.size ≤ s
  trees : ss.map g.tree = ns

/-! ## Old nodes and new ones -/

theorem Grown.refl (h : f.Sound) (plain : f.Plain) : f.Grown f where
  sound := h
  plain := plain
  size := Nat.le_refl _
  content _ _ := rfl
  parent _ _ := rfl

theorem Attached.refl (h : f.Sound) (plain : f.Plain) (within : p < f.cells.size)
    (split : f.childrenOf p = front ++ back) : f.Attached p front back [] [] f where
  toGrown := .refl h plain
  within := within
  split := split
  here := split
  others _ _ _ := rfl
  fresh := nofun
  trees := rfl

namespace Grown

variable (h : f.Sound) (grown : f.Grown g)

include grown

theorem trans (next : g.Grown k) : f.Grown k where
  sound := next.sound
  plain := next.plain
  size := Nat.le_trans grown.size next.size
  content m old := by rw [next.content m (Nat.lt_of_lt_of_le old grown.size), grown.content m old]
  parent m old := by rw [next.parent m (Nat.lt_of_lt_of_le old grown.size), grown.parent m old]

include h

/-- What is above an old node is old, and was above it. -/
theorem above (old : m < f.cells.size) (chain : ReflTransGen g.HasParent m q) :
    q < f.cells.size ∧ ReflTransGen f.HasParent m q := by
  induction chain with
  | refl => exact ⟨old, .refl⟩
  | tail _ parent ih =>
      rw [HasParent, grown.parent _ ih.1] at parent
      exact ⟨lt_of_mem_childrenOf (h.child parent), ih.2.tail parent⟩

/-- What is below a new node is new. -/
theorem below_new (new : f.cells.size ≤ s) (chain : ReflTransGen g.HasParent m s) :
    f.cells.size ≤ m := by
  by_contra old
  have := (grown.above h (Nat.lt_of_not_le old) chain).1
  omega

end Grown

/-! ## A new root -/

theorem outcome_add (f : Forest) (n : Node) :
    outcome (Relink.add n) f = (.ok (f.addTree none n).1, (f.addTree none n).2) := rfl

/-- The root of a new tree has no parent. -/
theorem root_addTree (h : f.Sound) (plain : f.Plain) (n : Node) :
    (f.addTree none n).2.parentOf (f.addTree none n).1 = none := by
  have there : ∀ p ∈ (none : Option Nat), p < f.cells.size := nofun
  have alone (label : Node) : (f.addCell label none).2.parentOf f.cells.size = none := by
    rw [parentOf, cell_addCell_new label there]
  -- what is added below the root leaves it without a parent
  have branch (label : Node) (bare : label.children = []) (holds : label.canHold)
      (cs : List Node) : ((f.addCell label none).2.addTrees (f.addCell label none).1 cs).parentOf
        (f.addCell label none).1 = none := by
    have fertile : (f.addCell label none).2.Fertile (some f.cells.size) := by
      rintro p ⟨⟩
      rw [cell_addCell_new label there, (f.addCell_size label none).2]
      exact ⟨Nat.lt_succ_self _, holds⟩
    obtain ⟨ns, inner⟩ := addTrees_planted cs (h.addCell label there)
      (plain.addCell bare nofun) fertile
    have root := alone label
    rw [parentOf] at root
    rw [(f.addCell_size label none).1, parentOf, inner.old _ (fertile _ rfl).1, if_pos rfl]
    exact root
  cases n with
  | document cs => exact branch (.document []) rfl rfl cs
  | element t cs => exact branch (.element t []) rfl rfl cs
  | text | comment | doctype | markup => exact alone _

/-! ## Putting it among children -/

theorem insertIdx_length (front : List Nat) :
    (front ++ back).insertIdx front.length s = front ++ s :: back := by
  induction front with
  | nil => rfl
  | cons c front ih =>
      rw [List.cons_append, List.length_cons, List.insertIdx_succ_cons, ih]
      rfl

/-- Labels and tags stay good where a node is put below one that can hold it. -/
theorem Plain.placed {change : List Nat → List Nat} (plain : g.Plain) (within : p < g.cells.size)
    (holds : (g.cell p).label.canHold) : (g.placed p s change).Plain :=
  plain.of_content (fun m => content_placed g p s m change) fun m some => by
    rw [childrenOf_placed g s change within] at some
    split at some
    · rename_i same
      rwa [← same]
    · exact plain.branching m some

section

variable (h : f.Sound) (plain : f.Plain) (within : p < f.cells.size)
  (holds : (f.cell p).label.canHold)

include h plain within holds

theorem attached_placed {change : List Nat → List Nat} (n : Node)
    (split : f.childrenOf p = front ++ back)
    (put : change (front ++ back) = front ++ (f.addTree none n).1 :: back) :
    f.Attached p front back [n] [(f.addTree none n).1]
      ((f.addTree none n).2.placed p (f.addTree none n).1 change) := by
  have planted := addTree_planted n h plain (nofun : f.Fertile none)
  have root := root_addTree h plain n
  generalize (f.addTree none n).1 = s, (f.addTree none n).2 = g at planted root put ⊢
  have kept {m : Nat} (old : m < f.cells.size) : g.cell m = f.cell m := by
    rw [planted.old m old, if_neg nofun]
  obtain ⟨new, last⟩ := planted.new s List.mem_cons_self s (mem_walk_self planted.sound s)
  have children : g.childrenOf p = front ++ back := by
    rw [childrenOf_of_cell (kept within), split]
  have there : p < g.cells.size := Nat.lt_of_lt_of_le within planted.grown
  have above_old {m : Nat} (below : ReflTransGen g.HasParent m s) : f.cells.size ≤ m :=
    (planted.new s List.mem_cons_self m ((mem_walk_iff planted.sound).mpr below)).1
  -- a new root has nothing old below it, so that no cycle is closed
  have apart : ¬ ReflTransGen g.HasParent p s := fun below =>
    Nat.not_le_of_lt within (above_old below)
  have sound : (g.placed p s change).Sound := by
    refine ⟨planted.sound.consistent.placed last there root ?_, planted.sound.acyclic.placed last apart⟩
    rw [children, put]
    exact List.perm_middle
  have plain' : (g.placed p s change).Plain := by
    refine planted.plain.placed there ?_
    rwa [kept within]
  refine
    { sound, plain := plain', within, split
      size := by rw [size_placed]; exact planted.grown
      content := fun m old => by rw [content_placed, kept old]
      parent := fun m old => ?_
      here := ?_
      others := fun m old other => ?_
      fresh := fun s' mem => by rwa [List.mem_singleton.mp mem]
      trees := ?_ }
  · rw [parentOf_placed g change last, if_neg (by omega), parentOf, kept old]
    rfl
  · rw [childrenOf_placed g s change there, if_pos rfl, children, put]
    rfl
  · rw [childrenOf_placed g s change there, if_neg (Ne.symm other), childrenOf_of_cell (kept old)]
  · -- below the new root nothing but its parent has changed
    have tree : (g.placed p s change).tree s = g.tree s := by
      refine tree_of_tagged planted.sound planted.plain sound plain' fun m below => ?_
      have := above_old below
      refine ⟨tagged_of_content (content_placed g p s m change), ?_⟩
      rw [childrenOf_placed g s change there, if_neg (by omega)]
    rw [List.map_singleton, tree]
    exact planted.trees

/-- A new tree becomes the last child. -/
theorem attached_last (n : Node) : ∃ g,
    outcome (Relink.append p (f.addTree none n).1) (f.addTree none n).2 = (.ok (), g) ∧
      f.Attached p (f.childrenOf p) [] [n] [(f.addTree none n).1] g := by
  have planted := addTree_planted n h plain (nofun : f.Fertile none)
  refine ⟨_, outcome_append planted.sound.consistent p _, ?_⟩
  rw [freed, root_addTree h plain n]
  exact attached_placed h plain within holds n (List.append_nil _).symm (by simp)

/-- A new tree is put in front of a child. -/
theorem attached_before (n : Node) (split : f.childrenOf p = front ++ m :: back) : ∃ g,
    outcome (Relink.insert p (f.addTree none n).1 m) (f.addTree none n).2 = (.ok (), g) ∧
      f.Attached p front (m :: back) [n] [(f.addTree none n).1] g := by
  have planted := addTree_planted n h plain (nofun : f.Fertile none)
  have children : (f.addTree none n).2.childrenOf p = front ++ m :: back := by
    rw [← split]
    refine childrenOf_of_cell ?_
    rw [planted.old p within, if_neg nofun]
  have here : (front ++ m :: back).idxOf m = front.length := by
    rw [List.idxOf_append_of_notMem (planted.sound.notMem_of_split children).1,
      List.idxOf_cons_self, Nat.add_zero]
  have run := outcome_insert planted.sound.consistent p (f.addTree none n).1 m
  rw [freed, root_addTree h plain n, children, if_pos (List.mem_append_right _ List.mem_cons_self),
    here] at run
  refine ⟨_, run, attached_placed h plain within holds n split ?_⟩
  exact insertIdx_length _

end

/-! ## Trees -/

namespace Attached

variable (attached : f.Attached p front back ns ss g) (h : f.Sound) (plain : f.Plain)

include attached h plain

/-- A tree that the parent is not in stays the same. -/
theorem tree_apart (old : q < f.cells.size) (apart : ¬ ReflTransGen f.HasParent p q) :
    g.tree q = f.tree q := by
  refine tree_of_tagged h plain attached.sound attached.plain fun m below => ?_
  have old : m < f.cells.size := by
    rcases Relation.reflTransGen_iff_eq_or_transGen.mp below with rfl | strictly
    · exact old
    · exact lt_of_below strictly
  have other : m ≠ p := by
    rintro rfl
    exact apart below
  exact ⟨tagged_of_content (attached.content m old), attached.others m old other⟩

/-- The tree of the parent has the new trees among its children. -/
theorem tree_parent :
    g.tree p = (f.tree p).mapChildren fun _ => front.map f.tree ++ (ns ++ back.map f.tree) := by
  have kept : ∀ c ∈ f.childrenOf p, g.tree c = f.tree c := fun c child =>
    attached.tree_apart h plain (lt_of_parentOf (h.hasParent child))
      (not_above_child h (h.hasParent child))
  have before : front.map g.tree = front.map f.tree := List.map_congr_left fun c mem =>
    kept c (attached.split ▸ List.mem_append_left _ mem)
  have after : back.map g.tree = back.map f.tree := List.map_congr_left fun c mem =>
    kept c (attached.split ▸ List.mem_append_right _ mem)
  rw [tree_eq attached.sound attached.plain, tree_eq h plain, Node.mapChildren_mapChildren,
    tagged_of_content (attached.content p attached.within), attached.here, List.map_append,
    List.map_append, before, after, attached.trees]

omit plain in
/-- Outside of the parent nothing changes. -/
theorem givesWay : f.GivesWay p [p] g :=
  givesWay_of_outside (fun m old _ => attached.content m old) fun m old outside => by
    refine attached.others m old ?_
    rintro rfl
    exact outside (mem_walk_self h m)

omit h plain in
/-- More trees next to the new ones. -/
theorem append {ms : List Node} {ts : List Nat}
    (next : g.Attached p (front ++ ss) back ms ts k) :
    f.Attached p front back (ns ++ ms) (ss ++ ts) k where
  toGrown := attached.toGrown.trans next.toGrown
  within := attached.within
  split := attached.split
  here := by rw [next.here, List.append_assoc, List.append_assoc]
  others m old other := by
    rw [next.others m (Nat.lt_of_lt_of_le old attached.size) other, attached.others m old other]
  fresh s mem := by
    rcases List.mem_append.mp mem with mem | mem
    · exact attached.fresh s mem
    · exact Nat.le_trans attached.size (next.fresh s mem)
  trees := by
    have kept : ∀ s ∈ ss, k.tree s = g.tree s := fun s mem => by
      have child : g.HasParent s p := attached.sound.hasParent
        (attached.here ▸ List.mem_append_right _ (List.mem_append_left _ mem))
      exact next.tree_apart attached.sound attached.plain (lt_of_parentOf child)
        (not_above_child attached.sound child)
    rw [List.map_append, List.map_congr_left kept, attached.trees, next.trees]

end Attached

/-- Trees below a new one. -/
theorem Attached.inside {front' back' ts : List Nat} {ms : List Node}
    (attached : f.Attached p front back [n] [s] g) (next : g.Attached s front' back' ms ts k) :
    f.Attached p front back [k.tree s] [s] k := by
  have other : p ≠ s := by
    have := attached.fresh s List.mem_cons_self
    have := attached.within
    omega
  refine
    { toGrown := attached.toGrown.trans next.toGrown
      within := attached.within
      split := attached.split
      here := ?_
      others := fun m old apart => ?_
      fresh := attached.fresh
      trees := rfl }
  · rw [next.others p (Nat.lt_of_lt_of_le attached.within attached.size) other, attached.here]
  · have := attached.fresh s List.mem_cons_self
    rw [next.others m (Nat.lt_of_lt_of_le old attached.size) (by omega),
      attached.others m old apart]

/-! ## Giving way to new nodes -/

theorem Sound.freed (h : f.Sound) (t : Nat) : (f.freed t).Sound :=
  ⟨h.consistent.freed t, h.acyclic.mono fun _ _ => hasParent_of_freed⟩

theorem Plain.freed (plain : f.Plain) (h : f.Sound) (t : Nat) : (f.freed t).Plain :=
  plain.of_content (content_freed f t) fun m some => plain.branching m fun none => some <| by
    rw [childrenOf_freed h.consistent, none]
    rfl

section

variable (attached : f.Attached p front (t :: back) ns ss g) (h : f.Sound)

include attached h

/-- A node that is taken out gives way to what was put in front of it. -/
theorem Attached.givesWay_freed : f.GivesWay t ss (g.freed t) where
  content m old _ := by rw [content_freed, attached.content m old]
  children m old _ := by
    obtain ⟨first, last⟩ := h.notMem_of_split attached.split
    have child := h.hasParent_of_split attached.split
    have kept {l : List Nat} (absent : t ∉ l) : l.filter (· ≠ t) = l :=
      List.filter_eq_self.mpr fun c mem => decide_eq_true fun same => absent (same ▸ mem)
    rw [childrenOf_freed attached.sound.consistent]
    by_cases here : m = p
    · subst here
      have new : t ∉ ss := fun mem =>
        Nat.not_lt_of_le (attached.fresh t mem) (lt_of_parentOf child)
      rw [attached.here, attached.split, List.filter_append, List.filter_append,
        List.filter_cons_of_neg (by simp), kept first, kept new, kept last,
        List.flatMap_append, List.flatMap_cons, if_pos rfl, flatMap_of_notMem first,
        flatMap_of_notMem last]
    · have absent : t ∉ f.childrenOf m := fun mem =>
        here (hasParent_unique (h.hasParent mem) child)
      rw [attached.others m old here, kept absent, flatMap_of_notMem absent]

theorem Attached.trees_freed : ss.map (g.freed t).tree = ns := by
  have old := lt_of_parentOf (h.hasParent_of_split attached.split)
  rw [← attached.trees]
  refine List.map_congr_left fun s mem => ?_
  refine tree_of_tagged attached.sound attached.plain (attached.sound.freed t)
    (attached.plain.freed attached.sound t) fun m below => ?_
  refine ⟨tagged_of_content (content_freed g t m), ?_⟩
  rw [childrenOf_freed attached.sound.consistent]
  refine List.filter_eq_self.mpr fun c inner => decide_eq_true ?_
  rintro rfl
  -- below a new root everything is new
  have new := attached.toGrown.below_new h (attached.fresh s mem)
    (.head (attached.sound.hasParent inner) below)
  omega

end

end Forest

end PageTemplates.Markup
