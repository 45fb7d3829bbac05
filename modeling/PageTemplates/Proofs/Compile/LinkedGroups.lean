import PageTemplates.Compile.Rework
import PageTemplates.Proofs.Compile.Grouping
import PageTemplates.Proofs.Markup.Walked

/-!
# Grouping branches of linked nodes

Branches are joined among the children of a node first and then below each of them. No link
changes. The main facts:

* `Retagged`: nodes that may have got other tags of the same names;
* `joinAmong_groups`: among siblings, the branches are joined that `group` joins;
* `groupTo_groups`: below a node, the tree becomes the one that `group` makes.
-/

namespace PageTemplates.Markup.Forest

open Relation (ReflTransGen TransGen)

open Compile (join)

variable {f g k : Forest} {b c d i m n : Nat} {cs : List Nat} {opened : Bool}

/-- Some nodes have other tags, of the same names. -/
structure Retagged (f g : Forest) : Prop where
  size : g.cells.size = f.cells.size
  label : ∀ m, (g.cell m).label = (f.cell m).label
  named : ∀ m, (g.cell m).tag.name = (f.cell m).tag.name
  links : f.SameLinks g

namespace Retagged

theorem refl (f : Forest) : f.Retagged f where
  size := rfl
  label _ := rfl
  named _ := rfl
  links _ := ⟨rfl, rfl⟩

theorem trans (first : f.Retagged g) (next : g.Retagged k) : f.Retagged k where
  size := next.size.trans first.size
  label m := (next.label m).trans (first.label m)
  named m := (next.named m).trans (first.named m)
  links m := ⟨(next.links m).1.trans (first.links m).1, (next.links m).2.trans (first.links m).2⟩

variable (retagged : f.Retagged g)

include retagged

theorem sound (h : f.Sound) : g.Sound := h.of_sameLinks retagged.links

theorem plain (plain : f.Plain) : g.Plain where
  bare m := by rw [retagged.label]; exact plain.bare m
  named m element := by
    rw [retagged.label] at element ⊢
    rw [retagged.named]
    exact plain.named m element
  branching m some := by
    rw [(retagged.links m).2] at some
    rw [retagged.label]
    exact plain.branching m some

theorem hasParent : g.HasParent = f.HasParent := by
  funext m p
  rw [HasParent, HasParent, (retagged.links m).1]

/-- A tree stays the same if all tags in it do. -/
theorem tree (h : f.Sound) (plain : f.Plain)
    (same : ∀ m, ReflTransGen f.HasParent m n → g.cell m = f.cell m) : g.tree n = f.tree n :=
  tree_congr h plain (retagged.sound h) (retagged.plain plain) same

end Retagged

/-! ## Among siblings -/

/-- Joins a branch to the one before it. -/
def joined (f : Forest) (i : Nat) : Forest := f.update i fun c => { c with tag := join c.tag }

/-- Whether a sibling is joined to a choice, and whether the choice goes on behind it. -/
def joinStep (opened : Bool) (n : Node) : Bool × Bool :=
  if opened && Compile.isGap n then (false, true)
  else if n.isCompapply then if opened then (true, true) else (false, n.name != "script")
  else (false, false)

theorem joinAmong_cons (opened : Bool) (i : Nat) (is : List Nat) (f : Forest) :
    f.joinAmong opened (i :: is) =
      (if (joinStep opened (f.tagged i)).1 then f.joined i else f).joinAmong
        (joinStep opened (f.tagged i)).2 is := by
  rw [joinAmong, joinStep]
  split
  · rfl
  split
  · split <;> rfl
  · rfl

theorem group_cons_joinStep (opened : Bool) (c : Node) (cs : List Node) :
    Compile.group opened (c :: cs) =
      (if (joinStep opened c).1 then (Compile.Node.group c).mapTag join else Compile.Node.group c) ::
        Compile.group (joinStep opened c).2 cs := by
  rw [Compile.group, joinStep]
  split
  · rfl
  split
  · split <;> rfl
  · rfl

theorem joinStep_mapChildren (opened : Bool) (n : Node) (change : List Node → List Node) :
    joinStep opened (n.mapChildren change) = joinStep opened n := by
  cases n <;> rfl

theorem joinStep_tree (h : f.Sound) (plain : f.Plain) (opened : Bool) (n : Nat) :
    joinStep opened (f.tree n) = joinStep opened (f.tagged n) := by
  rw [tree_eq h plain, joinStep_mapChildren]

theorem cell_joined_ne (other : m ≠ i) : (f.joined i).cell m = f.cell m := by
  rw [joined, cell_update, if_neg fun both => other both.1.symm]

theorem retagged_joined (f : Forest) (i : Nat) : f.Retagged (f.joined i) where
  size := size_update _ _ _
  label m := by
    rw [joined, cell_update]
    split <;> rfl
  named m := by
    rw [joined, cell_update]
    split
    · exact Compile.name_join _
    · rfl
  links m := by
    unfold parentOf childrenOf
    rw [joined, cell_update]
    split <;> exact ⟨rfl, rfl⟩

theorem tagged_joined (within : i < f.cells.size) :
    (f.joined i).tagged i = (f.tagged i).mapTag join := by
  rw [tagged, tagged, joined, cell_update, if_pos ⟨rfl, within⟩]
  cases (f.cell i).label <;> rfl

theorem group_mapTag_join (n : Node) :
    Compile.Node.group (n.mapTag join) = (Compile.Node.group n).mapTag join := by
  cases n with
  | element t cs =>
      rw [Node.mapTag, Compile.Node.group, Compile.Node.group, Compile.name_join]
      split <;> rfl
  | document | text | comment | doctype | markup => rfl

theorem mapChildren_mapTag (n : Node) (a : Tag → Tag) (change : List Node → List Node) :
    (n.mapTag a).mapChildren change = (n.mapChildren change).mapTag a := by
  cases n <;> rfl

/-- Neither of two nodes is at or below the other. -/
def Apart (f : Forest) (a b : Nat) : Prop :=
  ¬ ReflTransGen f.HasParent a b ∧ ¬ ReflTransGen f.HasParent b a

theorem tree_joined (h : f.Sound) (plain : f.Plain) (within : i < f.cells.size) :
    (f.joined i).tree i = (f.tree i).mapTag join := by
  have retagged := f.retagged_joined i
  rw [tree_eq (retagged.sound h) (retagged.plain plain), tree_eq h plain, tagged_joined within,
    (retagged.links i).2, mapChildren_mapTag]
  congr 2
  funext _
  refine List.map_congr_left fun c child => retagged.tree h plain fun m below => ?_
  refine cell_joined_ne ?_
  rintro rfl
  exact not_above_child h (h.hasParent child) below

/-- Among siblings that are apart, the branches are joined that are joined in their trees. -/
theorem joinAmong_groups (opened : Bool) (h : f.Sound) (plain : f.Plain) (apart : cs.Pairwise f.Apart)
    (within : ∀ c ∈ cs, c < f.cells.size) :
    f.Retagged (f.joinAmong opened cs) ∧
      (∀ m, m ∉ cs → (f.joinAmong opened cs).cell m = f.cell m) ∧
      cs.map (fun c => Compile.Node.group ((f.joinAmong opened cs).tree c)) =
        Compile.group opened (cs.map f.tree) := by
  induction cs generalizing f opened with
  | nil => exact ⟨.refl f, fun _ _ => rfl, rfl⟩
  | cons c cs ih =>
      rw [List.pairwise_cons] at apart
      have there := within c List.mem_cons_self
      rw [joinAmong_cons]
      generalize first : (if (joinStep opened (f.tagged c)).1 then f.joined c else f) = g
      have retagged : f.Retagged g := by
        rw [← first]
        split
        · exact f.retagged_joined c
        · exact .refl f
      have others {m : Nat} (other : m ≠ c) : g.cell m = f.cell m := by
        rw [← first]
        split
        · exact cell_joined_ne other
        · rfl
      have own : Compile.Node.group (g.tree c) =
          if (joinStep opened (f.tree c)).1 then (Compile.Node.group (f.tree c)).mapTag join
          else Compile.Node.group (f.tree c) := by
        rw [← first, joinStep_tree h plain]
        split
        · rw [tree_joined h plain there, group_mapTag_join]
        · rfl
      have apart' : cs.Pairwise g.Apart := by
        refine apart.2.imp fun far => ?_
        rwa [Apart, retagged.hasParent]
      obtain ⟨rest, frame, groups⟩ := ih (joinStep opened (f.tagged c)).2
        (retagged.sound h) (retagged.plain plain) apart' fun b mem => by
          rw [retagged.size]
          exact within b (List.mem_cons_of_mem c mem)
      -- what is joined later is not at or below this sibling
      have mine := rest.tree (retagged.sound h) (retagged.plain plain) (n := c) fun m below =>
        frame m fun mem => (apart.1 m mem).2 (retagged.hasParent ▸ below)
      have theirs : cs.map g.tree = cs.map f.tree :=
        List.map_congr_left fun b mem => retagged.tree h plain fun m below => others fun same =>
          (apart.1 b mem).1 (same ▸ below)
      refine ⟨retagged.trans rest, fun m absent => ?_, ?_⟩
      · rw [List.mem_cons, not_or] at absent
        rw [frame m absent.2, others absent.1]
      · rw [List.map_cons, List.map_cons, mine, own, groups, theirs, group_cons_joinStep,
          joinStep_tree h plain]

/-! ## Below a node -/

/-- Groups the branches below a node, unless it is a script. -/
def groupBelow (depth : Nat) (f : Forest) (j : Nat) : Forest :=
  if (f.cell j).label.isElement && f.name j != "script" then groupTo depth j f else f

theorem groupTo_succ (depth i : Nat) (f : Forest) : groupTo (depth + 1) i f =
    ((f.joinAmong false (f.childrenOf i)).childrenOf i).foldl (groupBelow depth)
      (f.joinAmong false (f.childrenOf i)) := rfl

theorem Retagged.reaches (retagged : f.Retagged g) (k n : Nat) : g.Reaches k n ↔ f.Reaches k n := by
  induction k generalizing n with
  | zero => exact Iff.rfl
  | succ k ih => simp only [Reaches, (retagged.links n).2, ih]

/-- The branches below a node are grouped, and nothing changes elsewhere. -/
def Groups (f : Forest) (i : Nat) (g : Forest) : Prop :=
  f.Retagged g ∧ (∀ m, ¬ TransGen f.HasParent m i → g.cell m = f.cell m) ∧
    (f.childrenOf i).map g.tree = Compile.group false ((f.childrenOf i).map f.tree)

/-- What becomes of the tree of a node when the branches below it are grouped. -/
theorem groupBelow_groups {depth : Nat} (h : f.Sound) (plain : f.Plain)
    (groups : f.Groups i (groupTo depth i f)) :
    f.Retagged (f.groupBelow depth i) ∧
      (∀ m, ¬ TransGen f.HasParent m i → (f.groupBelow depth i).cell m = f.cell m) ∧
      (f.groupBelow depth i).tree i = Compile.Node.group (f.tree i) := by
  obtain ⟨retagged, frame, inner⟩ := groups
  -- grouping changes what stands below a node, never the node
  have same := frame i (h.acyclic i)
  unfold groupBelow
  cases kind : (f.cell i).label with
  | element t cs =>
      have label : ((groupTo depth i f).cell i).label = .element t cs := by rw [same, kind]
      have tag : (f.cell i).tag.name = f.name i := plain.named i (by rw [kind]; rfl)
      rw [tree_element h plain kind, Compile.Node.group, tag]
      cases script : f.name i == "script" with
      | true =>
          rw [if_neg (by simp [bne, script]), if_pos rfl]
          exact ⟨.refl f, fun _ _ => rfl, tree_element h plain kind⟩
      | false =>
          rw [if_pos (by simp [bne, script, Node.isElement]), if_neg Bool.false_ne_true]
          refine ⟨retagged, frame, ?_⟩
          rw [tree_element (retagged.sound h) (retagged.plain plain) label, same,
            childrenOf_of_cell same, inner]
  | document cs =>
      rw [if_neg (by simp [Node.isElement]), tree_document h plain kind]
      exact ⟨.refl f, fun _ _ => rfl, rfl⟩
  | text s | comment s | doctype s | markup s =>
      have leaf := (tree_leaf h plain (n := i) (by rw [kind]; rfl)).2
      rw [if_neg (by simp [Node.isElement]), leaf, kind]
      exact ⟨.refl f, fun _ _ => rfl, rfl⟩

/-- Below siblings that are apart, the branches are grouped one sibling after the other. -/
theorem groupBelow_siblings (depth : Nat) (h : f.Sound) (plain : f.Plain)
    (apart : cs.Pairwise f.Apart) (ends : ∀ c ∈ cs, ¬ f.Reaches depth c)
    (each : ∀ {f : Forest} {i : Nat}, f.Sound → f.Plain → ¬ f.Reaches depth i →
      f.Groups i (groupTo depth i f)) :
    f.Retagged (cs.foldl (groupBelow depth) f) ∧
      (∀ m, (∀ c ∈ cs, ¬ TransGen f.HasParent m c) →
        (cs.foldl (groupBelow depth) f).cell m = f.cell m) ∧
      cs.map (cs.foldl (groupBelow depth) f).tree =
        cs.map fun c => Compile.Node.group (f.tree c) := by
  induction cs generalizing f with
  | nil => exact ⟨.refl f, fun _ _ => rfl, rfl⟩
  | cons c cs ih =>
      rw [List.pairwise_cons] at apart
      obtain ⟨retagged, frame, own⟩ :=
        groupBelow_groups h plain (each h plain (ends c List.mem_cons_self))
      rw [List.foldl_cons]
      generalize f.groupBelow depth c = g at retagged frame own ⊢
      have apart' : cs.Pairwise g.Apart := by
        refine apart.2.imp fun far => ?_
        rwa [Apart, retagged.hasParent]
      obtain ⟨rest, others, theirs⟩ := ih (retagged.sound h) (retagged.plain plain) apart'
        fun b mem more => ends b (List.mem_cons_of_mem c mem) ((retagged.reaches depth b).mp more)
      rw [retagged.hasParent] at others
      have mine := rest.tree (retagged.sound h) (retagged.plain plain) (n := c) fun m below => by
        rw [retagged.hasParent] at below
        refine others m fun b mem inside => ?_
        -- a node at or below one sibling is not below another
        exact (comparable below inside.to_reflTransGen).elim (apart.1 b mem).1 (apart.1 b mem).2
      have before : ∀ b ∈ cs, g.tree b = f.tree b := fun b mem =>
        retagged.tree h plain fun m below => frame m fun inside =>
          (comparable inside.to_reflTransGen below).elim (apart.1 b mem).1 (apart.1 b mem).2
      refine ⟨retagged.trans rest, fun m absent => ?_, ?_⟩
      · rw [others m fun b mem => absent b (List.mem_cons_of_mem c mem),
          frame m (absent c List.mem_cons_self)]
      · rw [List.map_cons, List.map_cons, mine, own, theirs]
        congr 1
        exact List.map_congr_left fun b mem => by rw [before b mem]

/-- Below a node, branches are grouped as they are in its tree. -/
theorem groupTo_groups (h : f.Sound) (plain : f.Plain) {depth : Nat} (ends : ¬ f.Reaches depth i) :
    f.Groups i (groupTo depth i f) := by
  induction depth generalizing f i with
  | zero => exact absurd trivial ends
  | succ depth ih =>
      -- siblings share nothing below them, so grouping one leaves the others as they are
      have apart : (f.childrenOf i).Pairwise f.Apart := by
        refine (h.consistent.once i).imp_of_mem fun {c b} hc hb other => ?_
        have hc := h.hasParent hc
        have hb := h.hasParent hb
        exact ⟨fun below => siblings_apart h hc hb other .refl below,
          fun below => siblings_apart h hb hc (Ne.symm other) .refl below⟩
      obtain ⟨first, frame, joined⟩ := joinAmong_groups false h plain apart
        fun c child => lt_of_parentOf (h.hasParent child)
      rw [groupTo_succ]
      generalize f.joinAmong false (f.childrenOf i) = g at first frame joined ⊢
      have apart' : (f.childrenOf i).Pairwise g.Apart := by
        refine apart.imp fun far => ?_
        rwa [Apart, first.hasParent]
      rw [(first.links i).2]
      obtain ⟨rest, others, theirs⟩ := groupBelow_siblings depth (first.sound h)
        (first.plain plain) apart' (fun c child more =>
          ends ⟨c, child, (first.reaches depth c).mp more⟩) ih
      rw [first.hasParent] at others
      refine ⟨first.trans rest, fun m outside => ?_, by rw [theirs, joined]⟩
      rw [others m fun c child inside => outside (inside.tail (h.hasParent child))]
      exact frame m fun child => outside (.single (h.hasParent child))

/-- Grouping the branches of a document among linked nodes groups those of its tree. -/
theorem children_tree_groupTo (h : f.Sound) (plain : f.Plain) (d : Nat) :
    f.Retagged (groupTo (f.cells.size + 1) d f) ∧
      ((groupTo (f.cells.size + 1) d f).tree d).children =
        Compile.group false (f.tree d).children := by
  obtain ⟨retagged, -, groups⟩ := groupTo_groups h plain (h.not_reaches d)
  refine ⟨retagged, ?_⟩
  rw [Forest.children_tree (retagged.sound h) (retagged.plain plain), (retagged.links d).2, groups,
    Forest.children_tree h plain]

end PageTemplates.Markup.Forest
