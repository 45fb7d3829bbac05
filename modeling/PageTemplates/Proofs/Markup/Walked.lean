import Mathlib.Data.List.Dedup
import Mathlib.Data.List.Perm.Subperm
import PageTemplates.Proofs.Markup.Linked

/-!
# Document order

Where links are consistent and make no cycle, a way down through the nodes ends before
it is longer than the forest is large, so what is said of the children of each node is
said of all nodes below. The main facts:

* `Sound.downward`: induction from the children to the parent;
* `walk_eq`: a walk is the node, and then the walks of its children;
* `mem_walk_iff`, `nodup_walk`: what is below a node, each once;
* `tree_eq`: a tree is the node with the trees of its children.
-/

namespace PageTemplates.Markup

namespace Node

/-- Whether a node can have others below it. -/
def canHold : Node → Bool
  | document _ | element _ _ => true
  | _ => false

theorem children_mapTag (n : Node) (g : Tag → Tag) : (n.mapTag g).children = n.children := by
  cases n <;> rfl

theorem mapChildren_mapChildren (n : Node) (a b : List Node → List Node) :
    (n.mapChildren a).mapChildren b = n.mapChildren fun cs => b (a cs) := by
  cases n <;> rfl

theorem mapChildren_of_bare {n : Node} (bare : n.children = []) :
    (n.mapChildren fun _ => []) = n := by
  cases n with
  | document cs | element t cs => cases bare; rfl
  | text | comment | doctype | markup => rfl

end Node

namespace Forest

open Relation (ReflTransGen TransGen)

variable {f : Forest} {n m p c : Nat}

/-! ## Links -/

theorem Sound.hasParent (h : f.Sound) (child : c ∈ f.childrenOf p) : f.HasParent c p :=
  (h.consistent.linked p c).mp child

theorem Sound.child (h : f.Sound) (parent : f.HasParent c p) : c ∈ f.childrenOf p :=
  (h.consistent.linked p c).mpr parent

section

variable {front back : List Nat} (h : f.Sound) (split : f.childrenOf p = front ++ c :: back)

include h split

theorem Sound.hasParent_of_split : f.HasParent c p :=
  h.hasParent (split ▸ List.mem_append_right front List.mem_cons_self)

/-- A child stands among the children only once. -/
theorem Sound.notMem_of_split : c ∉ front ∧ c ∉ back := by
  have once := split ▸ h.consistent.once p
  rw [List.nodup_append, List.nodup_cons] at once
  exact ⟨fun mem => once.2.2 c mem c List.mem_cons_self rfl, once.2.1.1⟩

/-- What holds at the other children holds in front of a child and behind it. -/
theorem Sound.beside {P : Nat → Prop} (each : ∀ b ∈ f.childrenOf p, b ≠ c → P b) :
    (∀ b ∈ front, P b) ∧ ∀ b ∈ back, P b := by
  obtain ⟨first, last⟩ := h.notMem_of_split split
  rw [split] at each
  exact ⟨fun b mem => each b (List.mem_append_left _ mem) fun same => first (same ▸ mem),
    fun b mem => each b (List.mem_append_right _ (List.mem_cons_of_mem c mem))
      fun same => last (same ▸ mem)⟩

end

theorem hasParent_unique {q : Nat} (first : f.HasParent c p) (second : f.HasParent c q) : p = q :=
  Option.some.inj (first.symm.trans second)

theorem childrenOf_of_cell {g : Forest} (same : g.cell n = f.cell n) :
    g.childrenOf n = f.childrenOf n := by
  rw [childrenOf, childrenOf, same]

theorem tagged_of_cell {g : Forest} (same : g.cell n = f.cell n) : g.tagged n = f.tagged n := by
  rw [tagged, tagged, same]

/-! ## Ways down -/

/-- There is a way down of `k` links from a node. -/
def Reaches (f : Forest) : Nat → Nat → Prop
  | 0, _ => True
  | k + 1, n => ∃ c ∈ f.childrenOf n, f.Reaches k c

theorem lt_of_below (below : TransGen f.HasParent m n) : m < f.cells.size := by
  obtain ⟨p, parent, -⟩ := TransGen.head'_iff.mp below
  exact lt_of_parentOf parent

/-- The nodes on a way down are different. -/
theorem Reaches.nodes (h : f.Sound) {k : Nat} (reaches : f.Reaches k n) :
    ∃ ns : List Nat, ns.length = k ∧ ns.Nodup ∧ ∀ m ∈ ns, TransGen f.HasParent m n := by
  induction k generalizing n with
  | zero => exact ⟨[], rfl, List.nodup_nil, nofun⟩
  | succ k ih =>
      obtain ⟨c, child, reaches⟩ := reaches
      obtain ⟨ns, length, nodup, below⟩ := ih reaches
      have parent := h.hasParent child
      refine ⟨c :: ns, ?_, ?_, ?_⟩
      · rw [List.length_cons, length]
      · exact List.nodup_cons.mpr ⟨fun mem => h.acyclic c (below c mem), nodup⟩
      · rintro m (_ | ⟨_, mem⟩)
        · exact .single parent
        · exact (below m mem).tail parent

theorem Reaches.le_size (h : f.Sound) {k : Nat} (reaches : f.Reaches k n) : k ≤ f.cells.size := by
  obtain ⟨ns, rfl, nodup, below⟩ := reaches.nodes h
  -- more different nodes are not there
  have within : ns ⊆ List.range f.cells.size := fun m mem =>
    List.mem_range.mpr (lt_of_below (below m mem))
  have few := (List.subperm_of_subset nodup within).length_le
  rwa [List.length_range] at few

theorem Sound.not_reaches (h : f.Sound) (n : Nat) : ¬ f.Reaches (f.cells.size + 1) n :=
  fun reaches => Nat.not_succ_le_self _ (reaches.le_size h)

/-- What holds of a node if it holds of its children holds of every node. -/
theorem Sound.downward {P : Nat → Prop} (h : f.Sound)
    (step : ∀ n, (∀ c ∈ f.childrenOf n, P c) → P n) (n : Nat) : P n := by
  -- the induction is on how many links lead down from the node
  have bounded : ∀ k n, ¬ f.Reaches k n → P n := by
    intro k
    induction k with
    | zero => exact fun n ends => absurd trivial ends
    | succ k ih => exact fun n ends => step n fun c child => ih c fun more => ends ⟨c, child, more⟩
  exact bounded _ n (h.not_reaches n)

/-! ## Walks -/

theorem walkTo_succ {k : Nat} (ends : ¬ f.Reaches (k + 1) n) :
    f.walkTo (k + 1) n = f.walkTo k n := by
  induction k generalizing n with
  | zero =>
      have none : f.childrenOf n = [] :=
        List.eq_nil_iff_forall_not_mem.mpr fun c child => ends ⟨c, child, trivial⟩
      show n :: (f.childrenOf n).flatMap (f.walkTo 0) = [n]
      rw [none, List.flatMap_nil]
  | succ k ih =>
      rw [walkTo, walkTo]
      congr 1
      exact List.flatMap_congr fun c child => ih fun more => ends ⟨c, child, more⟩

/-- A walk visits the node and then what is below each child. -/
theorem walk_eq (h : f.Sound) (n : Nat) :
    f.walk n = n :: (f.childrenOf n).flatMap f.walk := by
  rw [walk, ← walkTo_succ (h.not_reaches n)]
  rfl

/-- A walk visits the node and all nodes below it. -/
theorem mem_walk_iff (h : f.Sound) : m ∈ f.walk n ↔ ReflTransGen f.HasParent m n := by
  induction n using h.downward with
  | step n ih =>
      rw [walk_eq h, List.mem_cons, List.mem_flatMap, ReflTransGen.cases_tail_iff, eq_comm]
      refine or_congr_right (exists_congr fun c => ?_)
      constructor
      · rintro ⟨child, mem⟩
        exact ⟨(ih c child).mp mem, h.hasParent child⟩
      · rintro ⟨below, parent⟩
        have child := h.child parent
        exact ⟨child, (ih c child).mpr below⟩

theorem mem_walk_self (h : f.Sound) (n : Nat) : n ∈ f.walk n := (mem_walk_iff h).mpr .refl

/-- A walk depends on nothing but which children the nodes have. -/
theorem walk_of_children {g : Forest} (h : f.Sound) (h' : g.Sound)
    (same : ∀ m, ReflTransGen f.HasParent m n → g.childrenOf m = f.childrenOf m) :
    g.walk n = f.walk n := by
  induction n using h.downward with
  | step n ih =>
      rw [walk_eq h', walk_eq h, same n .refl]
      congr 1
      refine List.flatMap_congr fun c child => ih c child fun m below => ?_
      exact same m (below.tail (h.hasParent child))

/-- A walk depends on nothing but the node and what is below it. -/
theorem walk_congr {g : Forest} (h : f.Sound) (h' : g.Sound)
    (same : ∀ m, ReflTransGen f.HasParent m n → g.cell m = f.cell m) : g.walk n = f.walk n :=
  walk_of_children h h' fun m below => childrenOf_of_cell (same m below)

/-- Of two nodes that a node is below of, one is below the other. -/
theorem comparable (first : ReflTransGen f.HasParent m n) (second : ReflTransGen f.HasParent m p) :
    ReflTransGen f.HasParent n p ∨ ReflTransGen f.HasParent p n := by
  have unique : Relator.RightUnique f.HasParent := fun _ _ _ => hasParent_unique
  exact ReflTransGen.total_of_right_unique unique first second

/-- A node that is below a child is not above it. -/
theorem not_above_child (h : f.Sound) (parent : f.HasParent c p) :
    ¬ ReflTransGen f.HasParent p c := fun below =>
  h.acyclic c (TransGen.head' parent below)

/-- Nothing is below two children of a node. -/
theorem siblings_apart (h : f.Sound) {d : Nat} (hc : f.HasParent c p) (hd : f.HasParent d p)
    (other : c ≠ d) (inC : ReflTransGen f.HasParent m c) :
    ¬ ReflTransGen f.HasParent m d := by
  intro inD
  have above {a b : Nat} (ha : f.HasParent a p) (hb : f.HasParent b p) (differ : a ≠ b) :
      ¬ ReflTransGen f.HasParent a b := by
    intro below
    obtain ⟨q, parent, rest⟩ := (ReflTransGen.cases_head below).resolve_left differ
    obtain rfl := hasParent_unique ha parent
    exact not_above_child h hb rest
  exact (comparable inC inD).elim (above hc hd other) (above hd hc other.symm)

/-- A walk visits each node once. -/
theorem nodup_walk (h : f.Sound) (n : Nat) : (f.walk n).Nodup := by
  induction n using h.downward with
  | step n ih =>
      rw [walk_eq h, List.nodup_cons, List.nodup_flatMap]
      refine ⟨fun again => ?_, ih, ?_⟩
      · obtain ⟨c, child, below⟩ := List.mem_flatMap.mp again
        exact not_above_child h (h.hasParent child) ((mem_walk_iff h).mp below)
      · refine (h.consistent.once n).imp_of_mem fun hc hd differ => ?_
        intro m inC inD
        exact siblings_apart h (h.hasParent hc) (h.hasParent hd) differ ((mem_walk_iff h).mp inC)
          ((mem_walk_iff h).mp inD)

/-! ## Trees -/

/-- Labels hold no tree of their own, a tag has the name of its element, and only elements
and documents have children. -/
structure Plain (f : Forest) : Prop where
  bare : ∀ n, (f.cell n).label.children = []
  named : ∀ n, (f.cell n).label.isElement → (f.cell n).tag.name = (f.cell n).label.name
  branching : ∀ n, f.childrenOf n ≠ [] → (f.cell n).label.canHold

theorem treeTo_succ (plain : f.Plain) {k : Nat} (ends : ¬ f.Reaches (k + 1) n) :
    f.treeTo (k + 1) n = f.treeTo k n := by
  induction k generalizing n with
  | zero =>
      have none : f.childrenOf n = [] :=
        List.eq_nil_iff_forall_not_mem.mpr fun c child => ends ⟨c, child, trivial⟩
      have bare : (f.tagged n).children = [] := by
        rw [tagged, Node.children_mapTag, plain.bare]
      show (f.tagged n).mapChildren (fun _ => (f.childrenOf n).map (f.treeTo 0)) = f.tagged n
      rw [none, List.map_nil, Node.mapChildren_of_bare bare]
  | succ k ih =>
      rw [treeTo, treeTo]
      congr 1
      funext _
      exact List.map_congr_left fun c child => ih fun more => ends ⟨c, child, more⟩

/-- A tree is a node with the trees of its children. -/
theorem tree_eq (h : f.Sound) (plain : f.Plain) (n : Nat) :
    f.tree n = (f.tagged n).mapChildren fun _ => (f.childrenOf n).map f.tree := by
  rw [tree, ← treeTo_succ plain (h.not_reaches n)]
  rfl

section

variable (h : f.Sound) (plain : f.Plain)

include h plain

theorem tree_element {t : Tag} {cs : List Node} (label : (f.cell n).label = .element t cs) :
    f.tree n = .element (f.cell n).tag ((f.childrenOf n).map f.tree) := by
  rw [tree_eq h plain, tagged, label]
  rfl

theorem tree_document {cs : List Node} (label : (f.cell n).label = .document cs) :
    f.tree n = .document ((f.childrenOf n).map f.tree) := by
  rw [tree_eq h plain, tagged, label]
  rfl

/-- A node that is neither an element nor a document is its own tree. -/
theorem tree_leaf (label : (f.cell n).label.canHold = false) :
    f.childrenOf n = [] ∧ f.tree n = (f.cell n).label := by
  have none : f.childrenOf n = [] := by
    by_contra some
    rw [plain.branching n some] at label
    cases label
  refine ⟨none, ?_⟩
  rw [tree_eq h plain, tagged]
  cases kind : (f.cell n).label with
  | document | element => rw [kind] at label; cases label
  | text | comment | doctype | markup => rfl

/-- A tree depends on nothing but what the nodes are and which children they have. -/
theorem tree_of_tagged {g : Forest} (h' : g.Sound) (plain' : g.Plain)
    (same : ∀ m, ReflTransGen f.HasParent m n →
      g.tagged m = f.tagged m ∧ g.childrenOf m = f.childrenOf m) : g.tree n = f.tree n := by
  induction n using h.downward with
  | step n ih =>
      obtain ⟨here, children⟩ := same n .refl
      rw [tree_eq h' plain', tree_eq h plain, here, children]
      congr 1
      funext _
      refine List.map_congr_left fun c child => ih c child fun m below => ?_
      exact same m (below.tail (h.hasParent child))

/-- A tree depends on nothing but the node and what is below it. -/
theorem tree_congr {g : Forest} (h' : g.Sound) (plain' : g.Plain)
    (same : ∀ m, ReflTransGen f.HasParent m n → g.cell m = f.cell m) : g.tree n = f.tree n :=
  tree_of_tagged h plain h' plain' fun m below =>
    ⟨tagged_of_cell (same m below), childrenOf_of_cell (same m below)⟩

theorem children_tree (n : Nat) : (f.tree n).children = (f.childrenOf n).map f.tree := by
  cases kind : (f.cell n).label with
  | document => rw [tree_document h plain kind]; rfl
  | element => rw [tree_element h plain kind]; rfl
  | text | comment | doctype | markup =>
      obtain ⟨none, leaf⟩ := tree_leaf h plain (n := n) (by rw [kind]; rfl)
      rw [leaf, none, kind]
      rfl

end

end Forest

end PageTemplates.Markup
