import PageTemplates.Proofs.Markup.Attached
import PageTemplates.Proofs.Markup.MovedTree

/-!
# The head of linked nodes

New nodes go to the end of the head of a document, which is made if there is none. The main
facts:

* `Attached.through`: what is new stands below one of the new roots;
* `outcome_head`: the head is found or made, and no call is refused;
* `HeadReady.findFirst?`: afterwards it is the head that is found;
* `HeadReady.children_tree`: the tree once nodes were added to it.
-/

namespace PageTemplates.Markup

namespace Forest

open Relation (ReflTransGen TransGen)

variable {f g k : Forest} {n : Node} {d i m p q s : Nat} {front back ss : List Nat}
  {ns : List Node} {name : String}

theorem find?_flatMap_congr {cs : List Nat} {a b : Nat → List Nat} {P Q : Nat → Bool}
    (same : ∀ c ∈ cs, (a c).find? P = (b c).find? Q) :
    (cs.flatMap a).find? P = (cs.flatMap b).find? Q := by
  induction cs with
  | nil => rfl
  | cons c cs ih =>
      rw [List.flatMap_cons, List.flatMap_cons, List.find?_append, List.find?_append,
        same c List.mem_cons_self, ih fun d mem => same d (List.mem_cons_of_mem c mem)]

namespace Attached

variable (attached : f.Attached p front back ns ss g) (h : f.Sound)

include attached h

/-- A node of a name is found first as before, if the parent itself is one. -/
theorem find?_walk (called : f.isCalled name p) (old : q < f.cells.size) :
    (g.walk q).find? (g.isCalled name) = (f.walk q).find? (f.isCalled name) := by
  induction q using h.downward with
  | step q ih =>
      have same : g.isCalled name q = f.isCalled name q :=
        isCalled_of_content (attached.content q old)
      rw [walk_eq h, walk_eq attached.sound, List.find?_cons, List.find?_cons, same]
      cases here : f.isCalled name q with
      | true => rfl
      | false =>
          have other : q ≠ p := by
            rintro rfl
            rw [called] at here
            cases here
          rw [attached.others q old other]
          exact find?_flatMap_congr fun c child =>
            ih c child (lt_of_parentOf (h.hasParent child))

theorem findFirst?_eq (called : f.isCalled name p) (old : d < f.cells.size)
    (other : f.isCalled name d = false) : g.findFirst? d name = f.findFirst? d name := by
  have differ : d ≠ p := by
    rintro rfl
    rw [called] at other
    cases other
  rw [findFirst?_eq_flatMap h, findFirst?_eq_flatMap attached.sound, attached.others d old differ]
  exact find?_flatMap_congr fun c child =>
    attached.find?_walk h called (lt_of_parentOf (h.hasParent child))

/-- What is new and below an old node is below one of the new roots. -/
theorem through (new : f.cells.size ≤ m) (old : q < f.cells.size)
    (chain : ReflTransGen g.HasParent m q) : ∃ s ∈ ss, ReflTransGen g.HasParent m s := by
  induction chain using ReflTransGen.head_induction_on with
  | refl => exact absurd old (Nat.not_lt_of_le new)
  | @head m a parent _ ih =>
      by_cases below : f.cells.size ≤ a
      · obtain ⟨s, mem, chain⟩ := ih below
        exact ⟨s, mem, .head parent chain⟩
      · -- an old node has no new child but the new roots
        have child := attached.sound.child parent
        have known {l : List Nat} {b : Nat} (sub : ∀ c ∈ l, c ∈ f.childrenOf b) : m ∉ l := fun mem =>
          Nat.not_lt_of_le new (lt_of_parentOf (h.hasParent (sub m mem)))
        by_cases here : a = p
        · subst here
          rw [attached.here, List.mem_append, List.mem_append] at child
          rcases child with mem | mem | mem
          · exact absurd mem (known fun c mem => attached.split ▸ List.mem_append_left _ mem)
          · exact ⟨m, mem, .refl⟩
          · exact absurd mem (known fun c mem => attached.split ▸ List.mem_append_right _ mem)
        · rw [attached.others a (Nat.lt_of_not_le below) here] at child
          exact absurd child (known fun c mem => mem)

end Attached

/-- What is above an old node is still above it. -/
theorem Grown.keeps (grown : f.Grown g) (chain : ReflTransGen f.HasParent m q) :
    ReflTransGen g.HasParent m q := by
  refine ReflTransGen.mono (fun a b parent => ?_) _ _ chain
  rw [HasParent, grown.parent a (lt_of_parentOf parent)]
  exact parent

/-! ## Finding the head or making it -/

/-- The head of a document is there, or a new one stands in front of the first element of
`<html>`, or else of the document. -/
inductive HeadReady (f : Forest) (d i : Nat) : Forest → Prop
  | found (first : f.findFirst? d "head" = some i) : HeadReady f d i f
  | made {p : Nat} {front back : List Nat} {g : Forest} (none : f.findFirst? d "head" = none)
      (parent : (f.findFirst? d "html").getD d = p)
      (attached : f.Attached p front back [newHead []] [i] g)
      (texts : ∀ c ∈ front, (f.cell c).label.isElement = false)
      (first : ∀ c ∈ back.head?, (f.cell c).label.isElement) : HeadReady f d i g

/-- A document among linked nodes. -/
structure IsDocument (f : Forest) (d : Nat) : Prop where
  there : d < f.cells.size
  label : (f.cell d).label = .document []

theorem canHold_of_isCalled (called : f.isCalled name p) : (f.cell p).label.canHold := by
  rw [isCalled, Bool.and_eq_true] at called
  cases kind : (f.cell p).label with
  | document | element => rfl
  | text | comment | doctype | markup =>
      rw [kind] at called
      cases called.1

section

variable (h : f.Sound) (plain : f.Plain) (document : f.IsDocument d)

include h plain document

theorem outcome_head : ∃ i g, outcome (Relink.head d) f = (.ok i, g) ∧ f.HeadReady d i g := by
  unfold Relink.head
  rw [outcome_bind, outcome_get]
  dsimp only
  cases first : f.findFirst? d "head" with
  | some i => exact ⟨i, f, rfl, .found first⟩
  | none =>
      obtain ⟨parent, root⟩ : ∃ p, (f.findFirst? d "html").getD d = p := ⟨_, rfl⟩
      -- without a head one is made in html, or else in the document
      have place : parent < f.cells.size ∧ (f.cell parent).label.canHold := by
        subst root
        cases html : f.findFirst? d "html" with
        | some p =>
            obtain ⟨below, called⟩ := findFirst?_below h html
            exact ⟨lt_of_below below, canHold_of_isCalled called⟩
        | none =>
            rw [Option.getD_none, document.label]
            exact ⟨document.there, rfl⟩
      rw [root]
      dsimp only
      rw [outcome_bind, outcome_add]
      dsimp only
      cases element : f.firstElement? parent with
      | some c =>
          obtain ⟨holds, front, back, split, texts⟩ := List.find?_eq_some_iff_append.mp element
          obtain ⟨g, run, attached⟩ := attached_before h plain place.1 place.2 (newHead []) split
          refine ⟨_, g, ?_, .made first root attached (fun c mem => ?_) ?_⟩
          · rw [outcome_bind, run]
            rfl
          · exact Bool.not_eq_true' _ |>.mp (texts c mem)
          · rintro c ⟨⟩
            exact holds
      | none =>
          obtain ⟨g, run, attached⟩ := attached_last h plain place.1 place.2 (newHead [])
          refine ⟨_, g, ?_, .made first root attached (fun c mem => ?_) nofun⟩
          · rw [outcome_bind, run]
            rfl
          · exact Bool.eq_false_iff.mpr (List.find?_eq_none.mp element c mem)

end

/-! ## The head afterwards -/

theorem isCalled_newHead (h : g.Sound) (plain : g.Plain) (tree : g.tree i = newHead ns) :
    g.isCalled "head" i := by
  have found := findPath?_tree_eq h plain (p := Tag.isNamed "head") i
  have whole : (newHead ns).findPath? (Tag.isNamed "head") = some [] := by
    rw [newHead, Node.findPath?, if_pos (by decide)]
  rw [isCalled_eq_hasTag plain, lower_head]
  rw [tree, whole] at found
  split at found
  · assumption
  · exact absurd rfl (findPath?_ne_nil found.symm)

theorem childrenOf_newHead (h : g.Sound) (plain : g.Plain) (tree : g.tree i = newHead []) :
    g.childrenOf i = [] := by
  have children := Forest.children_tree h plain i
  rw [tree] at children
  exact List.map_eq_nil_iff.mp children.symm

theorem findFirst?_eq_none (h : f.Sound) : f.findFirst? d name = none ↔
    ∀ m, TransGen f.HasParent m d → f.isCalled name m = false := by
  rw [findFirst?_eq, List.find?_eq_none]
  refine ⟨fun none m below => ?_, fun absent m visited both => ?_⟩
  · have both := (below_iff_ne h).mp below
    have holds := none m both.1
    rwa [bne_iff_ne.mpr both.2, Bool.true_and, Bool.not_eq_true] at holds
  · rw [Bool.and_eq_true, bne_iff_ne] at both
    rw [absent m ((below_iff_ne h).mpr ⟨visited, both.1⟩)] at both
    cases both.2

/-- The parent of a new head is the document or below it. -/
theorem html_below (h : f.Sound) (parent : (f.findFirst? d "html").getD d = p) :
    ReflTransGen f.HasParent p d := by
  subst parent
  cases html : f.findFirst? d "html" with
  | some p => exact (findFirst?_below h html).1.to_reflTransGen
  | none => exact .refl

theorem HeadReady.grown (ready : f.HeadReady d i g) (h : f.Sound) (plain : f.Plain) :
    f.Grown g := by
  cases ready with
  | found _ => exact .refl h plain
  | made _ _ attached _ _ => exact attached.toGrown

section

variable (ready : f.HeadReady d i g) (h : f.Sound) (plain : f.Plain) (document : f.IsDocument d)

include ready h document

/-- It is the head that is found. -/
theorem HeadReady.findFirst? : g.findFirst? d "head" = some i := by
  cases ready with
  | found first => exact first
  | @made p front back _ none parent attached _ _ =>
      have child : g.HasParent i p := attached.sound.hasParent
        (attached.here ▸ List.mem_append_right _ List.mem_cons_self)
      have below : TransGen g.HasParent i d :=
        .head' child (attached.toGrown.keeps (html_below h parent))
      have tree : g.tree i = newHead [] := List.singleton_inj.mp attached.trees
      have called := isCalled_newHead attached.sound attached.plain tree
      -- an old head would have been found before, and the new tree is the new head alone
      have only : ∀ m, TransGen g.HasParent m d → g.isCalled "head" m → m = i := by
        intro m below called
        by_cases old : m < f.cells.size
        · have before := (attached.toGrown.above h old below.to_reflTransGen).2
          have other : d ≠ m := fun same => attached.sound.acyclic d (same ▸ below)
          have under := (Relation.reflTransGen_iff_eq_or_transGen.mp before).resolve_left other
          rw [isCalled_of_content (attached.content m old),
            (findFirst?_eq_none h).mp none m under] at called
          cases called
        · obtain ⟨s, mem, inside⟩ := attached.through h (Nat.le_of_not_lt old) document.there
            below.to_reflTransGen
          rw [List.mem_singleton.mp mem] at inside
          rcases ReflTransGen.cases_tail inside with same | ⟨c, -, parent⟩
          · exact same.symm
          · have child := attached.sound.child parent
            rw [childrenOf_newHead attached.sound attached.plain tree] at child
            cases child
      cases found : g.findFirst? d "head" with
      | some m =>
          obtain ⟨under, called⟩ := findFirst?_below attached.sound found
          rw [only m under called]
      | none =>
          rw [(findFirst?_eq_none attached.sound).mp found i below] at called
          cases called

end

/-! ## Trees -/

theorem isElement_tree (h : f.Sound) (plain : f.Plain) (m : Nat) :
    (f.tree m).isElement = (f.cell m).label.isElement := by
  cases kind : (f.cell m).label with
  | element => rw [tree_element h plain kind]; rfl
  | document => rw [tree_document h plain kind]; rfl
  | text | comment | doctype | markup =>
      rw [(tree_leaf h plain (n := m) (by rw [kind]; rfl)).2, kind]

theorem insertBeforeElement_append {front back : List Node} (n : Node)
    (texts : ∀ c ∈ front, c.isElement = false) (first : ∀ c ∈ back.head?, c.isElement) :
    insertBeforeElement n (front ++ back) = front ++ n :: back := by
  induction front with
  | nil =>
      cases back with
      | nil => rfl
      | cons c back =>
          rw [List.nil_append, insertBeforeElement, if_pos (first c rfl)]
          rfl
  | cons c front ih =>
      have other := texts c List.mem_cons_self
      rw [List.cons_append, insertBeforeElement, if_neg (by simp [other]),
        ih fun d mem => texts d (List.mem_cons_of_mem c mem)]
      rfl

/-- New last children. -/
theorem Attached.tree_last (attached : f.Attached p (f.childrenOf p) [] ns ss g) (h : f.Sound)
    (plain : f.Plain) : g.tree p = (f.tree p).mapChildren (· ++ ns) := by
  rw [attached.tree_parent h plain, tree_eq h plain, Node.mapChildren_mapChildren,
    Node.mapChildren_mapChildren, List.map_nil, List.append_nil]

/-- A new node in front of the first element. -/
theorem Attached.tree_first (attached : f.Attached p front back [n] [s] g) (h : f.Sound)
    (plain : f.Plain) (texts : ∀ c ∈ front, (f.cell c).label.isElement = false)
    (first : ∀ c ∈ back.head?, (f.cell c).label.isElement) :
    g.tree p = (f.tree p).mapChildren (insertBeforeElement n) := by
  have placed : insertBeforeElement n (front.map f.tree ++ back.map f.tree) =
      front.map f.tree ++ n :: back.map f.tree :=
    insertBeforeElement_append n (fun t mem => ?_) fun t mem => ?_
  · rw [attached.tree_parent h plain, tree_eq h plain, Node.mapChildren_mapChildren,
      Node.mapChildren_mapChildren, attached.split, List.map_append]
    simp only [placed, List.singleton_append]
  · obtain ⟨c, child, rfl⟩ := List.mem_map.mp mem
    rw [isElement_tree h plain, texts c child]
  · rw [List.head?_map] at mem
    obtain ⟨c, child, rfl⟩ := Option.map_eq_some_iff.mp mem
    rw [isElement_tree h plain]
    exact first c child

theorem lower_html : Text.lower "html" = "html" := by decide

section

variable (ready : f.HeadReady d i g) (h : f.Sound) (plain : f.Plain) (document : f.IsDocument d)
  (added : g.Attached i (g.childrenOf i) [] ns ss k)

include added

/-- The new head with the nodes that were added to it. -/
theorem Attached.newHead (new : f.Attached p front back [newHead []] [i] g) :
    f.Attached p front back [Markup.newHead ns] [i] k := by
  have tree := added.tree_last new.sound new.plain
  rw [List.singleton_inj.mp new.trees] at tree
  have whole := new.inside added
  rwa [tree] at whole

include ready

/-- New are the nodes that were added, or the head that they were added to. -/
theorem HeadReady.attached : ∃ p front back ms ts, f.Attached p front back ms ts k ∧
    (ms = ns ∨ ms = [Markup.newHead ns]) := by
  cases ready with
  | found first => exact ⟨i, _, _, ns, ss, added, .inl rfl⟩
  | made none parent new texts first => exact ⟨_, _, _, _, _, added.newHead new, .inr rfl⟩

include h plain document

/-- The tree of a document once nodes were added to its head. -/
theorem HeadReady.children_tree :
    (k.tree d).children = appendToHead ns (f.tree d).children := by
  have head := findFirst?_found h plain d "head"
  rw [lower_head] at head
  unfold appendToHead
  -- both sides look for the same head, one by number and one by place
  generalize findPath? (Tag.isNamed "head") (f.tree d).children = path? at head ⊢
  cases ready with
  | found first =>
      rw [first] at head
      cases head with
      | some stands =>
          have tree := added.tree_last h plain
          exact stands.replaced h plain added.sound added.plain (added.givesWay h)
            (r := fun n => [n.mapChildren (· ++ ns)]) (congrArg (fun t => [t]) tree)
  | made none parent new texts first =>
      rw [none] at head
      cases head
      have html := findFirst?_found h plain d "html"
      rw [lower_html] at html
      have whole := added.newHead new
      have tree := whole.tree_first h plain texts first
      generalize findPath? (Tag.isNamed "html") (f.tree d).children = path?,
        f.findFirst? d "html" = root? at html parent ⊢
      cases html with
      | some stands =>
          subst parent
          exact stands.replaced h plain added.sound added.plain (whole.givesWay h)
            (r := fun n => [n.mapChildren (insertBeforeElement (Markup.newHead ns))])
            (congrArg (fun t => [t]) tree)
      | none =>
          subst parent
          rw [Option.getD_none, tree_document h plain document.label] at tree
          rw [tree, tree_document h plain document.label]
          rfl

end

end Forest

end PageTemplates.Markup
