import PageTemplates.Proofs.Markup.Rearranged
import PageTemplates.Proofs.Markup.Siblings

/-!
# Places of linked nodes

A node stands at a place of the tree that it is below of. The main facts:

* `StandsAmong`: a node is found by going down a path from some siblings;
* `found_among`: what is found first in the walk stands where it is found in the tree;
* `StandsAmong.path_eq`: the path read off the parents of a node is that of its place;
* `GivesWay`, `StandsAmong.replaced`: where a node gives way to others, it is replaced in
  the tree.
-/

namespace PageTemplates.Markup

namespace Forest

open Relation (ReflTransGen TransGen)

variable {f g : Forest} {n m c d : Nat} {cs ns : List Nat} {path : Path} {p : Tag → Bool}

/-- A path from some siblings leads to the node `n`. -/
inductive StandsAmong (f : Forest) (n : Nat) : List Nat → Path → Prop
  | here {front back : List Nat} : StandsAmong f n (front ++ n :: back) [front.length]
  | inside {front back : List Nat} {c : Nat} {path : Path}
      (rest : StandsAmong f n (f.childrenOf c) path) :
      StandsAmong f n (front ++ c :: back) (front.length :: path)

namespace StandsAmong

theorem ne_nil (stands : f.StandsAmong n cs path) : path ≠ [] := by
  cases stands <;> exact List.cons_ne_nil _ _

/-- The place behind another sibling. -/
theorem later (stands : f.StandsAmong n cs path) (c : Nat) :
    f.StandsAmong n (c :: cs) path.shift := by
  cases stands with
  | @here front => exact @here f n (c :: front) _
  | @inside front _ _ _ rest => exact @inside f n (c :: front) _ _ _ rest

theorem under (h : f.Sound) (stands : f.StandsAmong n (f.childrenOf d) path) :
    TransGen f.HasParent n d := by
  generalize siblings : f.childrenOf d = cs at stands
  induction stands generalizing d with
  | here => exact .single (h.hasParent_of_split siblings)
  | inside _ ih => exact (ih rfl).tail (h.hasParent_of_split siblings)

end StandsAmong

/-! ## Finding -/

theorem hasTag_element {t : Tag} {ds : List Node} (label : (f.cell n).label = .element t ds) :
    f.hasTag p n = p (f.cell n).tag := by
  rw [hasTag, tagged, label]
  rfl

theorem hasTag_other (label : (f.cell n).label.isElement = false) : f.hasTag p n = false := by
  rw [hasTag, tagged]
  cases kind : (f.cell n).label with
  | element => rw [kind] at label; cases label
  | document | text | comment | doctype | markup => rfl

theorem hasTag_of_content (content : (g.cell n).content = (f.cell n).content) :
    g.hasTag p n = f.hasTag p n := by
  rw [hasTag, hasTag, tagged_of_content content]

/-- To be called by a name is to have a tag of that name. -/
theorem isCalled_eq_hasTag (plain : f.Plain) (name : String) :
    f.isCalled name = f.hasTag (Tag.isNamed (Text.lower name)) := by
  funext n
  rw [isCalled, Forest.name]
  cases element : (f.cell n).label.isElement with
  | false => rw [hasTag_other element, Bool.false_and]
  | true =>
      have named := plain.named n element
      cases kind : (f.cell n).label with
      | element => rw [hasTag_element kind, Tag.isNamed, named, kind, Bool.true_and]
      | document | text | comment | doctype | markup => rw [kind] at element; cases element

section

variable (h : f.Sound) (plain : f.Plain)

include h plain

theorem findPath?_tree_eq (n : Nat) : (f.tree n).findPath? p =
    if f.hasTag p n then some [] else findPath? p ((f.childrenOf n).map f.tree) := by
  cases kind : (f.cell n).label with
  | element => rw [tree_element h plain kind, hasTag_element kind, Node.findPath?]
  | document =>
      rw [tree_document h plain kind, hasTag_other (by rw [kind]; rfl), Node.findPath?]
      rfl
  | text | comment | doctype | markup =>
      obtain ⟨none, leaf⟩ := tree_leaf h plain (n := n) (by rw [kind]; rfl)
      rw [leaf, none, kind, hasTag_other (by rw [kind]; rfl)]
      rfl

/-- What is found first in a walk through siblings stands where it is found in their
trees. -/
theorem found_among (cs : List Nat) : Option.Rel (fun n path => f.StandsAmong n cs path)
    ((cs.flatMap f.walk).find? (f.hasTag p)) (findPath? p (cs.map f.tree)) := by
  -- among siblings, if it is so below each of them
  have among (cs : List Nat) (each : ∀ c ∈ cs,
      Option.Rel (fun n path => f.StandsAmong n (f.childrenOf c) path)
        (((f.childrenOf c).flatMap f.walk).find? (f.hasTag p))
        (findPath? p ((f.childrenOf c).map f.tree))) :
      Option.Rel (fun n path => f.StandsAmong n cs path)
        ((cs.flatMap f.walk).find? (f.hasTag p)) (findPath? p (cs.map f.tree)) := by
    induction cs with
    | nil => exact .none
    | cons c cs ih =>
        have rest := ih fun d mem => each d (List.mem_cons_of_mem c mem)
        have inner := each c List.mem_cons_self
        rw [List.flatMap_cons, List.find?_append, walk_eq h, List.map_cons, findPath?,
          findPath?_tree_eq h plain]
        cases holds : f.hasTag p c with
        | true =>
            rw [List.find?_cons_of_pos holds]
            exact .some (@StandsAmong.here f c [] cs)
        | false =>
            rw [List.find?_cons_of_neg (Bool.eq_false_iff.mp holds), if_neg Bool.false_ne_true]
            generalize ((f.childrenOf c).flatMap f.walk).find? (f.hasTag p) = n?,
              findPath? p ((f.childrenOf c).map f.tree) = path? at inner ⊢
            cases inner with
            | some stands => exact .some (@StandsAmong.inside f _ [] cs c _ stands)
            | none =>
                rw [Option.none_or]
                generalize (cs.flatMap f.walk).find? (f.hasTag p) = n?,
                  findPath? p (cs.map f.tree) = path? at rest ⊢
                cases rest with
                | some stands => exact .some (stands.later c)
                | none => exact .none
  have each (c : Nat) : Option.Rel (fun n path => f.StandsAmong n (f.childrenOf c) path)
      (((f.childrenOf c).flatMap f.walk).find? (f.hasTag p))
      (findPath? p ((f.childrenOf c).map f.tree)) := by
    induction c using h.downward with
    | step c ih => exact among _ ih
  exact among cs fun c _ => each c

theorem found_below (d : Nat) : Option.Rel (fun n path => f.StandsAmong n (f.childrenOf d) path)
    (((f.childrenOf d).flatMap f.walk).find? (f.hasTag p)) (findPath? p (f.tree d).children) := by
  rw [Forest.children_tree h plain]
  exact found_among h plain _

/-- The first element of a name stands where it is found in the tree. -/
theorem findFirst?_found (d : Nat) (name : String) :
    Option.Rel (fun n path => f.StandsAmong n (f.childrenOf d) path) (f.findFirst? d name)
      (findPath? (Tag.isNamed (Text.lower name)) (f.tree d).children) := by
  rw [findFirst?_eq_flatMap h, isCalled_eq_hasTag plain]
  exact found_below h plain d

end

/-! ## The path to a node -/

section

variable (h : f.Sound)

include h

/-- The last step of a path. -/
theorem StandsAmong.last (stands : f.StandsAmong n (f.childrenOf d) path) :
    ∃ q, f.HasParent n q ∧ (q = d ∧ path = [(f.childrenOf q).idxOf n] ∨
      ∃ path', path = path' ++ [(f.childrenOf q).idxOf n] ∧
        f.StandsAmong q (f.childrenOf d) path') := by
  generalize siblings : f.childrenOf d = cs at stands
  induction stands generalizing d with
  | @here front back =>
      refine ⟨d, h.hasParent_of_split siblings, .inl ⟨rfl, ?_⟩⟩
      rw [siblings, List.idxOf_append_of_notMem (h.notMem_of_split siblings).1,
        List.idxOf_cons_self, Nat.add_zero]
  | @inside front back c path rest ih =>
      obtain ⟨q, parent, ⟨rfl, same⟩ | ⟨path', same, stands⟩⟩ := ih rfl
      · exact ⟨q, parent, .inr ⟨[front.length], by rw [same]; rfl, .here⟩⟩
      · exact ⟨q, parent, .inr ⟨front.length :: path', by rw [same]; rfl, .inside stands⟩⟩

omit h in
theorem StandsAmong.reaches (stands : f.StandsAmong n (f.childrenOf d) path) :
    f.Reaches path.length d := by
  generalize siblings : f.childrenOf d = cs at stands
  induction stands generalizing d with
  | here => exact ⟨n, siblings ▸ List.mem_append_right _ List.mem_cons_self, trivial⟩
  | @inside _ _ c _ _ ih =>
      exact ⟨c, siblings ▸ List.mem_append_right _ List.mem_cons_self, ih rfl⟩

/-- The path read off the parents of a node is that of its place. -/
theorem StandsAmong.path_eq (stands : f.StandsAmong n (f.childrenOf d) path) :
    f.path d n = path := by
  have enough : path.length ≤ f.cells.size := stands.reaches.le_size h
  rw [Forest.path]
  generalize f.cells.size = depth at enough
  induction depth generalizing n path with
  | zero => exact absurd (List.eq_nil_of_length_eq_zero (Nat.le_zero.mp enough)) stands.ne_nil
  | succ depth ih =>
      obtain ⟨q, parent, ⟨rfl, same⟩ | ⟨path', same, stands'⟩⟩ := stands.last h
      · rw [HasParent, parentOf] at parent
        rw [pathFrom, parent, same]
        dsimp only
        rw [if_pos rfl, List.nil_append]
      · have under := stands'.under h
        have other : q ≠ d := by
          rintro rfl
          exact h.acyclic q under
        rw [same, List.length_append, List.length_singleton] at enough
        rw [HasParent, parentOf] at parent
        rw [pathFrom, parent, same]
        dsimp only
        rw [if_neg other, ih stands' (by omega)]

end

/-! ## Giving way -/

/-- The node `n` gives way to other nodes among the children that it is one of. Nothing else
is changed outside of it. -/
structure GivesWay (f : Forest) (n : Nat) (ns : List Nat) (g : Forest) : Prop where
  content : ∀ m < f.cells.size, m ∉ f.walk n → (g.cell m).content = (f.cell m).content
  children : ∀ m < f.cells.size, m ∉ f.walk n →
    g.childrenOf m = (f.childrenOf m).flatMap fun c => if c = n then ns else [c]

theorem flatMap_of_notMem (absent : n ∉ cs) :
    (cs.flatMap fun c => if c = n then ns else [c]) = cs := by
  conv_rhs => rw [← List.flatMap_singleton' cs]
  refine List.flatMap_congr fun c mem => if_neg ?_
  rintro rfl
  exact absent mem

/-- A node stays where it is if nothing outside of it is changed. -/
theorem givesWay_of_outside (content : ∀ m < f.cells.size, m ∉ f.walk n →
      (g.cell m).content = (f.cell m).content)
    (children : ∀ m < f.cells.size, m ∉ f.walk n → g.childrenOf m = f.childrenOf m) :
    f.GivesWay n [n] g where
  content := content
  children m old outside := by
    rw [children m old outside]
    conv_lhs => rw [← List.flatMap_singleton' (f.childrenOf m)]
    refine List.flatMap_congr fun c _ => ?_
    split
    · rename_i same
      rw [same]
    · rfl

section

variable (h : f.Sound) (plain : f.Plain) (h' : g.Sound) (plain' : g.Plain)
  (way : f.GivesWay n ns g)

include h plain h' plain' way

/-- The tree of a sibling of a node that is or holds the one that gives way stays the
same. -/
theorem GivesWay.tree_beside {b : Nat} (hb : f.HasParent b d) (hc : f.HasParent c d)
    (other : b ≠ c) (within : ReflTransGen f.HasParent n c) : g.tree b = f.tree b := by
  refine tree_of_tagged h plain h' plain' fun m below => ?_
  have old : m < f.cells.size := lt_of_below (TransGen.tail' below hb)
  have outside : m ∉ f.walk n := fun inside =>
    siblings_apart h hb hc other below (((mem_walk_iff h).mp inside).trans within)
  have absent : n ∉ f.childrenOf m := fun child =>
    siblings_apart h hb hc other (.head (h.hasParent child) below) within
  exact ⟨tagged_of_content (way.content m old outside),
    by rw [way.children m old outside, flatMap_of_notMem absent]⟩

theorem GivesWay.trees_beside {front back : List Nat} (split : f.childrenOf d = front ++ c :: back)
    (within : ReflTransGen f.HasParent n c) :
    front.map g.tree = front.map f.tree ∧ back.map g.tree = back.map f.tree := by
  obtain ⟨before, after⟩ := h.beside split fun b mem other =>
    way.tree_beside h plain h' plain' (h.hasParent mem) (h.hasParent_of_split split) other within
  exact ⟨List.map_congr_left before, List.map_congr_left after⟩

/-- Where a node gives way to others, it is replaced in the tree. -/
theorem StandsAmong.replaced {r : Node → List Node}
    (stands : f.StandsAmong n (f.childrenOf d) path) (trees : ns.map g.tree = r (f.tree n)) :
    (g.tree d).children = replaceAt r path (f.tree d).children := by
  rw [Forest.children_tree h plain, Forest.children_tree h' plain']
  generalize siblings : f.childrenOf d = cs at stands
  induction stands generalizing d with
  | @here front back =>
      have child := h.hasParent_of_split siblings
      have old : d < f.cells.size := lt_of_mem_childrenOf (h.child child)
      have outside : d ∉ f.walk n := fun inside =>
        not_above_child h child ((mem_walk_iff h).mp inside)
      obtain ⟨first, last⟩ := h.notMem_of_split siblings
      obtain ⟨before, after⟩ := way.trees_beside h plain h' plain' siblings .refl
      rw [way.children d old outside, siblings, List.flatMap_append, List.flatMap_cons, if_pos rfl,
        flatMap_of_notMem first, flatMap_of_notMem last, List.map_append, List.map_append,
        List.map_append, List.map_cons, trees, before, after, ← List.length_map f.tree,
        replaceAt_length]
  | @inside front back c path rest ih =>
      have child := h.hasParent_of_split siblings
      have under := rest.under h
      -- the node gives way further down, so the children here stay
      have outside {m : Nat} (above : TransGen f.HasParent n m) : m ∉ f.walk n := fun inside =>
        h.acyclic m (TransGen.trans_right ((mem_walk_iff h).mp inside) above)
      have old : d < f.cells.size := lt_of_mem_childrenOf (h.child child)
      have absent : n ∉ f.childrenOf d := fun mem => by
        obtain ⟨q, parent, above⟩ := TransGen.head'_iff.mp under
        obtain rfl := hasParent_unique parent (h.hasParent mem)
        exact not_above_child h child above
      obtain ⟨before, after⟩ :=
        way.trees_beside h plain h' plain' siblings under.to_reflTransGen
      have content := way.content c (lt_of_parentOf child) (outside under)
      have here : g.tree c = (f.tree c).mapChildren (replaceAt r path) := by
        rw [tree_eq h' plain', tree_eq h plain, Node.mapChildren_mapChildren, ih rfl,
          tagged_of_content content]
      rw [way.children d old (outside (under.tail child)), flatMap_of_notMem absent, siblings,
        List.map_append, List.map_append, List.map_cons, List.map_cons, before, after, here,
        ← List.length_map f.tree, replaceAt_append _ rest.ne_nil]

end

end Forest

end PageTemplates.Markup
