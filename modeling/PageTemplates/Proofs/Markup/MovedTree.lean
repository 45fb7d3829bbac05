import PageTemplates.Proofs.Markup.Places
import PageTemplates.Proofs.Markup.Planted

/-!
# Trees whose directives are moved

What appending elements to the head one after the other makes of the tree, and that it is
what moving them all at once makes of it. The main facts:

* `Gathered.pullOut_tree`: below the head, the elements are pulled out of the tree;
* `Gathered.children_tree`: where the head is found in the tree, it is replaced;
* `children_tree_of_outcome`: the tree afterwards is the one that `moveDirectives` makes;
* `moveDirectives_moveDirectives`: what that makes of a document it leaves as it is;
* `moveDirectives_rearranges`: the elements become the last children of the head, all else
  keeps its place and its order, and a second time nothing changes.
-/

namespace PageTemplates.Markup

namespace Forest

open Relation (ReflTransGen TransGen)

variable {f g : Forest} {n m p d : Nat} {name : String}

/-- The tag of an element of a name that carries a directive. -/
abbrev asksTag (name : String) (t : Tag) : Bool := t.name == name && t.isDirective

theorem isCalled_element (plain : f.Plain) {t : Tag} {cs : List Node}
    (label : (f.cell n).label = .element t cs) :
    f.isCalled name n = Tag.isNamed (Text.lower name) (f.cell n).tag := by
  have element : (f.cell n).label.isElement := by rw [label]; rfl
  rw [isCalled, Forest.name, Tag.isNamed, plain.named n element, element, Bool.true_and]

theorem asks_element (plain : f.Plain) {t : Tag} {cs : List Node}
    (label : (f.cell n).label = .element t cs) :
    f.asks name n = asksTag (Text.lower name) (f.cell n).tag := by
  rw [asks, isCalled_element plain label, tagged, label]
  rfl

theorem isCalled_other (label : (f.cell n).label.isElement = false) :
    f.isCalled name n = false := by
  rw [isCalled, label, Bool.false_and]

theorem asks_other (label : (f.cell n).label.isElement = false) : f.asks name n = false := by
  rw [asks, isCalled_other label, Bool.false_and]

section

variable (h : f.Sound) (plain : f.Plain) (moved : f.Gathered p (f.directivesBelow p name) g)

include h plain moved

theorem Gathered.plainly : g.Plain :=
  plain.of_content moved.content fun n some => plain.branching n fun none => some <| by
    by_cases here : n = p
    · subst here
      have nothing : f.directivesBelow n name = [] := by
        rw [directivesBelow_eq_flatMap h, none, List.flatMap_nil]
      rw [moved.last, none, nothing]
      rfl
    · rw [moved.others n here, none]
      rfl

/-! ## Below the head -/

omit h plain moved in
theorem pullOut_map (name : String) {cs : List Nat}
    (each : ∀ c ∈ cs, (f.tree c).pullOut (asksTag (Text.lower name)) =
      (if f.asks name c then [] else [g.tree c], ((f.walk c).filter (f.asks name)).map g.tree)) :
    pullOut (asksTag (Text.lower name)) (cs.map f.tree) =
      ((cs.filter fun c => !f.asks name c).map g.tree,
        (cs.flatMap fun c => (f.walk c).filter (f.asks name)).map g.tree) := by
  induction cs with
  | nil => rfl
  | cons c cs ih =>
      rw [List.map_cons, pullOut_cons, each c List.mem_cons_self,
        ih fun d mem => each d (List.mem_cons_of_mem _ mem), List.flatMap_cons, List.map_append]
      cases asks : f.asks name c <;> simp [asks]

omit plain moved in
/-- Of the children of the head or a node below, those that carry no directive stay. -/
theorem stay_iff (within : ReflTransGen f.HasParent n p) :
    (f.childrenOf n).filter (· ∉ f.directivesBelow p name) =
      (f.childrenOf n).filter fun c => !f.asks name c := by
  refine List.filter_congr fun c child => ?_
  have under : TransGen f.HasParent c p := .head' (h.hasParent child) within
  have mem_iff : c ∈ f.directivesBelow p name ↔ _ := mem_directivesBelow h
  rw [and_iff_right under] at mem_iff
  cases asks : f.asks name c <;> simp [mem_iff, asks]

/-- The elements to be moved are pulled out of the tree below the head. -/
theorem Gathered.pullOut_tree (under : TransGen f.HasParent n p) :
    (f.tree n).pullOut (asksTag (Text.lower name)) =
      (if f.asks name n then [] else [g.tree n], ((f.walk n).filter (f.asks name)).map g.tree) := by
  have sound := moved.sound_directives h
  have plain' := moved.plainly h plain
  -- downward: what is pulled out of the children is known when the parent is looked at
  induction n using h.downward with
  | step n ih =>
      have inner := pullOut_map name fun c child =>
        ih c child (under.head (h.hasParent child))
      have label := label_of_content (moved.content n)
      -- `n` stands below `p` and so is not `p`: it loses children and gets none
      have children := moved.others n fun same => h.acyclic p (same ▸ under)
      rw [stay_iff h under.to_reflTransGen] at children
      rw [walk_eq h, List.filter_cons, List.filter_flatMap]
      cases kind : (f.cell n).label with
      | element t cs =>
          have tree := tree_element sound plain' (label.trans kind)
          rw [children, tag_of_content (moved.content n)] at tree
          rw [tree_element h plain kind, pullOut_element, inner, asks_element plain kind]
          split
          · rw [List.map_cons, tree]
          · rw [tree]
      | document cs =>
          have stays : f.asks name n = false := asks_other (by rw [kind]; rfl)
          rw [tree_document h plain kind, pullOut_document, inner, stays,
            tree_document sound plain' (label.trans kind), children]
          rfl
      | text s | comment s | doctype s | markup s =>
          have stays : f.asks name n = false := asks_other (by rw [kind]; rfl)
          obtain ⟨none, leaf⟩ := tree_leaf h plain (n := n) (by rw [kind]; rfl)
          have leaf' := (tree_leaf sound plain' (n := n) (by rw [label, kind]; rfl)).2
          rw [leaf, leaf', label, kind, none, stays]
          rfl

/-! ## The head -/

/-- What is made of the head. -/
abbrev gatherHead (name : String) : Node → Node :=
  Node.mapChildren fun cs =>
    let (kept, pulled) := pullOut (asksTag (Text.lower name)) cs
    kept ++ pulled

/-- The tree of the head has them at the end. -/
theorem Gathered.tree_head (element : (f.cell p).label.isElement) :
    gatherHead name (f.tree p) = g.tree p := by
  have sound := moved.sound_directives h
  have each : ∀ c ∈ f.childrenOf p, (f.tree c).pullOut (asksTag (Text.lower name)) =
      (if f.asks name c then [] else [g.tree c], ((f.walk c).filter (f.asks name)).map g.tree) :=
    fun c child => moved.pullOut_tree h plain (.single (h.hasParent child))
  cases kind : (f.cell p).label with
  | element t cs =>
      have label := (label_of_content (moved.content p)).trans kind
      rw [tree_element h plain kind, tree_element sound (moved.plainly h plain) label, moved.last,
        tag_of_content (moved.content p), stay_iff h .refl, directivesBelow_eq_flatMap h]
      show Node.element _ ((pullOut _ _).1 ++ (pullOut _ _).2) = _
      rw [pullOut_map name each, List.map_append]
  | document | text | comment | doctype | markup =>
      rw [kind] at element
      cases element

/-! ## Around the head -/

omit h plain moved in
theorem lower_head : Text.lower "head" = "head" := by decide

omit plain in
/-- Outside of the head nothing changes. -/
theorem Gathered.givesWay : f.GivesWay p [p] g :=
  givesWay_of_outside (fun m _ _ => moved.content m) fun m _ outside => by
    have apart : ¬ ReflTransGen f.HasParent m p := fun chain => outside ((mem_walk_iff h).mpr chain)
    exact childrenOf_of_cell (moved.outside h (below_of_mem h p name) apart)

/-- The tree of a document whose directives were moved. -/
theorem Gathered.children_tree (first : f.findFirst? d "head" = some p) :
    (g.tree d).children = Markup.moveDirectives (Text.lower name) (f.tree d).children := by
  have element : (f.cell p).label.isElement :=
    ((Bool.and_eq_true _ _).mp (findFirst?_below h first).2).1
  have found := findFirst?_found h plain d "head"
  rw [first, lower_head] at found
  rw [Markup.moveDirectives, moveToEndOfHead]
  generalize findPath? (Tag.isNamed "head") (f.tree d).children = path? at found ⊢
  cases found with
  | some stands =>
      have trees : [p].map g.tree = [gatherHead name (f.tree p)] := by
        rw [moved.tree_head h plain element]
        rfl
      exact stands.replaced h plain (moved.sound_directives h) (moved.plainly h plain)
        (moved.givesWay h) (r := fun n => [gatherHead name n]) trees

omit moved in
/-- Without a head no tree is changed. -/
theorem children_tree_of_none (name : String) (none : f.findFirst? d "head" = none) :
    Markup.moveDirectives (Text.lower name) (f.tree d).children = (f.tree d).children := by
  have found := findFirst?_found h plain d "head"
  rw [none, lower_head] at found
  rw [Markup.moveDirectives, moveToEndOfHead]
  generalize findPath? (Tag.isNamed "head") (f.tree d).children = path? at found ⊢
  cases found with
  | none => rfl

end

/-! ## The whole -/

/-- The elements of a name below the head `p` of a document `d` that carry directives have
become the last children of the head. -/
structure Rearranged (f : Forest) (d p : Nat) (name : String) (g : Forest) : Prop where
  /-- These elements, nested ones as well, are the ones that are moved. -/
  chosen : ∀ n, n ∈ f.directivesBelow p name ↔ TransGen f.HasParent n p ∧
    (f.cell n).label.isElement ∧ f.name n = Text.lower name ∧ (f.tagged n).isDirective
  /-- They are taken in document order. -/
  inOrder : (f.directivesBelow p name).Sublist (f.walk d)
  /-- They are the last children of the head, and all other children keep their order;
  every node keeps its kind, its attributes and its text. -/
  gathered : f.Gathered p (f.directivesBelow p name) g
  /-- No node is lost and none is added. -/
  same : (g.walk d).Perm (f.walk d)
  /-- What is not in the head does not change, -/
  outside : ∀ n, n ∉ f.walk p → g.cell n = f.cell n
  /-- and stands in front of the head or behind it as before. -/
  framed : ∃ front back, f.walk d = front ++ f.walk p ++ back ∧ g.walk d = front ++ g.walk p ++ back
  /-- Nodes that are neither moved nor inside a moved one keep their order. -/
  order : (g.walk d).filter (· ∉ f.walkAll (f.directivesBelow p name)) =
    (f.walk d).filter (· ∉ f.walkAll (f.directivesBelow p name))

theorem Gathered.rearranged (h : f.Sound) (first : f.findFirst? d "head" = some p)
    (moved : f.Gathered p (f.directivesBelow p name) g) : f.Rearranged d p name g := by
  have below := below_of_mem h p name
  have nodup := nodup_directivesBelow h p name
  have above := (findFirst?_below h first).1.to_reflTransGen
  have framed := moved.framed h below nodup above
  refine ⟨fun n => ?_, ?_, moved, moved.perm_walk h below nodup above, fun n apart => ?_, framed,
    moved.order h below nodup fun inside => ?_⟩
  · rw [mem_directivesBelow h, asks, isCalled, Bool.and_eq_true, Bool.and_eq_true, beq_iff_eq,
      and_assoc]
  · obtain ⟨front, back, old, -⟩ := framed
    have part : f.walk p <:+: f.walk d := ⟨front, back, old.symm⟩
    rw [directivesBelow_eq]
    exact List.filter_sublist.trans part.sublist
  · exact moved.outside h below fun chain => apart ((mem_walk_iff h).mpr chain)
  · obtain ⟨n, mem, visited⟩ := List.mem_flatMap.mp inside
    have chain := (mem_walk_iff h).mp visited
    exact h.acyclic n ((below n mem).trans_left (above.trans chain))

/-- The call is never refused, and a second one changes nothing. -/
theorem outcome_settles (h : f.Sound) (d : Nat) (name : String) :
    ∃ g, outcome (Relink.moveDirectives d name) f = (.ok (), g) ∧
      outcome (Relink.moveDirectives d name) g = (.ok (), g) ∧
      g.Sound ∧ (f.Plain → g.Plain) := by
  cases first : f.findFirst? d "head" with
  | none =>
      have run := outcome_of_none name first
      exact ⟨f, run, run, h, id⟩
  | some p =>
      obtain ⟨g, run, moved⟩ := outcome_moveDirectives h name first
      exact ⟨g, run, outcome_again h first moved, moved.sound_directives h,
        fun plain => moved.plainly h plain⟩

/-- Moving elements one by one makes the tree that moving them all at once makes. -/
theorem children_tree_of_outcome (h : f.Sound) (plain : f.Plain)
    (run : outcome (Relink.moveDirectives d name) f = (.ok (), g)) :
    (g.tree d).children = Markup.moveDirectives (Text.lower name) (f.tree d).children := by
  cases first : f.findFirst? d "head" with
  | none =>
      rw [outcome_of_none name first] at run
      cases run
      exact (children_tree_of_none h plain name first).symm
  | some p =>
      obtain ⟨g', run', moved⟩ := outcome_moveDirectives h name first
      rw [run] at run'
      cases run'
      exact moved.children_tree h plain first

/-- A second time the directives of a document stay where they are. -/
theorem moveDirectives_moveDirectives (name : String) (doc : Document) :
    Markup.moveDirectives (Text.lower name) (Markup.moveDirectives (Text.lower name) doc) =
      Markup.moveDirectives (Text.lower name) doc := by
  obtain ⟨sound, plain, tree⟩ := tree_addTree (.document doc)
  obtain ⟨g, run, again, sound', plainly⟩ := outcome_settles sound _ name
  have once := children_tree_of_outcome sound plain run
  rw [tree] at once
  have twice := children_tree_of_outcome sound' (plainly plain) again
  rw [once] at twice
  exact twice.symm

/-- Moving the directives of a name to the end of the head is never refused. It makes them
the last children of the first head, in document order, and leaves all else in place; a
second time it changes nothing. Moving them all at once makes the same tree. -/
theorem moveDirectives_rearranges (h : f.Sound) (d : Nat) (name : String) :
    ∃ g, outcome (Relink.moveDirectives d name) f = (.ok (), g) ∧
      (f.findFirst? d "head" = none → g = f) ∧
      (∀ p, f.findFirst? d "head" = some p → f.Rearranged d p name g) ∧
      outcome (Relink.moveDirectives d name) g = (.ok (), g) ∧
      (f.Plain →
        (g.tree d).children = Markup.moveDirectives (Text.lower name) (f.tree d).children ∧
        Markup.moveDirectives (Text.lower name) (g.tree d).children = (g.tree d).children) := by
  obtain ⟨g, run, again, sound, plainly⟩ := outcome_settles h d name
  refine ⟨g, run, fun none => ?_, fun p first => ?_, again, fun plain => ?_⟩
  · rw [outcome_of_none name none] at run
    cases run
    rfl
  · obtain ⟨g', run', moved⟩ := outcome_moveDirectives h name first
    rw [run] at run'
    cases run'
    exact moved.rearranged h first
  · exact ⟨children_tree_of_outcome h plain run,
      (children_tree_of_outcome sound (plainly plain) again).symm⟩

/-- A head with a title that has another one inside, a link, and one more title. -/
def titlesTree : Node :=
  let title (inside : List Node) : Node :=
    .element { name := "title", attributes := [("yst", some "value")] } inside
  .document [.element { name := "head" }
    [title [title []], .element { name := "link" } [], title []]]

/-- Its nodes: the document, the head, the two titles, the link and the last title. -/
def titlesForest : Forest := (addTree {} none titlesTree).2

theorem moveDirectives_rearranges_titles :
    titlesForest.Sound ∧ titlesForest.Plain ∧ titlesForest.findFirst? 0 "head" = some 1 ∧
      ∃ g, outcome (Relink.moveDirectives 0 "title") titlesForest = (.ok (), g) ∧
        g.childrenOf 1 = [4, 2, 3, 5] ∧ g.childrenOf 2 = [] ∧
        (g.tree 0).children = Markup.moveDirectives "title" titlesTree.children ∧
        outcome (Relink.moveDirectives 0 "title") g = (.ok (), g) := by
  obtain ⟨sound, plain, tree⟩ := tree_addTree titlesTree
  have first : titlesForest.findFirst? 0 "head" = some 1 := by decide +kernel
  obtain ⟨g, run, -, rearranged, again, whole⟩ := moveDirectives_rearranges sound 0 "title"
  have moved := (rearranged 1 first).gathered
  have lower : Text.lower "title" = "title" := by decide
  refine ⟨sound, plain, first, g, run, ?_, ?_, ?_, again⟩
  · rw [moved.last]
    decide +kernel
  · rw [moved.others 2 (by decide)]
    decide +kernel
  · rw [(whole plain).1, lower]
    exact congrArg (fun n : Node => Markup.moveDirectives "title" n.children) tree

end Forest

end PageTemplates.Markup
