import PageTemplates.Proofs.Compile.Growth
import PageTemplates.Proofs.Compile.Targets
import PageTemplates.Proofs.Markup.LinkedHead

/-!
# Compiling one node among linked nodes

Functions go to the head, a script is put in front of the node, and the node is taken out.
None of the calls is refused. The main facts:

* `Attached.kept`, `Kept.freed`: what the calls leave of the elements that are still to be
  replaced;
* `outcome_hoists`: functions are added to the head, which makes the tree that `place`
  makes;
* `outcome_giveWay`: a node gives way to the script that writes it out;
* `outcome_compileNode`: what compiling a node comes to.
-/

namespace PageTemplates.Markup.Forest

open Relation (ReflTransGen TransGen)

variable {f g : Forest} {c d i m n p q s t : Nat} {front back ss : List Nat} {ns : List Node}

/-! ## Elements that are still to be replaced -/

theorem not_isTarget_of_tree (h : f.Sound) (plain : f.Plain)
    (none : (f.tree s).findPath? Compile.isTarget = none) (below : ReflTransGen f.HasParent m s) :
    f.isTarget m = false := by
  have found := found_among h plain (p := Compile.isTarget) [s]
  have nowhere : findPath? Compile.isTarget ([s].map f.tree) = .none :=
    findPath?_cons_eq_none.mpr ⟨none, rfl⟩
  rw [nowhere, List.flatMap_singleton] at found
  generalize nothing : (f.walk s).find? (f.hasTag Compile.isTarget) = m? at found
  cases found with
  | none =>
      exact Bool.eq_false_iff.mpr (List.find?_eq_none.mp nothing m ((mem_walk_iff h).mpr below))

/-- New trees without such an element leave those that there are. -/
theorem Attached.kept (attached : f.Attached p front back ns ss g) (h : f.Sound)
    (none : findPath? Compile.isTarget ns = none) : f.Kept [] g where
  size := attached.size
  content := attached.content
  children m old := by
    -- new nodes have numbers from the old size on
    have olds {l : List Nat} (sub : ∀ c ∈ l, c ∈ f.childrenOf m) :
        l.filter (· < f.cells.size) = l :=
      List.filter_eq_self.mpr fun c mem => decide_eq_true (lt_of_child h (sub c mem))
    have all : (f.childrenOf m).filter (· ∉ []) = f.childrenOf m := by simp
    rw [all]
    by_cases here : m = p
    · subst here
      have news : ss.filter (· < f.cells.size) = [] :=
        List.filter_eq_nil_iff.mpr fun s mem small =>
          Nat.not_lt_of_le (attached.fresh s mem) (of_decide_eq_true small)
      rw [attached.here, List.filter_append, List.filter_append, news, attached.split,
        olds fun c mem => attached.split ▸ List.mem_append_left _ mem,
        olds fun c mem => attached.split ▸ List.mem_append_right _ mem]
      rfl
    · rw [attached.others m old here, olds fun c mem => mem]
  fresh m old c child new depth := by
    obtain ⟨s, mem, below⟩ :=
      attached.through h new old (.single (attached.sound.hasParent child))
    have alone : (g.tree s).findPath? Compile.isTarget = .none := by
      have mem : g.tree s ∈ ns := attached.trees ▸ List.mem_map_of_mem mem
      obtain ⟨before, after, rfl⟩ := List.append_of_mem mem
      rw [findPath?_append_eq_none, findPath?_cons_eq_none] at none
      exact none.2.1
    -- the new node stands in one of the new trees, and there is no target in these
    refine targetsTo_of_none attached.sound (List.find?_eq_none.mpr fun m visited => ?_) depth
    have inside := ((mem_walk_iff attached.sound).mp visited).trans below
    rw [not_isTarget_of_tree attached.sound attached.plain alone inside]
    exact Bool.false_ne_true

theorem Kept.freed (h : f.Sound) (t : Nat) : f.Kept [t] (f.freed t) where
  size := Nat.le_of_eq (size_freed f t).symm
  content m _ := content_freed f t m
  children m _ := by
    have all := List.filter_eq_self.mpr fun c child =>
      decide_eq_true (lt_of_child (h.freed t) (m := m) child)
    rw [size_freed] at all
    rw [all, childrenOf_freed h.consistent]
    simp
  fresh m _ c child new := by
    have := lt_of_child (h.freed t) child
    rw [size_freed] at this
    omega

end PageTemplates.Markup.Forest

namespace PageTemplates.Compile

open Markup Markup.Forest

variable {o : Options} {f g : Forest} {d i p t generated : Nat} {code? : Option String}
  {codes : List String}

/-- Linked nodes among which the document `d` can be compiled. -/
structure Workable (d : Nat) (f : Forest) : Prop where
  sound : f.Sound
  plain : f.Plain
  document : f.IsDocument d

theorem Workable.of_label (work : Workable d f) (sound : g.Sound) (plain : g.Plain)
    (size : f.cells.size ≤ g.cells.size) (label : (g.cell d).label = (f.cell d).label) :
    Workable d g where
  sound := sound
  plain := plain
  document.there := Nat.lt_of_lt_of_le work.document.there size
  document.label := by rw [label, work.document.label]

theorem Workable.grown (work : Workable d f) (grown : f.Grown g) : Workable d g :=
  work.of_label grown.sound grown.plain grown.size
    (label_of_content (grown.content d work.document.there))

theorem Workable.freed (work : Workable d f) (t : Nat) : Workable d (f.freed t) :=
  work.of_label (work.sound.freed t) (work.plain.freed work.sound t)
    (Nat.le_of_eq (size_freed f t).symm) (label_of_content (content_freed f t d))

theorem Workable.not_isCalled (work : Workable d f) (name : String) : f.isCalled name d = false := by
  rw [isCalled, work.document.label]
  rfl

namespace Rework

theorem outcome_relink {α : Type} {x : Relink α} {a : α} {w : Work}
    (run : outcome x w.forest = (.ok a, g)) :
    outcome (relink x) w = (.ok a, { w with forest := g }) := by
  unfold relink
  rw [outcome_bind, outcome_get]
  dsimp only
  unfold outcome at run
  rw [run]
  rfl

theorem outcome_generate {x : Relink Unit} {w : Work} (run : outcome x w.forest = (.ok (), g)) :
    outcome (generate x) w = (.ok (), { forest := g, generated := w.generated + 1 }) := by
  unfold generate
  rw [outcome_bind, outcome_relink run]
  rfl

/-! ## Adding functions -/

/-- A function goes to the head that is found. -/
theorem outcome_hoist (generated : Nat) (work : Workable d f)
    (first : f.findFirst? d "head" = some i) (code : String) : ∃ s g,
    outcome (hoist d code) ⟨f, generated⟩ = (.ok (), ⟨g, generated + 1⟩) ∧
      f.Attached i (f.childrenOf i) [] [functionScript code] [s] g ∧
      g.findFirst? d "head" = some i := by
  obtain ⟨below, called⟩ := findFirst?_below work.sound first
  obtain ⟨g, run, attached⟩ := attached_last work.sound work.plain (lt_of_below below)
    (canHold_of_isCalled called) (functionScript code)
  refine ⟨_, g, outcome_generate ?_, attached, ?_⟩
  · have found : outcome (Relink.head d) f = (.ok i, f) := by
      unfold Relink.head
      rw [outcome_bind, outcome_get]
      dsimp only
      rw [first]
      rfl
    rw [outcome_bind, found]
    dsimp only
    rw [outcome_bind, outcome_add]
    exact run
  · rw [attached.findFirst?_eq work.sound called work.document.there (work.not_isCalled "head"),
      first]

/-- Functions go to the head that is found, one behind the other. -/
theorem outcome_hoists_found (generated : Nat) (work : Workable d f)
    (first : f.findFirst? d "head" = some i) (codes : List String) : ∃ ss g,
    outcome (codes.forM (hoist d)) ⟨f, generated⟩ =
        (.ok (), ⟨g, generated + codes.length⟩) ∧
      f.Attached i (f.childrenOf i) [] (codes.map functionScript) ss g := by
  induction codes generalizing f generated with
  | nil =>
      have within := lt_of_below (findFirst?_below work.sound first).1
      exact ⟨[], f, rfl, .refl work.sound work.plain within (List.append_nil _).symm⟩
  | cons code codes ih =>
      obtain ⟨s, g, run, attached, found⟩ := outcome_hoist generated work first code
      obtain ⟨ss, k, runs, rest⟩ := ih (generated + 1) (work.grown attached.toGrown) found
      rw [attached.here, List.append_nil] at rest
      refine ⟨s :: ss, k, ?_, attached.append rest⟩
      rw [outcome_forM_cons, run]
      dsimp only
      rw [runs, List.length_cons, Nat.add_assoc, Nat.add_comm 1]

theorem outcome_relink_congr {α : Type} {x : Relink α} (same : outcome x f = outcome x g) :
    outcome (relink x) ⟨f, generated⟩ = outcome (relink x) ⟨g, generated⟩ := by
  unfold relink
  rw [outcome_bind, outcome_bind, outcome_get, outcome_get]
  dsimp only
  unfold outcome at same
  rw [same]
  rfl

theorem findPath?_newFunctions (codes : List String) :
    findPath? isTarget (codes.map functionScript) = none ∧
      findPath? isTarget [newHead (codes.map functionScript)] = none := by
  have functions := findPath?_functions (p := isTarget) (fun t script => by simp [isTarget, script]) codes
  refine ⟨functions, findPath?_cons_eq_none.mpr ⟨?_, rfl⟩⟩
  rw [newHead, findPath?_element_eq_none]
  exact ⟨by decide +kernel, functions⟩

/-- Functions are added to the head, which is made if need be. -/
theorem outcome_hoists (generated : Nat) (work : Workable d f) (codes : List String) : ∃ g,
    outcome (codes.forM (hoist d)) ⟨f, generated⟩ = (.ok (), ⟨g, generated + codes.length⟩) ∧
      Workable d g ∧ f.Kept [] g ∧
      (g.tree d).children = place codes (f.tree d).children := by
  cases codes with
  | nil => exact ⟨f, rfl, work, .refl work.sound, rfl⟩
  | cons code codes =>
      obtain ⟨i, f₁, head, ready⟩ := outcome_head work.sound work.plain work.document
      have work₁ : Workable d f₁ := work.grown (ready.grown work.sound work.plain)
      have first := ready.findFirst? work.sound work.document
      obtain ⟨ss, g, run, added⟩ :=
        outcome_hoists_found generated work₁ first (code :: codes)
      obtain ⟨_, _, _, ms, _, attached, new⟩ := ready.attached added
      -- the first function finds the head or makes it, so it is as if the head had been there
      have same : outcome (hoist d code) ⟨f, generated⟩ = outcome (hoist d code) ⟨f₁, generated⟩ := by
        have again : outcome (Relink.head d) f₁ = (.ok i, f₁) := by
          unfold Relink.head
          rw [outcome_bind, outcome_get]
          dsimp only
          rw [first]
          rfl
        unfold hoist generate
        rw [outcome_bind, outcome_bind, outcome_relink_congr]
        rw [outcome_bind, outcome_bind, head, again]
      refine ⟨g, ?_, work₁.grown added.toGrown, ?_, ?_⟩
      · rw [← run, outcome_forM_cons, outcome_forM_cons, same]
      · refine attached.kept work.sound ?_
        rcases new with rfl | rfl
        · exact (findPath?_newFunctions (code :: codes)).1
        · exact (findPath?_newFunctions (code :: codes)).2
      · exact ready.children_tree work.sound work.plain work.document added

/-! ## Replacing the node -/

/-- A node gives way to the script that writes it out, or to nothing. -/
theorem outcome_giveWay (generated : Nat) (work : Workable d f) (parent : f.HasParent t p)
    (target : f.isTarget t) (code? : Option String) : ∃ ss g,
    outcome (giveWay p t code?) ⟨f, generated⟩ =
        (.ok (), ⟨g, generated + (code?.map writeScript).toList.length⟩) ∧
      Workable d g ∧ f.Kept [t] g ∧
      f.GivesWay t ss g ∧ ss.map g.tree = (code?.map writeScript).toList := by
  have child := work.sound.child parent
  have within := lt_of_mem_childrenOf child
  have holds : (f.cell p).label.canHold :=
    work.plain.branching p fun none => by rw [none] at child; cases child
  obtain ⟨front, back, split⟩ := List.append_of_mem child
  -- the script is put in front of the node, and then the node is taken out
  obtain ⟨ss, f₁, run, attached⟩ : ∃ ss f₁,
      outcome (giveWay p t code?) ⟨f, generated⟩ = outcome (relink (Relink.remove p t))
          ⟨f₁, generated + (code?.map writeScript).toList.length⟩ ∧
        f.Attached p front (t :: back) (code?.map writeScript).toList ss f₁ := by
    cases code? with
    | none => exact ⟨[], f, rfl, .refl work.sound work.plain within split⟩
    | some code =>
        obtain ⟨f₁, run, attached⟩ :=
          attached_before work.sound work.plain within holds (writeScript code) split
        refine ⟨_, f₁, ?_, attached⟩
        unfold giveWay
        rw [outcome_bind]
        dsimp only
        rw [outcome_generate (g := f₁)]
        · rfl
        · rw [outcome_bind, outcome_add]
          exact run
  have parent₁ : f₁.parentOf t = some p := by
    rw [attached.parent t (lt_of_parentOf parent)]
    exact parent
  have removed : outcome (Relink.remove p t) f₁ = (.ok (), f₁.freed t) := by
    rw [outcome_remove, if_pos (attached.sound.child parent₁), freed, parent₁]
  have quiet : findPath? isTarget (code?.map writeScript).toList = none := by
    cases code? with
    | none => rfl
    | some code =>
        refine findPath?_cons_eq_none.mpr ⟨?_, rfl⟩
        rw [writeScript, Node.script, findPath?_element_eq_none]
        exact ⟨by decide, rfl⟩
  refine ⟨ss, f₁.freed t, ?_, (work.grown attached.toGrown).freed t, ?_,
    attached.givesWay_freed work.sound, attached.trees_freed work.sound⟩
  · rw [run]
    exact outcome_relink removed
  · refine (attached.kept work.sound quiet).trans (.freed attached.sound t) attached.sound
      fun t' mem => ?_
    rw [List.mem_singleton.mp mem, isTarget_of_content (attached.content t (lt_of_parentOf parent))]
    exact target

/-- Compiling a node takes it out. What is left to be replaced is as before, and the tree is
the one with the functions and with the script in place of the node. -/
structure Compiled (d t : Nat) (code? : Option String) (codes : List String) (f g : Forest) :
    Prop where
  work : Workable d g
  kept : f.Kept [t] g
  /-- In between the functions have been added. -/
  between : ∃ f₁ ss, Workable d f₁ ∧ f.Kept [] f₁ ∧
    (f₁.tree d).children = place codes (f.tree d).children ∧ f₁.GivesWay t ss g ∧
    ss.map g.tree = (code?.map writeScript).toList

/-- No call is refused when a node that has a parent is compiled. -/
theorem outcome_compileNode (generated : Nat) (work : Workable d f) (parent : f.HasParent t p)
    (target : f.isTarget t) :
    match codeOf o (f.tree d).children (f.path d t) with
    | .error e => outcome (compileNode o d t) ⟨f, generated⟩ = (.error (.template e), ⟨f, generated⟩)
    | .ok (code?, codes) => ∃ g, outcome (compileNode o d t) ⟨f, generated⟩ =
        (.ok (), ⟨g, generated + codes.length + (code?.map writeScript).toList.length⟩) ∧
        Compiled d t code? codes f g := by
  have here : (f.cell t).parent = some p := parent
  unfold compileNode
  rw [outcome_bind, outcome_get]
  dsimp only
  rw [here]
  dsimp only
  generalize codeOf o (f.tree d).children (f.path d t) = result
  cases result with
  | error e => rfl
  | ok result =>
      obtain ⟨code?, codes⟩ := result
      obtain ⟨f₁, run, work₁, kept, tree⟩ := outcome_hoists generated work codes
      have old := lt_of_parentOf parent
      have child : t ∈ (f.childrenOf p).filter (· ∉ []) :=
        List.mem_filter.mpr ⟨work.sound.child parent, by simp⟩
      rw [← kept.children p (lt_of_mem_childrenOf (work.sound.child parent))] at child
      have parent₁ := work₁.sound.hasParent (List.mem_filter.mp child).1
      have target₁ : f₁.isTarget t := by rwa [isTarget_of_content (kept.content t old)]
      obtain ⟨ss, g, run₁, work₂, kept₁, way, scripts⟩ :=
        outcome_giveWay (generated + codes.length) work₁ parent₁ target₁ code?
      refine ⟨g, ?_, work₂, kept.trans kept₁ work₁.sound fun t' mem => ?_,
        f₁, ss, work₁, kept, tree, way, scripts⟩
      · dsimp only
        rw [outcome_bind, run]
        exact run₁
      · rwa [List.mem_singleton.mp mem]

/-- A node without a parent is not compiled. -/
theorem outcome_compileNode_orphan (root : f.parentOf t = none) :
    outcome (compileNode o d t) ⟨f, generated⟩ = (.error (.orphan (f.name t)), ⟨f, generated⟩) := by
  have here : (f.cell t).parent = none := root
  unfold compileNode
  rw [outcome_bind, outcome_get]
  dsimp only
  rw [here]
  rfl

end Rework

end PageTemplates.Compile
