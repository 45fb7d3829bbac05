import PageTemplates.Proofs.Markup.Moved

/-!
# Directives at the end of the head

The elements of a name that carry directives are appended to the first head, one after the
other. The main facts:

* `outcome_gather`: no call is refused, and the elements become the last children;
* `mem_directivesBelow`: which elements these are;
* `Gathered.findFirst?`, `Gathered.directivesBelow`: afterwards the same head and the same
  elements are found in the same order;
* `outcome_moveDirectives`, `outcome_again`: what the run does, and that a second one does
  nothing.
-/

namespace PageTemplates.Markup

namespace Forest

open Relation (ReflTransGen TransGen)

variable {f g : Forest} {n m p d : Nat} {ns : List Nat} {name : String}

/-! ## The run -/

theorem outcome_gather_from (h : f.Sound) {done : List Nat} (nodup : (done ++ ns).Nodup)
    (below : ∀ n ∈ done ++ ns, TransGen f.HasParent n p) (before : f.Gathered p done g) :
    ∃ g', outcome (ns.forM (Relink.append p)) g = (.ok (), g') ∧
      f.Gathered p (done ++ ns) g' := by
  -- what was done so far keeps links sound, so the next call is not refused
  induction ns generalizing done g with
  | nil => exact ⟨g, rfl, by rwa [List.append_nil]⟩
  | cons n ns ih =>
      have below' : ∀ m ∈ done, TransGen f.HasParent m p := fun m mem =>
        below m (List.mem_append_left _ mem)
      have consistent := (before.sound h below' (List.nodup_append.mp nodup).1).consistent
      have under := below n (List.mem_append_right _ List.mem_cons_self)
      have hn : n < g.cells.size := by
        rw [before.size]
        exact lt_of_below under
      have hp : p < g.cells.size := by
        obtain ⟨c, -, parent⟩ := TransGen.tail'_iff.mp under
        rw [before.size]
        exact lt_of_mem_childrenOf (h.child parent)
      have new : n ∉ done := fun mem =>
        (List.nodup_append.mp nodup).2.2 n mem n List.mem_cons_self rfl
      have one := gathered_append before consistent hn hp new
      obtain ⟨g', run, after⟩ := ih (by rwa [← List.append_cons]) (by rwa [← List.append_cons]) one
      refine ⟨g', ?_, by rwa [List.append_cons]⟩
      rw [outcome_forM_cons, outcome_append consistent]
      exact run

/-- Nodes below another one become its last children. -/
theorem outcome_gather (h : f.Sound) (nodup : ns.Nodup)
    (below : ∀ n ∈ ns, TransGen f.HasParent n p) :
    ∃ g, outcome (ns.forM (Relink.append p)) f = (.ok (), g) ∧ f.Gathered p ns g := by
  have run : ∃ g, outcome (ns.forM (Relink.append p)) f = (.ok (), g) ∧
      f.Gathered p ([] ++ ns) g := outcome_gather_from h nodup below (.refl f p)
  rwa [List.nil_append] at run

/-! ## What is moved -/

/-- An element of a name. -/
def isCalled (f : Forest) (name : String) (n : Nat) : Bool :=
  (f.cell n).label.isElement && f.name n == Text.lower name

/-- An element of a name that carries a directive. -/
def asks (f : Forest) (name : String) (n : Nat) : Bool :=
  f.isCalled name n && (f.tagged n).isDirective

theorem directivesBelow_eq (f : Forest) (p : Nat) (name : String) :
    f.directivesBelow p name = (f.walk p).filter fun n => n != p && f.asks name n := by
  rw [directivesBelow, findAll, List.filter_filter]
  congr 1
  funext n
  simp only [asks, isCalled, Bool.and_comm, Bool.and_left_comm]

theorem below_iff_ne (h : f.Sound) : TransGen f.HasParent n p ↔ n ∈ f.walk p ∧ n ≠ p := by
  rw [mem_walk_iff h]
  constructor
  · intro below
    exact ⟨below.to_reflTransGen, fun same => h.acyclic p (same ▸ below)⟩
  · rintro ⟨below, other⟩
    exact (Relation.reflTransGen_iff_eq_or_transGen.mp below).resolve_left (Ne.symm other)

theorem mem_directivesBelow (h : f.Sound) :
    n ∈ f.directivesBelow p name ↔ TransGen f.HasParent n p ∧ f.asks name n := by
  rw [directivesBelow_eq, List.mem_filter, Bool.and_eq_true, bne_iff_ne, ← and_assoc,
    ← below_iff_ne h]

theorem nodup_directivesBelow (h : f.Sound) (p : Nat) (name : String) :
    (f.directivesBelow p name).Nodup := by
  rw [directivesBelow_eq]
  exact (nodup_walk h p).filter _

theorem ne_of_mem_below (h : f.Sound) (mem : n ∈ (f.childrenOf p).flatMap f.walk) : n ≠ p := by
  have once := nodup_walk h p
  rw [walk_eq h, List.nodup_cons] at once
  rintro rfl
  exact once.1 mem

/-- They are found child by child. -/
theorem directivesBelow_eq_flatMap (h : f.Sound) (p : Nat) (name : String) :
    f.directivesBelow p name =
      (f.childrenOf p).flatMap fun c => (f.walk c).filter (f.asks name) := by
  rw [directivesBelow_eq, walk_eq h, List.filter_cons, if_neg (by simp), ← List.filter_flatMap]
  refine List.filter_congr fun n mem => ?_
  rw [bne_iff_ne.mpr (ne_of_mem_below h mem), Bool.true_and]

/-! ## A second time -/

theorem label_of_content (content : (g.cell n).content = (f.cell n).content) :
    (g.cell n).label = (f.cell n).label := congrArg Prod.fst content

theorem tag_of_content (content : (g.cell n).content = (f.cell n).content) :
    (g.cell n).tag = (f.cell n).tag := congrArg Prod.snd content

theorem tagged_of_content (content : (g.cell n).content = (f.cell n).content) :
    g.tagged n = f.tagged n := by
  rw [tagged, tagged, label_of_content content, tag_of_content content]

/-- Labels and tags stay good where nodes stay what they are. -/
theorem Plain.of_content (plain : f.Plain) (content : ∀ m, (g.cell m).content = (f.cell m).content)
    (branching : ∀ m, g.childrenOf m ≠ [] → (f.cell m).label.canHold) : g.Plain where
  bare m := by
    rw [label_of_content (content m)]
    exact plain.bare m
  named m element := by
    rw [label_of_content (content m)] at element ⊢
    rw [tag_of_content (content m)]
    exact plain.named m element
  branching m some := by
    rw [label_of_content (content m)]
    exact branching m some

theorem isCalled_of_content (content : (g.cell n).content = (f.cell n).content) :
    g.isCalled name n = f.isCalled name n := by
  rw [isCalled, isCalled, Forest.name, Forest.name, label_of_content content]

theorem asks_of_content (content : (g.cell n).content = (f.cell n).content) :
    g.asks name n = f.asks name n := by
  rw [asks, asks, isCalled_of_content content, tagged_of_content content]

section

variable (h : f.Sound) (moved : f.Gathered p (f.directivesBelow p name) g)

include h

theorem below_of_mem (p : Nat) (name : String) :
    ∀ n ∈ f.directivesBelow p name, TransGen f.HasParent n p := fun _ mem =>
  ((mem_directivesBelow h).mp mem).1

include moved

theorem Gathered.sound_directives : g.Sound :=
  moved.sound h (below_of_mem h p name) (nodup_directivesBelow h p name)

/-- Below a last child, the only element to be moved may be the child itself. -/
theorem Gathered.asks_below {c : Nat} (child : c ∈ g.childrenOf p) (visited : m ∈ g.walk c)
    (asks : f.asks name m) : m = c := by
  have sound := moved.sound_directives h
  have parent := sound.hasParent child
  have chain := (mem_walk_iff sound).mp visited
  have under := moved.above (below_of_mem h p name) (TransGen.tail' chain parent)
  -- such an element was moved, so its parent is `p` and not a node below a child
  have mem := (mem_directivesBelow h).mpr ⟨under, asks⟩
  rcases chain.cases_head with same | ⟨q, parent', rest⟩
  · exact same
  · rw [HasParent, moved.parent, if_pos mem] at parent'
    cases parent'
    exact absurd rest (not_above_child sound parent)

/-- So the walk of a last child finds the child at most. -/
theorem Gathered.filter_walk {c : Nat} (child : c ∈ g.childrenOf p) :
    (g.walk c).filter (f.asks name) = [c].filter (f.asks name) := by
  have sound := moved.sound_directives h
  have once := nodup_walk sound c
  rw [walk_eq sound, List.nodup_cons] at once
  have rest : ((g.childrenOf c).flatMap g.walk).filter (f.asks name) = [] := by
    refine List.filter_eq_nil_iff.mpr fun m mem asks => once.1 ?_
    have visited : m ∈ g.walk c := by
      rw [walk_eq sound]
      exact List.mem_cons_of_mem c mem
    rwa [moved.asks_below h child visited asks] at mem
  rw [walk_eq sound, List.filter_cons, List.filter_cons, List.filter_nil, rest]

/-- Of the last children, those to be moved are the ones that were moved. -/
theorem Gathered.filter_childrenOf :
    (g.childrenOf p).filter (f.asks name) = f.directivesBelow p name := by
  rw [moved.last, List.filter_append]
  have kept :
      ((f.childrenOf p).filter (· ∉ f.directivesBelow p name)).filter (f.asks name) = [] := by
    refine List.filter_eq_nil_iff.mpr fun c mem asks => ?_
    obtain ⟨child, other⟩ := List.mem_filter.mp mem
    have under : TransGen f.HasParent c p := .single (h.hasParent child)
    exact of_decide_eq_true other ((mem_directivesBelow h).mpr ⟨under, asks⟩)
  have all : (f.directivesBelow p name).filter (f.asks name) = f.directivesBelow p name :=
    List.filter_eq_self.mpr fun c mem => ((mem_directivesBelow h).mp mem).2
  rw [kept, all, List.nil_append]

/-- Afterwards the same elements are found, in the same order. -/
theorem Gathered.directivesBelow : g.directivesBelow p name = f.directivesBelow p name := by
  have same : g.asks name = f.asks name := funext fun n => asks_of_content (moved.content n)
  rw [directivesBelow_eq_flatMap (moved.sound_directives h), same,
    List.flatMap_congr fun c child => moved.filter_walk h child, ← List.filter_flatMap,
    List.flatMap_singleton', moved.filter_childrenOf h]

end

theorem findFirst?_eq (f : Forest) (d : Nat) (name : String) :
    f.findFirst? d name = (f.walk d).find? fun m => m != d && f.isCalled name m := by
  rw [findFirst?, findAll, List.head?_filter]
  simp only [isCalled, Bool.and_assoc]

/-- The first element is found child by child. -/
theorem findFirst?_eq_flatMap (h : f.Sound) (d : Nat) (name : String) :
    f.findFirst? d name = ((f.childrenOf d).flatMap f.walk).find? (f.isCalled name) := by
  rw [findFirst?_eq, walk_eq h, List.find?_cons_of_neg (by simp), ← List.head?_filter,
    ← List.head?_filter]
  congr 1
  refine List.filter_congr fun n mem => ?_
  rw [bne_iff_ne.mpr (ne_of_mem_below h mem), Bool.true_and]

theorem findFirst?_below (h : f.Sound) (first : f.findFirst? d name = some p) :
    TransGen f.HasParent p d ∧ f.isCalled name p := by
  rw [findFirst?_eq] at first
  have holds := List.find?_some first
  rw [Bool.and_eq_true, bne_iff_ne] at holds
  exact ⟨(below_iff_ne h).mpr ⟨List.mem_of_find?_eq_some first, holds.1⟩, holds.2⟩

/-- What is found first does not depend on what follows it. -/
theorem find?_followed {P : Nat → Bool} {front xs ys : List Nat}
    (first : (front ++ p :: xs).find? P = some p) : (front ++ p :: ys).find? P = some p := by
  have here := List.find?_some first
  rw [List.find?_append, List.find?_cons_of_pos here] at first ⊢
  exact first

/-- Afterwards the same node is found first. -/
theorem Gathered.findFirst? (h : f.Sound) (below : ∀ n ∈ ns, TransGen f.HasParent n p)
    (nodup : ns.Nodup) (moved : f.Gathered p ns g) (first : f.findFirst? d name = some p) :
    g.findFirst? d name = some p := by
  have above := (findFirst?_below h first).1.to_reflTransGen
  obtain ⟨front, back, old, new⟩ := moved.framed h below nodup above
  have same : g.isCalled name = f.isCalled name :=
    funext fun m => isCalled_of_content (moved.content m)
  rw [findFirst?_eq, old, walk_eq h p, List.append_assoc] at first
  rw [findFirst?_eq, same, new, walk_eq (moved.sound h below nodup) p, List.append_assoc]
  exact find?_followed first

/-! ## The whole -/

theorem ext_cells (size : g.cells.size = f.cells.size) (cells : ∀ m, g.cell m = f.cell m) :
    g = f := by
  suffices same : g.cells = f.cells by
    cases f
    cases g
    exact congrArg Forest.mk same
  refine Array.ext size fun i hg hf => ?_
  have here := cells i
  rwa [cell, cell, Array.getD_eq_getD_getElem?, Array.getD_eq_getD_getElem?,
    Array.getElem?_eq_getElem hg, Array.getElem?_eq_getElem hf] at here

/-- Gathering last children again changes nothing. -/
theorem Gathered.again {g' : Forest} (moved : f.Gathered p ns g) (twice : g.Gathered p ns g') :
    g' = g := by
  have old (l : List Nat) : (l.filter (· ∉ ns)).filter (· ∉ ns) = l.filter (· ∉ ns) := by
    rw [List.filter_filter]
    simp
  refine ext_cells twice.size fun m => cell_congr (twice.content m) ?_ ?_
  · rw [twice.parent, moved.parent]
    split <;> rfl
  · by_cases here : m = p
    · subst here
      rw [twice.last, moved.last, List.filter_append, old,
        filter_not_mem_eq_nil fun m mem => mem, List.append_nil]
    · rw [twice.others m here, moved.others m here, old]

theorem outcome_of_none (name : String) (none : f.findFirst? d "head" = none) :
    outcome (Relink.moveDirectives d name) f = (.ok (), f) := by
  rw [Relink.moveDirectives, outcome_bind, outcome_get]
  dsimp only
  rw [none, outcome_pure]

theorem outcome_of_some (first : f.findFirst? d "head" = some p) :
    outcome (Relink.moveDirectives d name) f =
      outcome ((f.directivesBelow p name).forM (Relink.append p)) f := by
  rw [Relink.moveDirectives, outcome_bind, outcome_get]
  dsimp only
  rw [first]

/-- The elements become the last children of the first head. -/
theorem outcome_moveDirectives (h : f.Sound) (name : String)
    (first : f.findFirst? d "head" = some p) :
    ∃ g, outcome (Relink.moveDirectives d name) f = (.ok (), g) ∧
      f.Gathered p (f.directivesBelow p name) g := by
  rw [outcome_of_some first]
  exact outcome_gather h (nodup_directivesBelow h p name) (below_of_mem h p name)

/-- A second time nothing changes. -/
theorem outcome_again (h : f.Sound) (first : f.findFirst? d "head" = some p)
    (moved : f.Gathered p (f.directivesBelow p name) g) :
    outcome (Relink.moveDirectives d name) g = (.ok (), g) := by
  have first' := moved.findFirst? h (below_of_mem h p name) (nodup_directivesBelow h p name) first
  obtain ⟨g', run, twice⟩ := outcome_moveDirectives (moved.sound_directives h) name first'
  rw [moved.directivesBelow h] at twice
  rwa [moved.again twice] at run

end Forest

end PageTemplates.Markup
