import PageTemplates.Proofs.Compile.LinkedGroups
import PageTemplates.Proofs.Compile.NodeSteps
import PageTemplates.Proofs.Compile.Reporting

/-!
# Compiling linked nodes

A document is compiled in place while it is walked, and every list of children that the walk
goes through was read before any of them was compiled. The main facts:

* `outcome_compileTo`: the walk compiles the elements that were to be replaced when it began,
  in document order;
* `outcome_targets`: compiling them one by one is compiling the first one again and again;
* `outcome_inline`: compiling a document among linked nodes is compiling its tree;
* `linked_inline_reports`: it fails at the first unknown directive that is reached, and for
  no other reason.
-/

namespace PageTemplates.Compile.Rework

open Markup Markup.Forest

open Relation (ReflTransGen TransGen)

variable {o : Options} {f g : Forest} {c d i p t generated depth : Nat} {w w' : Work}
  {cs ts : List Nat}

/-! ## The walk -/

/-- Compiling a node goes on as it began. -/
theorem compileNode_keeps (work : Workable d w.forest) (target : w.forest.isTarget t)
    (done : outcome (compileNode o d t) w = (.ok (), w')) :
    Workable d w'.forest ∧ w.forest.Kept [t] w'.forest := by
  obtain ⟨f, generated⟩ := w
  cases parent : f.parentOf t with
  | none =>
      rw [outcome_compileNode_orphan parent] at done
      cases done
  | some p =>
      have step := outcome_compileNode (o := o) generated work parent target
      split at step
      · rw [step] at done
        cases done
      · obtain ⟨g, run, compiled⟩ := step
        rw [run] at done
        cases done
        exact ⟨compiled.work, compiled.kept⟩

theorem compileNodes_keep (work : Workable d w.forest) (targets : ∀ t ∈ ts, w.forest.isTarget t)
    (within : ∀ t ∈ ts, t < w.forest.cells.size)
    (done : outcome (ts.forM (compileNode o d)) w = (.ok (), w')) :
    Workable d w'.forest ∧ w.forest.Kept ts w'.forest := by
  induction ts generalizing w with
  | nil =>
      cases done
      exact ⟨work, .refl work.sound⟩
  | cons t ts ih =>
      obtain ⟨_, w₁, first, rest⟩ := outcome_bind_eq_ok.mp done
      obtain ⟨work₁, kept⟩ := compileNode_keeps work (targets t List.mem_cons_self) first
      have still : ∀ t ∈ ts, w₁.forest.isTarget t := fun t' mem => by
        rw [isTarget_of_content (kept.content t' (within t' (List.mem_cons_of_mem t mem)))]
        exact targets t' (List.mem_cons_of_mem t mem)
      obtain ⟨work', kept'⟩ := ih work₁ still
        (fun t' mem => Nat.lt_of_lt_of_le (within t' (List.mem_cons_of_mem t mem)) kept.size) rest
      exact ⟨work', kept.trans kept' work₁.sound still⟩

/-- Compiling some siblings one after the other, where what is to be replaced at one of them
is neither at another one nor another one itself. -/
theorem outcome_siblings {T : Nat → List Nat} (work : Workable d w.forest)
    (each : ∀ c ∈ cs, c < w.forest.cells.size ∧ w.forest.targetsTo depth c = T c)
    (apart : cs.Pairwise fun c b => b ∉ T c ∧ ∀ t ∈ T c, t ∉ T b)
    (inner : ∀ {w : Work} {c : Nat}, Workable d w.forest → c < w.forest.cells.size →
      outcome (compileTo o d depth c) w =
        outcome ((w.forest.targetsTo depth c).forM (compileNode o d)) w) :
    outcome (cs.forM (compileTo o d depth)) w =
      outcome ((cs.flatMap T).forM (compileNode o d)) w := by
  induction cs generalizing w with
  | nil => rfl
  | cons c cs ih =>
      obtain ⟨within, here⟩ := each c List.mem_cons_self
      have first := inner work within
      rw [here] at first
      rw [List.flatMap_cons, outcome_forM_cons, outcome_forM_append, first]
      rcases done : outcome ((T c).forM (compileNode o d)) w with ⟨_ | _, w₁⟩
      · rfl
      · have targets : ∀ t ∈ T c, w.forest.isTarget t := fun t mem =>
          isTarget_of_mem (here ▸ mem)
        have inside : ∀ t ∈ T c, t < w.forest.cells.size := fun t mem => by
          rcases Relation.reflTransGen_iff_eq_or_transGen.mp
            (below_of_mem_targetsTo work.sound (here ▸ mem)) with rfl | strictly
          · exact within
          · exact lt_of_below strictly
        obtain ⟨work₁, kept⟩ := compileNodes_keep work targets inside done
        rw [List.pairwise_cons] at apart
        -- the other siblings have the elements that they had
        refine ih work₁ (fun b mem => ?_) apart.2
        obtain ⟨within', there⟩ := each b (List.mem_cons_of_mem c mem)
        obtain ⟨stays, others⟩ := apart.1 b mem
        refine ⟨Nat.lt_of_lt_of_le within' kept.size, ?_⟩
        rw [kept.targetsTo_eq work.sound targets within' stays, there]
        exact List.filter_eq_self.mpr fun t hit => decide_eq_true fun gone => others t gone hit

/-- The walk compiles what was to be replaced when it began, in document order. -/
theorem outcome_compileTo (work : Workable d w.forest) (within : i < w.forest.cells.size) :
    outcome (compileTo o d depth i) w =
      outcome ((w.forest.targetsTo depth i).forM (compileNode o d)) w := by
  induction depth generalizing w i with
  | zero => rfl
  | succ depth ih =>
      unfold compileTo
      rw [outcome_bind, outcome_get]
      dsimp only
      cases target : w.forest.isTarget i with
      | true =>
          rw [if_pos rfl, targetsTo_of_isTarget target]
          rw [outcome_forM_cons]
          rcases outcome (compileNode o d i) w with ⟨_ | _, _⟩ <;> rfl
      | false =>
          rw [if_neg Bool.false_ne_true, targetsTo_of_not_isTarget target]
          have h := work.sound
          have inside {c t : Nat} (mem : t ∈ w.forest.targetsTo depth c) :=
            below_of_mem_targetsTo h mem
          refine outcome_siblings work (fun c child => ⟨lt_of_child h child, rfl⟩) ?_ ih
          refine (h.consistent.once i).imp_of_mem fun {c b} hc hb other => ?_
          have hc := h.hasParent hc
          have hb := h.hasParent hb
          exact ⟨fun mem => siblings_apart h hc hb other (inside mem) .refl,
            fun t mem mem' => siblings_apart h hc hb other (inside mem) (inside mem')⟩

/-! ## One element after the other -/

/-- The first element that is to be replaced stands where it is found in the tree. -/
theorem first_target (work : Workable d f) (enough : f.cells.size ≤ depth) :
    Option.Rel (fun t path => f.StandsAmong t (f.childrenOf d) path)
      (f.targetsTo (depth + 1) d).head? (findPath? isTarget (f.tree d).children) := by
  have found := found_below work.sound work.plain (p := isTarget) d
  have other : f.isTarget d = false := hasTag_other (by rw [work.document.label]; rfl)
  have first := head?_targetsTo (i := d) work.sound enough
  rw [walk_eq work.sound, List.find?_cons_of_neg (Bool.eq_false_iff.mp other)] at first
  rw [first]
  exact found

theorem compileTargets_of_none {p : Progress} (absent : findPath? isTarget p.doc = none) (n : Nat) :
    compileTargets o n p = .ok p := by
  cases n with
  | zero => rfl
  | succ n => rw [compileTargets, absent]

theorem codeAt_eq_codeOf (path : Path) (p : Progress) : codeAt o false false path p = do
    let (code?, codes) ← codeOf o p.doc path
    return (code?, { doc := place codes p.doc, generated := p.generated + codes.length }) := rfl

/-- A step of compiling linked nodes is a step of compiling their tree. -/
theorem Compiled.step {code? : Option String} {codes : List String}
    (compiled : Compiled d t code? codes f g) (work : Workable d f)
    (all : ∀ k ≥ depth, f.targetsTo k d = t :: ts) (generated : Nat) :
    replaceFirst code? { doc := place codes (f.tree d).children, generated } =
      { doc := (g.tree d).children,
        generated := generated + (code?.map writeScript).toList.length } := by
  obtain ⟨f₁, ss, work₁, kept, tree, way, scripts⟩ := compiled.between
  -- functions leave what is to be replaced, so the node is still the first one
  have still : f₁.targetsTo (max depth f₁.cells.size + 1) d = t :: ts := by
    rw [kept.targetsTo_eq work.sound nofun work.document.there nofun, all _ (by omega)]
    simp
  have found := first_target work₁ (Nat.le_max_right depth f₁.cells.size)
  rw [still, List.head?_cons, tree] at found
  unfold replaceFirst
  dsimp only
  generalize there : findPath? isTarget (place codes (f.tree d).children) = path? at found ⊢
  cases found with
  | some stands =>
      have replaced := stands.replaced work₁.sound work₁.plain compiled.work.sound
        compiled.work.plain way (r := fun _ => (code?.map writeScript).toList) scripts
      rw [replaced, tree]

theorem Compiled.targets {code? : Option String} {codes : List String}
    (compiled : Compiled d t code? codes f g) (work : Workable d f) (target : f.isTarget t)
    (all : ∀ k ≥ depth, f.targetsTo k d = t :: ts) : ∀ k ≥ depth, g.targetsTo k d = ts := by
  intro k deep
  have nodup := nodup_targetsTo work.sound k d
  rw [all k deep, List.nodup_cons] at nodup
  have other : d ∉ [t] := fun mem => by
    have no : f.isTarget d = false := hasTag_other (by rw [work.document.label]; rfl)
    rw [List.mem_singleton.mp mem, target] at no
    cases no
  rw [compiled.kept.targetsTo_eq work.sound (fun t' mem => by rwa [List.mem_singleton.mp mem])
    work.document.there other, all k deep, List.filter_cons_of_neg (by simp)]
  exact List.filter_eq_self.mpr fun t' mem => decide_eq_true fun same =>
    nodup.1 (List.mem_singleton.mp same ▸ mem)

/-- Compiling the elements that are to be replaced one after the other is compiling the first
one in the tree again and again. -/
theorem outcome_targets (work : Workable d f) (all : ∀ k ≥ depth, f.targetsTo k d = ts) (n : Nat)
    (enough : (findPaths isTarget (f.tree d).children).length ≤ n) (generated : Nat) :
    match compileTargets o n { doc := (f.tree d).children, generated } with
    | .ok p => ∃ g, outcome (ts.forM (compileNode o d)) ⟨f, generated⟩ = (.ok (), ⟨g, p.generated⟩) ∧
        Workable d g ∧ (g.tree d).children = p.doc
    | .error e => ∃ w, outcome (ts.forM (compileNode o d)) ⟨f, generated⟩ =
        (.error (.template e), w) := by
  have found := first_target work (Nat.le_max_right depth f.cells.size)
  rw [all _ (by omega)] at found
  generalize there : findPath? isTarget (f.tree d).children = path? at found
  -- over the elements left to compile; `n` steps are enough as each takes one of them away
  induction ts generalizing f n generated path? with
  | nil =>
      cases found with
      | none =>
          rw [compileTargets_of_none there]
          exact ⟨f, rfl, work, rfl⟩
  | cons t ts ih =>
      cases found with
      | @some _ path stands =>
          obtain ⟨n, rfl⟩ : ∃ m, n = m + 1 := by
            refine Nat.exists_eq_succ_of_ne_zero fun zero => ?_
            rw [(length_findPaths_eq_zero _).mp (Nat.le_zero.mp (zero ▸ enough))] at there
            cases there
          obtain ⟨p, parent, -⟩ := TransGen.head'_iff.mp (stands.under work.sound)
          have mem : t ∈ f.targetsTo depth d := by
            rw [all depth (Nat.le_refl _)]
            exact List.mem_cons_self
          have target := isTarget_of_mem mem
          have step := outcome_compileNode (o := o) generated work parent target
          rw [stands.path_eq work.sound] at step
          rw [compileTargets, there]
          dsimp only
          rw [codeAt_eq_codeOf, outcome_forM_cons]
          dsimp only
          generalize codeOf o (f.tree d).children path = result at step ⊢
          cases result with
          | error e => exact ⟨⟨f, generated⟩, by rw [step]⟩
          | ok result =>
              obtain ⟨code?, codes⟩ := result
              obtain ⟨g, run, compiled⟩ := step
              -- the linked document is the one of the other compilation again, one element on
              have next := compiled.step work all (generated + codes.length)
              have left := compiled.targets work target all
              have fewer := length_findPaths_step code? codes (f.tree d).children
                (generated + codes.length)
              rw [next] at fewer
              have found := first_target compiled.work (Nat.le_max_right depth g.cells.size)
              rw [left _ (by omega)] at found
              rw [run]
              show match compileTargets o n (replaceFirst code? _) with
                | .ok p => _
                | .error e => _
              rw [next]
              exact ih compiled.work left n (by dsimp only at fewer; omega) _ _ rfl found

/-! ## The whole -/

/-- Titles and metas with directives are moved to the end of the head. -/
theorem moveDirectives_workable (work : Workable d f) (name : String) : ∃ g,
    outcome (Relink.moveDirectives d name) f = (.ok (), g) ∧ Workable d g ∧
      (g.tree d).children = Markup.moveDirectives (Text.lower name) (f.tree d).children := by
  cases first : f.findFirst? d "head" with
  | none =>
      exact ⟨f, outcome_of_none name first, work,
        (children_tree_of_none work.sound work.plain name first).symm⟩
  | some p =>
      obtain ⟨g, run, moved⟩ := outcome_moveDirectives work.sound name first
      have kept : Workable d g := work.of_label (moved.sound_directives work.sound)
        (moved.plainly work.sound work.plain) (Nat.le_of_eq moved.size.symm)
        (label_of_content (moved.content d))
      exact ⟨g, run, kept, moved.children_tree work.sound work.plain first⟩

/-- The first body is made to start the processing. -/
theorem outcome_start (generated : Nat) (work : Workable d f) : ∃ g,
    outcome (start d) ⟨f, generated⟩ = (.ok (), ⟨g, generated⟩) ∧ Workable d g ∧
      (g.tree d).children = markBody (f.tree d).children := by
  have lower : Text.lower "body" = "body" := by decide
  have body := findFirst?_found work.sound work.plain d "body"
  rw [lower] at body
  unfold start markBody appendToBody
  rw [outcome_bind, outcome_get]
  dsimp only
  -- both sides look for the same body, one by number and one by place
  generalize findPath? (Tag.isNamed "body") (f.tree d).children = path? at body ⊢
  cases first : f.findFirst? d "body" with
  | none =>
      rw [first] at body
      cases body
      exact ⟨f, rfl, work, rfl⟩
  | some p =>
      rw [first] at body
      cases body with
      | some stands =>
          obtain ⟨below, called⟩ := findFirst?_below work.sound first
          obtain ⟨g, run, attached⟩ := attached_last work.sound work.plain (lt_of_below below)
            (canHold_of_isCalled called)
            (.script [("type", some "text/javascript")] startCode)
          refine ⟨g, outcome_relink (w := ⟨f, generated⟩) ?_, work.grown attached.toGrown, ?_⟩
          · rw [outcome_bind, outcome_add]
            exact run
          · exact stands.replaced work.sound work.plain attached.sound attached.plain
              (attached.givesWay work.sound)
              (r := fun n => [n.mapChildren (· ++ [.script [("type", some "text/javascript")] startCode])])
              (congrArg (fun t => [t]) (attached.tree_last work.sound work.plain))

/-- Titles and metas are moved and branches grouped before the walk. -/
theorem outcome_prepared (work : Workable d f) (o : Options) : ∃ g, Workable d g ∧
    (g.tree d).children = prepare (f.tree d).children ∧
    outcome (inline o d) ⟨f, 0⟩ =
      match outcome (compileTo o d (g.cells.size + 1) d) ⟨g, 0⟩ with
      | (.ok _, w) => outcome (if w.generated != 0 then start d else pure ()) w
      | (.error e, w) => (.error e, w) := by
  -- the three steps of preparing, each with the tree that the other compilation has then
  obtain ⟨f₁, run₁, work₁, tree₁⟩ := moveDirectives_workable work "title"
  obtain ⟨f₂, run₂, work₂, tree₂⟩ := moveDirectives_workable work₁ "meta"
  obtain ⟨retagged, tree₃⟩ := children_tree_groupTo work₂.sound work₂.plain d
  refine ⟨groupTo (f₂.cells.size + 1) d f₂, work₂.of_label (retagged.sound work₂.sound)
    (retagged.plain work₂.plain) (Nat.le_of_eq retagged.size.symm) (retagged.label d), ?_, ?_⟩
  · have title : Text.lower "title" = "title" := by decide
    have meta' : Text.lower "meta" = "meta" := by decide
    rw [tree₃, tree₂, tree₁, title, meta']
    rfl
  · unfold inline
    rw [outcome_bind, outcome_relink (w := ⟨f, 0⟩) run₁]
    dsimp only
    rw [outcome_bind, outcome_relink (w := ⟨f₁, 0⟩) run₂]
    dsimp only
    rw [outcome_bind, outcome_modify]
    dsimp only
    rw [outcome_bind, outcome_get]
    dsimp only
    rw [outcome_bind]
    rcases outcome (compileTo o d _ d) _ with ⟨_ | _, w⟩ <;> rfl

/-- Compiling a document among linked nodes is compiling its tree. No change of links is
refused, and every element that is compiled has a parent. -/
theorem outcome_inline (work : Workable d f) (o : Options) :
    match Compile.inline o (f.tree d).children with
    | .ok p => ∃ g, outcome (inline o d) ⟨f, 0⟩ = (.ok (), ⟨g, p.generated⟩) ∧ Workable d g ∧
        (g.tree d).children = p.doc
    | .error e => ∃ w, outcome (inline o d) ⟨f, 0⟩ = (.error (.template e), w) := by
  obtain ⟨f₁, work₁, prepared, begun⟩ := outcome_prepared work o
  have compiled := outcome_targets (o := o) work₁
    (fun k deep => targetsTo_of_ends work₁.sound deep d) _ (Nat.le_refl _) 0
  rw [prepared] at compiled
  rw [begun, outcome_compileTo (w := ⟨f₁, 0⟩) work₁ work₁.document.there, Compile.inline, compileAll]
  dsimp only
  generalize compileTargets o (findPaths isTarget (prepare (f.tree d).children)).length
    { doc := prepare (f.tree d).children, generated := 0 } = result at compiled ⊢
  cases result with
  | error e =>
      obtain ⟨w, run⟩ := compiled
      exact ⟨w, by rw [run]⟩
  | ok p =>
      obtain ⟨g, run, work', tree⟩ := compiled
      rw [run]
      show ∃ g', outcome (if p.generated != 0 then start d else pure ()) ⟨g, p.generated⟩ =
          (.ok (), ⟨g', (if p.generated == 0 then p else { p with doc := markBody p.doc }).generated⟩) ∧
        Workable d g' ∧ (g'.tree d).children =
          (if p.generated == 0 then p else { p with doc := markBody p.doc }).doc
      -- both mark the body just if anything was generated, and both counted the same
      cases any : p.generated == 0 with
      | true =>
          rw [if_neg (by simp [bne, any]), if_pos rfl]
          exact ⟨g, rfl, work', tree⟩
      | false =>
          obtain ⟨g', started, work'', marked⟩ := outcome_start p.generated work'
          rw [if_pos (by simp [bne, any]), if_neg Bool.false_ne_true]
          exact ⟨g', started, work'', by rw [marked, tree]⟩

/-- Where the tree of a node is a document, the document can be compiled. -/
theorem workable_of_tree {doc : Document} (h : f.Sound) (plain : f.Plain)
    (there : d < f.cells.size) (tree : f.tree d = .document doc) : Workable d f where
  sound := h
  plain := plain
  document.there := there
  document.label := by
    have bare := plain.bare d
    cases kind : (f.cell d).label with
    | document cs =>
        rw [kind] at bare
        exact congrArg Node.document bare
    | element t cs => rw [tree_element h plain kind] at tree; cases tree
    | text | comment | doctype | markup =>
        rw [(tree_leaf h plain (n := d) (by rw [kind]; rfl)).2, kind] at tree
        cases tree

/-- Compiling a document among linked nodes, which changes them while it goes through them,
fails exactly if an unknown directive is reached once titles and metas are moved, and tells
of the first one in document order. In every other case it succeeds: no change of links is
refused, every element that is compiled has a parent, and links are sound at the end, with no
directive left. Both ways it comes to what compiling the tree comes to. -/
theorem linked_inline_reports (split : o.split = false) {doc : Document} (sound : f.Sound)
    (plain : f.Plain) (there : d < f.cells.size) (tree : f.tree d = .document doc)
    (scripts : plainScripts doc) (unjoined : allTags isUnjoined doc) :
    match (reached (movedTo doc)).find? Node.isUnknown with
    | some n => ∃ e m w, outcome (inline o d) ⟨f, 0⟩ = (.error (.template e), w) ∧
        Compile.inline o doc = .error e ∧ IsGrouped n m ∧ Reports e m
    | none => ∃ g generated, outcome (inline o d) ⟨f, 0⟩ = (.ok (), ⟨g, generated⟩) ∧
        Compile.inline o doc = .ok { doc := (g.tree d).children, generated } ∧ g.Sound ∧
        findPath? isTarget (g.tree d).children = none := by
  have reports := inline_reports split scripts unjoined
  have same := outcome_inline (workable_of_tree sound plain there tree) o
  rw [tree] at same
  change match Compile.inline o doc with
    | .ok p => _
    | .error e => _ at same
  split
  · rename_i n found
    rw [found] at reports
    obtain ⟨e, m, failed, grouped, told⟩ := reports
    rw [failed] at same
    obtain ⟨w, run⟩ := same
    exact ⟨e, m, w, run, failed, grouped, told⟩
  · rename_i none
    rw [none] at reports
    obtain ⟨p, done, gone⟩ := reports
    rw [done] at same
    obtain ⟨g, run, work, children⟩ := same
    refine ⟨g, p.generated, run, ?_, work.sound, ?_⟩
    · rw [done, children]
    · rw [children]
      exact gone

/-- A page without a head. A live element gets a function first, which a head is made
for; a live element without an id is passed over with the unknown directive in it; the
second branch of a choice holds another one. -/
def unknownPage : Document :=
  let branch (cs : List Node) : Node :=
    .element { name := "li", attributes := [("yst", some "compapply")] } cs
  let unknown (word : String) : Node :=
    .element { name := "b", attributes := [("yst", some word)] } [.text "x"]
  [.element { name := "html" }
    [.element { name := "body" }
      [.element { name := "p", attributes := [("yst", some "live"), ("id", some "f")] } [.text "a"],
       .element { name := "p", attributes := [("yst", some "live")] } [unknown "passed"],
       branch [.text "c"], .comment "d", branch [unknown "bogus"]]]]

/-- Its nodes, of which the document is the first. -/
def unknownForest : Forest := (addTree {} none (.document unknownPage)).2

theorem linked_inline_reports_unknownPage :
    unknownForest.Sound ∧ unknownForest.Plain ∧ 0 < unknownForest.cells.size ∧
      unknownForest.tree 0 = .document unknownPage ∧ plainScripts unknownPage ∧
      allTags isUnjoined unknownPage ∧ ∃ e n m w,
        (reached (movedTo unknownPage)).find? Node.isUnknown = some n ∧
        outcome (inline {} 0) ⟨unknownForest, 0⟩ = (.error (.template e), w) ∧
        Compile.inline {} unknownPage = .error e ∧ IsGrouped n m ∧ Reports e m ∧
        e.message = "Illegal yst attribute value: bogus" := by
  obtain ⟨sound, plain, tree⟩ := tree_addTree (.document unknownPage)
  have there : 0 < unknownForest.cells.size := by decide +kernel
  have scripts : plainScripts unknownPage := by decide +kernel
  have unjoined : allTags isUnjoined unknownPage := by decide +kernel
  have reports := linked_inline_reports (o := {}) (f := unknownForest) rfl sound plain there tree
    scripts unjoined
  have found : ((reached (movedTo unknownPage)).find? Node.isUnknown).isSome := by decide +kernel
  have message : (match Compile.inline {} unknownPage with
    | .error e => e.message
    | .ok _ => "") = "Illegal yst attribute value: bogus" := by decide +kernel
  generalize (reached (movedTo unknownPage)).find? Node.isUnknown = first? at reports found ⊢
  cases first? with
  | none => cases found
  | some n =>
      obtain ⟨e, m, w, run, failed, grouped, told⟩ := reports
      rw [failed] at message
      exact ⟨sound, plain, there, tree, scripts, unjoined, e, n, m, w, rfl, run, failed, grouped,
        told, message⟩

end PageTemplates.Compile.Rework
