import PageTemplates.Proofs.Compile.Stepping

/-!
# When compiling in place fails

Compiling a document in place fails exactly when it gets to an unknown directive, and it
tells of the first one. The main facts:

* `compileTargets_reports`: compiling elements fails at the first unknown one that is met,
  and succeeds if none is;
* `compileAll_reports`: so does compiling a document, where branches are grouped;
* `inline_reports`: compiling a document fails at the first unknown one in document order
  that is reached, and otherwise leaves no directive behind.
-/

namespace PageTemplates.Compile

open Markup

variable {o : Options}

/-- The first unknown element is the same in two lists of elements that correspond. -/
theorem find?_isUnknown {R : Node → Node → Prop}
    (same : ∀ n m, R n m → Node.isUnknown m = Node.isUnknown n) {ns ms : List Node}
    (h : List.Forall₂ R ns ms) :
    Option.Rel R (ns.find? Node.isUnknown) (ms.find? Node.isUnknown) := by
  induction h with
  | nil => exact .none
  | @cons n m ns ms first _ ih =>
      rw [List.find?_cons, List.find?_cons, same n m first]
      cases Node.isUnknown n with
      | true => exact .some first
      | false => exact ih

theorem isUnknown_of_isGrouped {n m : Node} (h : IsGrouped n m) :
    Node.isUnknown m = Node.isUnknown n := by
  rcases h with rfl | rfl
  · rfl
  · cases n with
    | element t cs =>
        rw [Node.group]
        split <;> rfl
    | document _ | text _ | comment _ | doctype _ | markup _ => rfl

/-- What comes of compiling where `first?` is the first unknown element: an error that tells
of it, or, if there is none, a result. -/
def DependsOn {α : Type} (first? : Option Node) (x : Except TemplateError α) : Prop :=
  match first? with
  | some n => ∃ e, x = .error e ∧ Reports e n
  | none => ∃ a, x = .ok a

theorem DependsOn.of_isStill {α : Type} {first? second? : Option Node}
    {x : Except TemplateError α} (still : Option.Rel IsStill first? second?)
    (h : DependsOn second? x) : DependsOn first? x := by
  cases still with
  | none => exact h
  | some still =>
      obtain ⟨e, error, reports⟩ := h
      exact ⟨e, error, reports.of_isStill still⟩

/-- Compiling elements fails at the first unknown one that is met, and succeeds if none
is. -/
theorem compileTargets_reports (split : o.split = false) (n : Nat) {p : Progress}
    (tidy : Tidy (fun _ => true) p.doc) (enough : (findPaths isTarget p.doc).length ≤ n) :
    DependsOn ((walks p.doc).flatten.find? Node.isUnknown) (compileTargets o n p) := by
  induction n generalizing p with
  | zero =>
      have absent := (length_findPaths_eq_zero p.doc).mp (Nat.le_zero.mp enough)
      rw [walks_of_none p.doc absent]
      exact ⟨p, rfl⟩
  | succ n ih =>
      rw [compileTargets]
      split
      · rename_i absent
        rw [walks_of_none p.doc absent]
        exact ⟨p, rfl⟩
      · rename_i path found
        obtain ⟨t, cs, behind, rest, -, -, met, follows, later⟩ :=
          step_meets split tidy.scripts found
        rw [met, List.flatten_cons, List.find?_append, codeAt]
        cases here : (metAt t cs (walks cs).flatten (others behind)).find?
            Node.isUnknown with
        | some m =>
            obtain ⟨e, run, reports⟩ := follows.fails m here []
            rw [run]
            exact ⟨e, rfl, reports⟩
        | none =>
            -- the element is compiled, and what is left is met later
            obtain ⟨code?, codes, run, -⟩ := follows.succeeds here []
            rw [run, List.nil_append, Option.none_or]
            have still := find?_isUnknown (fun _ _ => isUnknown_of_isStill)
              (List.rel_flatten (later code? codes (p.generated + codes.length)))
            refine .of_isStill still (ih ?_ ?_)
            · have placed := tidy_place (q := fun _ => true) (fun _ _ => rfl) codes tidy
              exact tidy_replaceFirst (fun _ _ => rfl) code? placed
            · have fewer := length_findPaths_step code? codes p.doc (p.generated + codes.length)
              omega

/-- A document in which titles and metas with directives are at the end of the head. -/
abbrev movedTo (doc : Document) : Document := moveDirectives "meta" (moveDirectives "title" doc)

/-- What comes of compiling a document depends on what is met in it once titles and metas
are moved, whether or not branches are grouped. -/
theorem compileAll_reports (split : o.split = false) {doc : Document} (plain : plainScripts doc)
    (unjoined : allTags isUnjoined doc) :
    match (met (movedTo doc)).find? Node.isUnknown with
    | some n => ∃ e m, compileAll o { doc := prepare doc } = .error e ∧ IsGrouped n m ∧ Reports e m
    | none => ∃ p, compileAll o { doc := prepare doc } = .ok p := by
  have tidy : Tidy (fun _ => true) (prepare doc) :=
    tidy_prepare (fun _ _ _ => rfl) ⟨allTags_mono (fun _ _ => rfl) _ unjoined, plain⟩
  have depends := compileTargets_reports split _ (p := { doc := prepare doc }) tidy
    (Nat.le_refl _)
  have moved : Tidy isUnjoined (movedTo doc) :=
    tidy_moveDirectives "meta" (tidy_moveDirectives "title" ⟨unjoined, plain⟩)
  have grouped := walks_group false (movedTo doc) moved.tags moved.scripts
  rw [if_neg Bool.false_ne_true, List.nil_append] at grouped
  have same := find?_isUnknown (fun _ _ => isUnknown_of_isGrouped) grouped
  change Option.Rel IsGrouped _ ((walks (prepare doc)).flatten.find? Node.isUnknown) at same
  generalize (met (movedTo doc)).find? Node.isUnknown = first?,
    (walks (prepare doc)).flatten.find? Node.isUnknown = second? at same depends ⊢
  unfold compileAll
  cases same with
  | none => exact depends
  | some grouped =>
      obtain ⟨e, error, reports⟩ := depends
      exact ⟨e, _, error, grouped, reports⟩

/-- Compiling a document in place fails exactly if an unknown directive is reached once
titles and metas are moved, and tells of the first one in document order. In every other
case it succeeds, and no directive is left. -/
theorem inline_reports (split : o.split = false) {doc : Document} (plain : plainScripts doc)
    (unjoined : allTags isUnjoined doc) :
    match (reached (movedTo doc)).find? Node.isUnknown with
    | some n => ∃ e m, inline o doc = .error e ∧ IsGrouped n m ∧ Reports e m
    | none => ∃ r, inline o doc = .ok r ∧ findPath? isTarget r.doc = none := by
  have depends := compileAll_reports split plain unjoined
  have moved : Tidy isUnjoined (movedTo doc) :=
    tidy_moveDirectives "meta" (tidy_moveDirectives "title" ⟨unjoined, plain⟩)
  rw [find?_met moved.scripts] at depends
  split
  · rename_i n found
    rw [found] at depends
    obtain ⟨e, m, error, grouped, reports⟩ := depends
    refine ⟨e, m, ?_, grouped, reports⟩
    rw [inline, error]
    rfl
  · rename_i none
    rw [none] at depends
    obtain ⟨p, done⟩ := depends
    have compiled : inline o doc
        = .ok (if p.generated == 0 then p else { p with doc := markBody p.doc }) := by
      rw [inline, done]
      rfl
    exact ⟨_, compiled, (@inline_adds False _ _ _ compiled).2⟩

end PageTemplates.Compile
