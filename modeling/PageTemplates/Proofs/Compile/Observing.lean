import PageTemplates.Compile.Split
import PageTemplates.Proofs.Compile.Outcome
import PageTemplates.Proofs.Markup.Change

/-!
# Code whose functions are defined elsewhere

In a page whose body is split off, generating code adds no function. It still
meets the functions that were added before, where the head that they went to is
among the nodes that are printed. The main facts:

* `Observes blind g`: `g` adds no function, and if it is `blind` its result does
  not depend on the functions that there are;
* `literal_observes`, `innerLiteral_observes`, `branches_observes`: this holds of
  literals, which are blind where no function is added below the node;
* `codeAt_adds_none`: finding the code of an element leaves the document as it is;
* `site_outside`: nothing is added below a node that holds neither the head nor
  `<html>`.
-/

namespace PageTemplates.Compile

open Markup

/-! ## Computations that only look -/

/-- A computation that adds no function; if it is `blind`, its result is the
same whatever functions there are. -/
structure Observes {α : Type} (blind : Prop) (g : Gen α) : Prop where
  kept : ∀ codes a codes', g.run codes = .ok (a, codes') → codes' = codes
  same : blind → ∀ codes codes', g.run' codes = g.run' codes'

namespace Observes

variable {α β : Type} {blind blind' : Prop} {g : Gen α}

theorem mono (h : Observes blind g) (hb : blind' → blind) : Observes blind' g :=
  ⟨h.kept, fun b => h.same (hb b)⟩

theorem pure (a : α) : Observes blind (Pure.pure a : Gen α) := by
  refine ⟨fun codes b codes' hr => ?_, fun _ _ _ => rfl⟩
  cases hr
  rfl

theorem lift (x : Except TemplateError α) : Observes blind (liftM x : Gen α) := by
  cases x with
  | error e => exact ⟨fun _ _ _ hr => (by cases hr), fun _ _ _ => rfl⟩
  | ok a => exact .pure a

/-- A blind computation gives the same result from any functions, and leaves
them as they are. -/
theorem run_eq (h : Observes blind g) (hb : blind) {codes codes' : List String} {a : α}
    (hr : g.run codes = .ok (a, codes')) (others : List String) :
    g.run others = .ok (a, others) := by
  have same := h.same hb codes others
  rw [StateT.run'_eq, StateT.run'_eq, hr] at same
  cases ho : g.run others with
  | error e => rw [ho] at same; cases same
  | ok r =>
      obtain ⟨b, others'⟩ := r
      rw [ho] at same
      cases same
      rw [h.kept others _ others' ho]

theorem bind {f : α → Gen β} (hg : Observes blind g) (hf : ∀ a, Observes blind (f a)) :
    Observes blind (g >>= f) := by
  constructor
  · intro codes b codes' hr
    rw [StateT.run_bind] at hr
    cases hg' : g.run codes with
    | error e => rw [hg'] at hr; cases hr
    | ok r =>
        obtain ⟨a, codes₁⟩ := r
        rw [hg'] at hr
        rw [(hf a).kept codes₁ b codes' hr, hg.kept codes a codes₁ hg']
  · intro hb codes codes'
    rw [StateT.run'_eq, StateT.run'_eq, StateT.run_bind, StateT.run_bind]
    cases hg' : g.run codes with
    | error e =>
        -- the first computation fails with the same error whatever was added before
        have same := hg.same hb codes codes'
        rw [StateT.run'_eq, StateT.run'_eq, hg'] at same
        cases ho : g.run codes' with
        | error e' =>
            rw [ho] at same
            cases same
            rfl
        | ok r => rw [ho] at same; cases same
    | ok r =>
        obtain ⟨a, codes₁⟩ := r
        rw [hg.run_eq hb hg' codes']
        exact (hf a).same hb codes₁ codes'

/-- Looking at the functions makes a difference unless the computation is
blind. -/
theorem get {f : List String → Gen β} (hf : ∀ codes, Observes blind (f codes))
    (alike : blind → ∀ codes codes', f codes = f codes') :
    Observes blind (MonadState.get >>= f) := by
  constructor
  · exact fun codes b codes' hr => (hf codes).kept codes b codes' hr
  · intro hb codes codes'
    have same := (hf codes).same hb codes codes'
    change (f codes).run' codes = (f codes').run' codes'
    rw [same, alike hb codes codes']

end Observes

/-! ## Code of directives -/

theorem directiveCode_observes {blind : Prop} {o : Options} (split : o.split)
    {nested declare : Bool} {t : Tag} {d : Directive} {whole inner branches : Gen String}
    (hw : Observes blind whole) (hb : Observes blind branches) :
    Observes blind (directiveCode o nested declare t d whole inner branches) := by
  unfold directiveCode
  simp only [split, if_true]
  split
  · exact .pure _
  · exact .pure _
  · exact hw.bind fun _ => hb.bind fun _ => .pure _
  · exact .pure _
  · exact (Observes.pure d.functionName?).bind fun _ => .pure _
  · exact hw.bind fun _ => .pure _
  · exact hw.bind fun _ => .pure _
  · exact hw.bind fun _ => .pure _
  · exact hw.bind fun _ => .pure _

/-- Nothing is added below a node if functions go elsewhere. -/
theorem settle_outside (codes : List String) (n : Node) : Site.outside.settle codes n = n := by
  unfold Site.settle
  split <;> rfl

theorem elementCode_observes {blind : Prop} {o : Options} (split : o.split) {site : Site}
    (outside : blind → site = .outside) {nested declare : Bool} {n : Node}
    {whole inner branches : Gen String} (hw : Observes blind whole)
    (hb : Observes blind branches) :
    Observes blind (elementCode o site nested declare n whole inner branches) := by
  unfold elementCode
  cases n with
  | element t cs =>
      refine .get (fun codes => (Observes.lift _).bind fun d =>
        directiveCode_observes split hw hb) fun hblind codes codes' => ?_
      rw [outside hblind, settle_outside, settle_outside]
  | document _ | text _ | comment _ | doctype _ | markup _ => exact .pure _

/-! ## Literals -/

theorem madeHead_observes (o : Options) : Observes False (madeHead o) :=
  .get (fun _ => .pure _) False.elim

theorem insideLiteral_observes {o : Options} {site : Site} {cs : List Node}
    {walk : Site → Opening → Gen String}
    (h : ∀ site' opening, Observes (site' = .outside ∧ opening = .settled) (walk site' opening)) :
    Observes (site = .outside) (insideLiteral o site cs walk) := by
  unfold insideLiteral
  split
  · refine ((h .outside .settled).mono fun _ => ⟨rfl, rfl⟩).bind fun t => .get (fun _ => .pure _) ?_
    rintro ⟨⟩
  · refine .get (fun codes => ?_) (by rintro ⟨⟩)
    split
    · exact (h .outside _).mono (by rintro ⟨⟩)
    · exact (h .outside _).mono (by rintro ⟨⟩)
  · exact (h site .settled).mono fun hs => ⟨hs, rfl⟩

theorem childText_observes {blind : Prop} {o : Options} (split : o.split) {site : Site}
    (outside : blind → site = .outside) {declare inScript : Bool} {c : Node}
    {plain whole inner branches : Gen String} (hp : Observes blind plain)
    (hw : Observes blind whole) (hb : Observes blind branches) :
    Observes blind (childText o site declare inScript c plain whole inner branches) := by
  unfold childText
  split
  · exact hp.bind fun _ => .pure _
  split
  · exact (elementCode_observes split outside hw hb).bind fun _ => .pure _
  · exact hp

theorem first_outside {site : Site} (h : site = .outside) : site.first = .outside := by
  rw [h]
  rfl

theorem rest_outside {site : Site} (h : site = .outside) : site.rest = .outside := by
  rw [h]
  rfl

/-- Children are printed one after the other; if none of them makes a head, what
is printed does not depend on the functions. -/
theorem childrenFrom_observes {o : Options} {site : Site} {declare inScript : Bool} {c : Node}
    {cs : List Node} {front : String} {opening : Opening}
    (child : Observes (site = .outside) (childText o site.first declare inScript c
      (literal o site.first declare c) (literal o site.first false c)
      (innerLiteral o site.first c) (branches o site.rest cs)))
    (rest : ∀ opening', Observes (site = .outside ∧ opening' = .settled)
      (literals o site.rest declare inScript opening' cs)) :
    Observes (site = .outside ∧ opening = .settled)
      (childrenFrom o site declare inScript c cs front opening) := by
  have child' : Observes (site = .outside ∧ opening = .settled) _ := child.mono And.left
  unfold childrenFrom
  refine .get (fun codes => child'.bind fun t => .get (fun codes' => ?_) ?_) ?_
  · dsimp only
    generalize hafter : afterChild opening (codes.isEmpty && !codes'.isEmpty) c cs = after
    obtain ⟨again, opening'⟩ := after
    -- the test of what was added matters only where a head may be made
    have settled : opening = .settled → opening' = .settled := by
      rintro rfl
      cases hafter
      rfl
    have finish : ∀ t', Observes (site = .outside ∧ opening = .settled) (do
        let rest ← literals o site.rest declare inScript opening' cs
        Pure.pure (front ++ t ++ t' ++ rest)) := fun t' =>
      ((rest opening').mono fun hb => ⟨hb.1, settled hb.2⟩).bind fun _ => .pure _
    split
    · exact child'.bind finish
    · exact (Observes.pure "").bind finish
  · rintro ⟨-, rfl⟩ codes₁ codes₂
    rfl
  · rintro ⟨-, rfl⟩ codes₁ codes₂
    rfl

mutual

/-- The literal of a node adds no function, and shows none unless functions are
added below the node. -/
theorem literal_observes {o : Options} (split : o.split) (site : Site) (declare : Bool) :
    ∀ n, Observes (site = .outside) (literal o site declare n)
  | .element t cs => by
      rw [literal]
      exact (insideLiteral_observes fun site' opening =>
        literals_observes split site' declare (t.name == "script") opening cs).bind fun _ => .pure _
  | .document cs => by
      rw [literal]
      exact (literals_observes split site declare false .settled cs).mono fun h => ⟨h, rfl⟩
  | .text _ | .comment _ | .doctype _ | .markup _ => by
      rw [literal]
      exact .pure _

theorem innerLiteral_observes {o : Options} (split : o.split) (site : Site) :
    ∀ n, Observes (site = .outside) (innerLiteral o site n)
  | .element t cs => by
      rw [innerLiteral]
      exact insideLiteral_observes fun site' opening =>
        literals_observes split site' true (t.name == "script") opening cs
  | .document cs => by
      rw [innerLiteral]
      exact (literals_observes split site true false .settled cs).mono fun h => ⟨h, rfl⟩
  | .text _ | .comment _ | .doctype _ | .markup _ => by
      rw [innerLiteral]
      · exact .pure _
      all_goals intros; contradiction

theorem literals_observes {o : Options} (split : o.split) (site : Site)
    (declare inScript : Bool) (opening : Opening) : ∀ cs,
      Observes (site = .outside ∧ opening = .settled)
        (literals o site declare inScript opening cs)
  | [] => by
      unfold literals
      split
      · exact (madeHead_observes o).mono (by rintro ⟨-, ⟨⟩⟩)
      · exact .pure _
  | c :: cs => by
      have child : Observes (site = .outside) (childText o site.first declare inScript c
          (literal o site.first declare c) (literal o site.first false c)
          (innerLiteral o site.first c) (branches o site.rest cs)) :=
        childText_observes split first_outside
          ((literal_observes split site.first declare c).mono first_outside)
          ((literal_observes split site.first false c).mono first_outside)
          ((branches_observes split site.rest cs).mono rest_outside)
      have rest : ∀ opening', Observes (site = .outside ∧ opening' = .settled)
          (literals o site.rest declare inScript opening' cs) := fun opening' =>
        (literals_observes split site.rest declare inScript opening' cs).mono
          fun h => ⟨rest_outside h.1, h.2⟩
      rw [literals_cons]
      split
      · refine Observes.bind ((madeHead_observes o).mono (by rintro ⟨-, ⟨⟩⟩)) fun front => ?_
        exact (childrenFrom_observes child rest).mono (by rintro ⟨-, ⟨⟩⟩)
      · exact childrenFrom_observes child rest

theorem branches_observes {o : Options} (split : o.split) (site : Site) :
    ∀ cs, Observes (site = .outside) (branches o site cs)
  | [] => by
      rw [branches]
      exact .pure _
  | c :: cs => by
      have rest : Observes (site = .outside) (branches o site.rest cs) :=
        (branches_observes split site.rest cs).mono rest_outside
      rw [branches]
      split
      · exact ((literal_observes split site.first false c).mono first_outside).bind fun _ =>
          rest.bind fun _ => .pure _
      split
      · exact rest
      · exact .pure _

end

/-- The code of the first of some siblings. -/
theorem firstCode_observes {o : Options} (split : o.split) (site : Site)
    (nested declare : Bool) : ∀ ns, Observes (site = .outside) (firstCode o site nested declare ns)
  | [] => .pure _
  | c :: cs =>
      elementCode_observes split first_outside
        ((literal_observes split site.first false c).mono first_outside)
        ((branches_observes split site.rest cs).mono rest_outside)

/-- Compiling an element adds no function. -/
theorem codeAt_adds_none {o : Options} (split : o.split) {nested declare : Bool} {path : Path}
    {p p' : Progress} {code? : Option String}
    (h : codeAt o nested declare path p = .ok (code?, p')) : p' = p := by
  obtain ⟨codes, run, rfl⟩ := codeAt_eq_ok h
  obtain rfl : codes = [] := (firstCode_observes split _ _ _ _).kept [] _ codes run
  rfl

/-! ## Where no function is added -/

theorem findPath?_child {p : Tag → Bool} {ns : List Node} {i : Nat} {path : Path}
    (h : findPath? p ns = some (i :: path)) :
    ∃ n, ns[i]? = some n ∧ n.findPath? p = some path := by
  induction ns generalizing i with
  | nil => cases h
  | cons n ns ih =>
      rw [findPath?] at h
      split at h
      · rename_i hn
        cases h
        exact ⟨n, rfl, hn⟩
      · obtain ⟨path', hpath, shifted⟩ := Option.map_eq_some_iff.mp h
        cases path' with
        | nil => cases shifted
        | cons j path' =>
            obtain ⟨rfl, rfl⟩ := List.cons.inj shifted
            exact ih hpath

theorem findPath?_children {p : Tag → Bool} {n : Node} {path : Path}
    (h : n.findPath? p = some path) (inner : path ≠ []) : findPath? p n.children = some path := by
  cases n with
  | element t cs =>
      rw [Node.findPath?] at h
      split at h
      · cases h
        exact absurd rfl inner
      · exact h
  | document cs => exact h
  | text _ | comment _ | doctype _ | markup _ => cases h

/-- A place that was found is not at or below a node where nothing is to be
found. -/
theorem seenFrom_ne_first {p : Tag → Bool} {n : Node} {rest : List Node} {path found : Path}
    {ns : List Node} (here : siblingsAt path ns = n :: rest) (none : n.findPath? p = none)
    (h : findPath? p ns = some found) (below : Path) :
    seenFrom path found ≠ some (0 :: below) := by
  induction path generalizing ns found with
  | nil =>
      cases found <;> simp [seenFrom]
  | cons i path ih =>
      cases found with
      | nil => exact absurd rfl (findPath?_ne_nil h)
      | cons j found =>
          obtain ⟨m, hm, hfound⟩ := findPath?_child h
          cases path with
          | nil =>
              rw [siblingsAt] at here
              rw [seenFrom]
              split
              · intro first
                obtain ⟨zero, -⟩ := List.cons.inj (Option.some.inj first)
                -- among the siblings themselves, the first one is `n`, in which nothing is found
                obtain rfl : i = j := by omega
                have there : ns[i]? = some n := by
                  rw [← List.head?_drop, here, List.head?_cons]
                rw [hm, Option.some.injEq] at there
                rw [there, none] at hfound
                cases hfound
              · rintro ⟨⟩
          | cons k path =>
              -- both ways lead through the same child, or what is found is not seen at all
              by_cases same : i = j
              · subst same
                simp only [siblingsAt, hm] at here
                simp only [seenFrom, beq_self_eq_true, if_true]
                cases found with
                | nil => simp [seenFrom]
                | cons l found => exact ih here (findPath?_children hfound (by simp))
              · simp [seenFrom, same]

/-- A node is printed blindly if no head and no `<html>` is at or below it. -/
theorem site_outside {doc : Document} {path : Path} {n : Node} {rest : List Node}
    (here : siblingsAt path doc = n :: rest) (head : n.findPath? (Tag.isNamed "head") = none)
    (html : n.findPath? (Tag.isNamed "html") = none) :
    ((Site.ofDocument doc).mapPath (seenFrom path)).first = .outside := by
  have away : ∀ seen : Option Path, (∀ below, seen ≠ some (0 :: below)) →
      (seen.elim Site.outside Site.head).first = .outside ∧
      (seen.elim Site.outside Site.html).first = .outside := by
    intro seen hs
    match seen with
    | none => exact ⟨rfl, rfl⟩
    | some [] => exact ⟨rfl, rfl⟩
    | some (0 :: below) => exact absurd rfl (hs below)
    | some ((i + 1) :: below) => exact ⟨rfl, rfl⟩
  unfold Site.ofDocument
  split
  · rename_i found hfound
    exact (away _ (seenFrom_ne_first here head hfound)).1
  split
  · rename_i found hfound
    exact (away _ (seenFrom_ne_first here html hfound)).2
  · rfl

end PageTemplates.Compile
