import PageTemplates.Proofs.Compile.Reached
import PageTemplates.Proofs.Compile.WellFormed

/-!
# What generating code meets

Generating the code of an element goes through what is in it from front to back, and
through the branches that are joined to it. It ends at the first unknown directive that
it meets, and adds the functions that it meets before. The main facts:

* `Site.Sees`: the place where functions are added is in a head or in `<html>`;
* `Reports e n`: the error `e` tells of the element `n`;
* `IsCompiledTo o n code`: the function that an element is compiled to;
* `Follows o quiet ns g`: the computation `g` deals with the elements `ns`, one after
  the other;
* `literal_follows`, `branches_follows`: literals deal with what is met in them;
* `codeAt_follows`: and so does the code of an element.
-/

namespace PageTemplates.Compile

open Markup

/-! ## Where functions are added -/

/-- Whether functions may be added in an element: a head, or `<html>`, which a head may be
made in. -/
def takesFunctions (t : Tag) : Bool := t.name == "head" || t.name == "html"

/-- Whether a node is such an element. -/
def Node.takesFunctions : Node → Bool
  | .element t _ => Compile.takesFunctions t
  | _ => false

namespace Site

/-- The way to the place where functions are added, if that is among the nodes. -/
def path? : Site → Option Path
  | outside => none
  | head path | html path => some path

theorem path?_mapPath (f : Path → Option Path) (site : Site) :
    (site.mapPath f).path? = site.path?.bind f := by
  cases site with
  | outside => rfl
  | head path =>
      change ((f path).elim Site.outside Site.head).path? = f path
      cases f path <;> rfl
  | html path =>
      change ((f path).elim Site.outside Site.html).path? = f path
      cases f path <;> rfl

/-- Functions are added in a head or in `<html>` that is among some siblings. -/
def Sees (site : Site) (ns : List Node) : Prop :=
  ∀ path, site.path? = some path → path ≠ [] →
    (siblingsAt path ns).head?.any Node.takesFunctions

/-- The same, seen from a node. -/
def SeesIn (site : Site) (n : Node) : Prop :=
  ∀ path, site.path? = some path → (siblingsAt (0 :: path) [n]).head?.any Node.takesFunctions

theorem sees_outside (ns : List Node) : Site.outside.Sees ns := by
  rintro path ⟨⟩

variable {site : Site} {n : Node} {ns : List Node}

theorem Sees.first (h : site.Sees (n :: ns)) : site.first.SeesIn n := by
  intro path hpath
  rw [Site.first, path?_mapPath, Option.bind_eq_some_iff] at hpath
  obtain ⟨whole, hwhole, first⟩ := hpath
  match whole, first with
  | 0 :: rest, first =>
      obtain rfl := Option.some.inj first
      have there := h _ hwhole (by simp)
      cases rest with
      | nil => exact there
      | cons i rest => rwa [siblingsAt_first _ _ (by simp)] at there ⊢

theorem Sees.rest (h : site.Sees (n :: ns)) : site.rest.Sees ns := by
  intro path hpath _
  rw [Site.rest, path?_mapPath, Option.bind_eq_some_iff] at hpath
  obtain ⟨whole, hwhole, rest⟩ := hpath
  match whole, rest with
  | (i + 1) :: behind, rest =>
      obtain rfl := Option.some.inj rest
      have there := h _ hwhole (by simp)
      rwa [← siblingsAt_shift n ns (by simp)]

theorem SeesIn.children (h : site.SeesIn n) : site.Sees n.children := by
  intro path hpath inner
  have there := h path hpath
  rwa [siblingsAt_first _ _ inner] at there

/-- Functions are added in none of the branches among some siblings that are joined to
one before them. -/
def MissesBranches (site : Site) : List Node → Prop
  | [] => True
  | c :: cs => (isJoined c → site.first = .outside) ∧ site.rest.MissesBranches cs

theorem missesBranches_outside (h : site = .outside) (ns : List Node) :
    site.MissesBranches ns := by
  induction ns generalizing site with
  | nil => trivial
  | cons n ns ih => exact ⟨fun _ => first_outside h, ih (rest_outside h)⟩

/-- A node without a head and without `<html>` is not where functions are added. -/
theorem SeesIn.outside (h : site.SeesIn n) (none : n.findPath? takesFunctions = none) :
    site = .outside := by
  cases hpath : site.path? with
  | none =>
      cases site with
      | outside => rfl
      | head path | html path => cases hpath
  | some path =>
      have there := h path hpath
      have away : allTags (fun t => !takesFunctions t) [n] :=
        (findPath?_eq_none_iff [n]).mp (findPath?_cons_eq_none.mpr ⟨none, rfl⟩)
      have away := (isDeep_allTags _).siblingsAt (0 :: path) away
      cases here : siblingsAt (0 :: path) [n] with
      | nil => rw [here] at there; cases there
      | cons m ms =>
          rw [here] at there away
          cases m with
          | element t cs =>
              have tag := (allTags_element.mp (allTags_cons.mp away).1).1
              have taken : takesFunctions t = true := there
              rw [taken] at tag
              cases tag
          | document _ | text _ | comment _ | doctype _ | markup _ => cases there

/-- Neither are branches without a head and without `<html>`. -/
theorem Sees.missesBranches (h : site.Sees ns)
    (clear : ∀ n ∈ ns, isJoined n → n.findPath? takesFunctions = none) :
    site.MissesBranches ns := by
  induction ns generalizing site with
  | nil => trivial
  | cons n ns ih =>
      rw [List.forall_mem_cons] at clear
      exact ⟨fun joined => h.first.outside (clear.1 joined), ih h.rest clear.2⟩

end Site

theorem siblingsAt_nil (path : Path) : siblingsAt path [] = [] := by
  match path with
  | [] | [_] | _ :: _ :: _ => simp [siblingsAt]

/-- What is seen from siblings is what is there. -/
theorem siblingsAt_seenFrom {path whole seen : Path} {ns : List Node}
    (h : seenFrom path whole = some seen) :
    siblingsAt seen (siblingsAt path ns) = siblingsAt whole ns := by
  induction path generalizing whole ns with
  | nil => cases whole <;> cases h
  | cons i path ih =>
      cases whole with
      | nil => simp [seenFrom] at h
      | cons j whole =>
          cases path with
          | nil =>
              rw [seenFrom] at h
              split at h
              · obtain rfl := Option.some.inj h
                rename_i behind
                have sum : i + (j - i) = j := by omega
                cases whole with
                | nil => rw [siblingsAt, siblingsAt, siblingsAt, List.drop_drop, sum]
                | cons k whole => simp only [siblingsAt, List.getElem?_drop, sum]
              · cases h
          | cons k path =>
              simp only [seenFrom] at h
              split at h
              · rename_i same
                obtain rfl := beq_iff_eq.mp same
                cases whole with
                | nil => simp [seenFrom] at h
                | cons l whole =>
                    simp only [siblingsAt]
                    cases ns[i]? with
                    | none => exact siblingsAt_nil seen
                    | some n => exact ih h
              · cases h

/-- What is added to a document is in a head or in `<html>`, seen from any place. -/
theorem sees_ofDocument (path : Path) (doc : Document) :
    ((Site.ofDocument doc).mapPath (seenFrom path)).Sees (siblingsAt path doc) := by
  intro seen hseen _
  rw [Site.path?_mapPath, Option.bind_eq_some_iff] at hseen
  obtain ⟨whole, hwhole, hseen⟩ := hseen
  rw [siblingsAt_seenFrom hseen]
  have among {p : Tag → Bool} (tags : ∀ t, p t → takesFunctions t)
      (found : findPath? p doc = some whole) :
      (siblingsAt whole doc).head?.any Node.takesFunctions := by
    obtain ⟨t, cs, rest, h, here, -⟩ := replaced_found (f := fun _ => []) doc whole found
    rw [here]
    exact tags t h
  unfold Site.ofDocument at hwhole
  split at hwhole
  · rename_i path' found
    cases hwhole
    exact among (fun t h => by rw [takesFunctions, Bool.or_eq_true]; exact .inl h) found
  · split at hwhole
    · rename_i path' found
      cases hwhole
      exact among (fun t h => by rw [takesFunctions, Bool.or_eq_true]; exact .inr h) found
    · cases hwhole

/-! ## What is told of an element -/

/-- Two states of a node: an element that functions are added in may hold other nodes. -/
def IsStill (n m : Node) : Prop :=
  m = n ∨ (n.findPath? takesFunctions).isSome ∧ ∃ t cs ds, n = .element t cs ∧ m = .element t ds

theorem IsStill.trans {n m l : Node} (h : IsStill n m) (h' : IsStill m l) : IsStill n l := by
  rcases h with rfl | ⟨taken, t, cs, ds, rfl, rfl⟩
  · exact h'
  · rcases h' with rfl | ⟨-, t', cs', es, own, rfl⟩
    · exact .inr ⟨taken, t, cs, ds, rfl, rfl⟩
    · cases own
      exact .inr ⟨taken, t, cs, es, rfl, rfl⟩

/-- An error about an unknown directive: it tells the word and the element as it stands. -/
def Reports (e : TemplateError) (n : Node) : Prop :=
  ∃ t cs, IsStill n (.element t cs) ∧
    e = { message := "Illegal yst attribute value: " ++ t.directiveWord,
          markup := some ((Node.element t cs).print .utf false) }

theorem Reports.of_isStill {e : TemplateError} {n m : Node} (still : IsStill n m)
    (h : Reports e m) : Reports e n := by
  obtain ⟨t, cs, still', rfl⟩ := h
  exact ⟨t, cs, still.trans still', rfl⟩

/-- An element with the functions that were added in it meanwhile. -/
theorem isStill_settle {site : Site} {t : Tag} {cs : List Node}
    (sees : site.SeesIn (.element t cs)) (codes : List String) :
    ∃ ds, site.settle codes (.element t cs) = .element t ds ∧
      IsStill (.element t cs) (.element t ds) := by
  cases taken : (Node.element t cs).findPath? takesFunctions with
  | none =>
      rw [sees.outside taken, settle_outside]
      exact ⟨cs, rfl, .inl rfl⟩
  | some path =>
      have here : ∃ ds, site.settle codes (.element t cs) = .element t ds := by
        unfold Site.settle
        dsimp only
        split
        · exact ⟨cs, rfl⟩
        · cases site with
          | outside => exact ⟨cs, rfl⟩
          | head path | html path => cases path <;> exact ⟨_, rfl⟩
      obtain ⟨ds, hds⟩ := here
      exact ⟨ds, hds, .inr ⟨by rw [taken]; rfl, t, cs, ds, rfl, rfl⟩⟩

/-- The code defines the function that an element is compiled to: it is named after the id,
and its body is the literal of what the element holds. -/
def IsCompiledTo (o : Options) (n : Node) (code : String) : Prop :=
  ∃ name body codes codes', Node.functionName? n = some name ∧
    (innerLiteral o .outside n).run codes = .ok (body, codes') ∧ code = functionCode name body

/-! ## Computations that follow what is met -/

/-- A computation that deals with elements one after the other. It fails at the first
unknown one and tells of it. Without unknown ones it succeeds, and if it is `quiet`
it adds exactly the functions that the elements are compiled to. -/
structure Follows {α : Type} (o : Options) (quiet : Prop) (ns : List Node) (g : Gen α) :
    Prop where
  fails : ∀ n, ns.find? Node.isUnknown = some n →
    ∀ codes, ∃ e, g.run codes = .error e ∧ Reports e n
  succeeds : ns.find? Node.isUnknown = none →
    ∀ codes, ∃ a new, g.run codes = .ok (a, codes ++ new) ∧
      (quiet → List.Forall₂ (IsCompiledTo o) ns new)

namespace Follows

variable {α β : Type} {o : Options} {quiet quiet' : Prop} {ns ms : List Node} {g : Gen α}

theorem mono (h : Follows o quiet ns g) (hq : quiet' → quiet) : Follows o quiet' ns g where
  fails := h.fails
  succeeds none codes := by
    obtain ⟨a, new, run, all⟩ := h.succeeds none codes
    exact ⟨a, new, run, fun q => all (hq q)⟩

theorem pure (a : α) : Follows o quiet [] (Pure.pure a) where
  fails n found := by cases found
  succeeds _ codes := by
    refine ⟨a, [], ?_, fun _ => .nil⟩
    rw [List.append_nil]
    rfl

/-- The second of two computations runs when the first has met no unknown element. -/
theorem bind_known {f : α → Gen β} (hg : Follows o quiet ns g)
    (hf : ns.find? Node.isUnknown = none → ∀ a, Follows o quiet ms (f a)) :
    Follows o quiet (ns ++ ms) (g >>= f) where
  fails n found codes := by
    rw [List.find?_append] at found
    -- the first computation meets its nodes before the second one begins
    cases first : ns.find? Node.isUnknown with
    | some m =>
        rw [first] at found
        cases found
        obtain ⟨e, run, reports⟩ := hg.fails n first codes
        refine ⟨e, ?_, reports⟩
        rw [StateT.run_bind, run]
        rfl
    | none =>
        rw [first, Option.none_or] at found
        obtain ⟨a, new, run, -⟩ := hg.succeeds first codes
        obtain ⟨e, run', reports⟩ := (hf first a).fails n found (codes ++ new)
        refine ⟨e, ?_, reports⟩
        rw [StateT.run_bind, run]
        exact run'
  succeeds none codes := by
    rw [List.find?_append, Option.or_eq_none_iff] at none
    obtain ⟨a, new, run, all⟩ := hg.succeeds none.1 codes
    obtain ⟨b, new', run', all'⟩ := (hf none.1 a).succeeds none.2 (codes ++ new)
    refine ⟨b, new ++ new', ?_, fun q => List.rel_append (all q) (all' q)⟩
    rw [StateT.run_bind, run, ← List.append_assoc]
    exact run'

theorem bind {f : α → Gen β} (hg : Follows o quiet ns g) (hf : ∀ a, Follows o quiet ms (f a)) :
    Follows o quiet (ns ++ ms) (g >>= f) :=
  hg.bind_known fun _ => hf

/-- Working on a result meets nothing more. -/
theorem map {f : α → Gen β} (hg : Follows o quiet ns g) (hf : ∀ a, Follows o quiet [] (f a)) :
    Follows o quiet ns (g >>= f) := by
  have both := hg.bind hf
  rwa [List.append_nil] at both

/-- Looking at the functions meets nothing. -/
theorem get {f : List String → Gen β} (hf : ∀ codes, Follows o quiet ns (f codes)) :
    Follows o quiet ns (MonadState.get >>= f) where
  fails n found codes := (hf codes).fails n found codes
  succeeds none codes := (hf codes).succeeds none codes

/-- Nothing is lost by meeting known elements once more, except that their functions are
added once more, too. -/
theorem again (h : Follows o quiet (ns ++ ms) g) (known : ns.find? Node.isUnknown = none)
    (loud : ¬ quiet') : Follows o quiet' ms g := by
  have same : (ns ++ ms).find? Node.isUnknown = ms.find? Node.isUnknown := by
    rw [List.find?_append, known, Option.none_or]
  constructor
  · intro n found
    exact h.fails n (same.trans found)
  · intro none codes
    obtain ⟨a, new, run, -⟩ := h.succeeds (same.trans none) codes
    exact ⟨a, new, run, fun q => absurd q loud⟩

end Follows

/-! ## Code of directives -/

variable {o : Options} {quiet : Prop} {ns ms : List Node}

/-- Defining the function of an element adds it behind those of the elements in it. -/
theorem hoist_follows {t : Tag} {cs : List Node} (kind : DirectiveKind) {inner : Gen String}
    (known : isUnknown t = false) (hi : Follows o quiet ns inner)
    (own : quiet → inner = innerLiteral o .outside (.element t cs)) :
    Follows o quiet (if (functionName? t).isSome then ns ++ [.element t cs] else [])
      (hoist (t.directiveOf kind) inner) := by
  have name : (t.directiveOf kind).functionName? = functionName? t := rfl
  unfold hoist
  rw [name]
  cases hname : functionName? t with
  | none => exact .pure _
  | some word =>
      -- the element that is compiled is known, so it is never the one to be reported
      have last : (ns ++ [Node.element t cs]).find? Node.isUnknown = ns.find? Node.isUnknown := by
        simp [Node.isUnknown, known]
      constructor
      · intro n found codes
        obtain ⟨e, run, reports⟩ := hi.fails n (last.symm.trans found) codes
        refine ⟨e, ?_, reports⟩
        rw [StateT.run_bind, run]
        rfl
      · intro none codes
        obtain ⟨body, new, run, all⟩ := hi.succeeds (last.symm.trans none) codes
        refine ⟨some word, new ++ [functionCode word body], ?_, fun q => ?_⟩
        · rw [StateT.run_bind, run, ← List.append_assoc]
          rfl
        · refine List.rel_append (all q) (.cons ?_ .nil)
          exact ⟨word, body, codes, _, hname, own q ▸ run, rfl⟩

/-- The code of a directive deals with what is met at its element, unless that is
unknown. -/
theorem directiveCode_follows (split : o.split = false) {nested declare : Bool} {t : Tag}
    {cs : List Node} {kind : DirectiveKind} {whole inner branches : Gen String}
    (target : isTarget t) (hk : DirectiveKind.ofWord? t.directiveWord = some kind)
    (hw : Follows o quiet ns whole) (hi : Follows o quiet ns inner)
    (own : quiet → inner = innerLiteral o .outside (.element t cs))
    (hb : Follows o quiet ms branches) :
    Follows o quiet (metAt t cs ns ms)
      (directiveCode o nested declare t (t.directiveOf kind) whole inner branches) := by
  have known : isUnknown t = false := by rw [isUnknown, hk, Option.isNone_some, Bool.and_false]
  have hoisted := hoist_follows kind known hi own
  have own' (kind : DirectiveKind) : (t.directiveOf kind).kind = kind := rfl
  rw [metAt_eq target hk]
  unfold directiveCode
  dsimp only
  rw [own']
  cases kind with
  | ignore | inclusion => exact .pure _
  | declare =>
      dsimp only
      rw [split]
      exact hoisted.map fun _ => .pure _
  | live =>
      dsimp only
      rw [split]
      exact hoisted.map fun _ => .pure _
  | compapply => exact hw.bind fun _ => hb.map fun _ => .pure _
  | value | literal | conditional | apply => exact hw.map fun _ => .pure _

/-- The code of an element with a directive deals with what is met there. -/
theorem elementCode_follows (split : o.split = false) {site : Site} {nested declare : Bool}
    {t : Tag} {cs : List Node} {whole inner branches : Gen String} (target : isTarget t)
    (sees : site.SeesIn (.element t cs)) (hw : Follows o quiet ns whole)
    (hi : Follows o quiet ns inner)
    (own : quiet → inner = innerLiteral o .outside (.element t cs))
    (hb : Follows o quiet ms branches) :
    Follows o quiet (metAt t cs ns ms)
      (elementCode o site nested declare (.element t cs) whole inner branches) := by
  unfold elementCode
  refine .get fun codes => ?_
  dsimp only
  cases hk : DirectiveKind.ofWord? t.directiveWord with
  | none =>
      have unknown : isUnknown t := by rw [isUnknown, hk, target]; rfl
      -- the element is reported with the functions that were added below it
      obtain ⟨ds, settled, still⟩ := isStill_settle sees codes
      have first : (metAt t cs ns ms).find? Node.isUnknown = some (.element t cs) := by
        rw [metAt, if_pos unknown, List.singleton_append, List.find?_cons_of_pos]
        exact unknown
      constructor
      · intro n found codes'
        rw [first] at found
        cases found
        refine ⟨_, ?_, t, ds, still, rfl⟩
        rw [Tag.directive, hk, settled]
        rfl
      · intro none
        rw [first] at none
        cases none
  | some kind =>
      rw [Tag.directive, hk]
      exact directiveCode_follows split target hk hw hi own hb

/-! ## Literals -/

theorem madeHead_follows : Follows o quiet [] (madeHead o) :=
  .get fun _ => .pure _

/-- A literal deals with what is met in it, wherever functions are added. -/
theorem insideLiteral_follows {site : Site} {cs : List Node} {walk : Site → Opening → Gen String}
    (sees : site.Sees cs)
    (h : ∀ site' opening, site'.Sees cs →
      Follows o (site' = .outside ∧ opening = .settled) ns (walk site' opening)) :
    Follows o (site = .outside) ns (insideLiteral o site cs walk) := by
  unfold insideLiteral
  split
  · have below : Follows o (Site.head [] = .outside) ns (walk .outside .settled) :=
      (h _ _ (Site.sees_outside cs)).mono fun q => by cases q
    exact below.map fun _ => .get fun _ => .pure _
  · refine .get fun codes => ?_
    split
    · exact (h _ _ (Site.sees_outside cs)).mono fun q => by cases q
    · exact (h _ _ (Site.sees_outside cs)).mono fun q => by cases q
  · exact (h _ _ sees).mono fun q => ⟨q, rfl⟩

/-- The text of a child deals with what is met there. -/
theorem childText_follows (split : o.split = false) {site : Site} {declare inScript : Bool}
    {c : Node} {plain whole inner branches : Gen String} (sees : site.SeesIn c)
    (text : inScript → Node.isText c) (hp : Follows o quiet (Node.inside c) plain)
    (hw : Follows o quiet (Node.inside c) whole) (hi : Follows o quiet (Node.inside c) inner)
    (own : quiet → inner = innerLiteral o .outside c) (hb : Follows o quiet ms branches) :
    Follows o quiet (Node.walks ms c).flatten
      (childText o site declare inScript c plain whole inner branches) := by
  unfold childText
  cases c with
  | element t cs =>
      rw [if_neg fun script => by cases text script]
      -- a target is met itself; of any other element what is met inside
      by_cases target : isTarget t
      · have directive :
            ((Node.element t cs).name != "script" && (Node.element t cs).isDirective) :=
          target
        rw [if_pos directive, Node.walks, if_pos target, List.flatten_singleton]
        exact (elementCode_follows split target sees hw hi own hb).map fun _ => .pure _
      · have directive : ¬ ((Node.element t cs).name != "script" &&
            (Node.element t cs).isDirective) := target
        rw [if_neg directive, Node.walks, if_neg target]
        exact hp
  | document cs =>
      rw [if_neg (fun script => by cases text script), Node.isDirective, Bool.and_false,
        if_neg Bool.false_ne_true]
      · exact hp
      · exact fun _ _ h => by cases h
  | text _ | comment _ | doctype _ | markup _ =>
      split
      · exact hp.map fun _ => .pure _
      · rw [Node.isDirective, Bool.and_false, if_neg Bool.false_ne_true]
        · exact hp
        · exact fun _ _ h => by cases h

section

variable {site : Site} {declare inScript : Bool} {c : Node} {cs : List Node}

/-- A child and its siblings are dealt with one after the other. Where a head is to be
made, the child may be met twice. -/
theorem childrenFrom_follows {front : String} {opening : Opening}
    (child : Follows o (site = .outside) ns (childText o site.first declare inScript c
      (literal o site.first declare c) (literal o site.first false c)
      (innerLiteral o site.first c) (branches o site.rest cs)))
    (rest : ∀ opening', Follows o (site.rest = .outside ∧ opening' = .settled) ms
      (literals o site.rest declare inScript opening' cs)) :
    Follows o (site = .outside ∧ opening = .settled) (ns ++ ms)
      (childrenFrom o site declare inScript c cs front opening) := by
  have child' := child.mono fun q : site = .outside ∧ opening = .settled => q.1
  unfold childrenFrom
  refine .get fun codes => child'.bind_known fun known text => .get fun codes' => ?_
  dsimp only
  have settled : opening = .settled →
      afterChild opening (codes.isEmpty && !codes'.isEmpty) c cs = (false, .settled) := by
    rintro rfl
    rfl
  generalize afterChild opening (codes.isEmpty && !codes'.isEmpty) c cs = after at settled ⊢
  obtain ⟨again, opening'⟩ := after
  have finish : ∀ text' : String, Follows o (site = .outside ∧ opening = .settled) ms (do
      let behind ← literals o site.rest declare inScript opening' cs
      Pure.pure (front ++ text ++ text' ++ behind)) := by
    intro text'
    refine Follows.map ((rest opening').mono fun q => ?_) fun _ => .pure _
    exact ⟨rest_outside q.1, congrArg Prod.snd (settled q.2)⟩
  split
  -- a child is met twice only where a head was made, so not at a settled site
  · rename_i twice
    refine (child'.bind finish).again known fun q => ?_
    rw [congrArg Prod.fst (settled q.2)] at twice
    cases twice
  · exact (Follows.pure "").bind finish

theorem literals_cons_follows {opening : Opening}
    (child : Follows o (site = .outside) ns (childText o site.first declare inScript c
      (literal o site.first declare c) (literal o site.first false c)
      (innerLiteral o site.first c) (branches o site.rest cs)))
    (rest : ∀ opening', Follows o (site.rest = .outside ∧ opening' = .settled) ms
      (literals o site.rest declare inScript opening' cs)) :
    Follows o (site = .outside ∧ opening = .settled) (ns ++ ms)
      (literals o site declare inScript opening (c :: cs)) := by
  rw [literals_cons]
  split
  · refine madeHead_follows.bind fun front => ?_
    exact (childrenFrom_follows child rest).mono fun q => by cases q.2
  · exact childrenFrom_follows child rest

end

mutual

/-- The literal of a node deals with what is met below it. -/
theorem literal_follows (split : o.split = false) (site : Site) (declare : Bool) : ∀ n,
    Node.plainScripts n → site.SeesIn n →
    Follows o (site = .outside) (Node.inside n) (literal o site declare n)
  | .element t cs, plain, sees => by
      rw [plainScripts_element] at plain
      have text : (t.name == "script") → cs.all Node.isText := fun h => plain.1 (by simpa using h)
      rw [literal, Node.inside]
      refine (insideLiteral_follows sees.children fun site' opening sees' => ?_).map
        fun _ => .pure _
      exact literals_follows split site' declare (t.name == "script") opening cs plain.2 text sees'
  | .document cs, plain, sees => by
      rw [literal, Node.inside]
      exact (literals_follows split site declare false .settled cs plain (fun h => by cases h)
        sees.children).mono fun q => ⟨q, rfl⟩
  | .text _, _, _ | .comment _, _, _ | .doctype _, _, _ | .markup _, _, _ => by
      rw [literal]
      exact .pure _

/-- And so does what a node holds, as the body of a function. -/
theorem innerLiteral_follows (split : o.split = false) (site : Site) : ∀ n,
    Node.plainScripts n → site.SeesIn n →
    Follows o (site = .outside) (Node.inside n) (innerLiteral o site n)
  | .element t cs, plain, sees => by
      rw [plainScripts_element] at plain
      have text : (t.name == "script") → cs.all Node.isText := fun h => plain.1 (by simpa using h)
      rw [innerLiteral, Node.inside]
      refine insideLiteral_follows sees.children fun site' opening sees' => ?_
      exact literals_follows split site' true (t.name == "script") opening cs plain.2 text sees'
  | .document cs, plain, sees => by
      rw [innerLiteral, Node.inside]
      exact (literals_follows split site true false .settled cs plain (fun h => by cases h)
        sees.children).mono fun q => ⟨q, rfl⟩
  | .text _, _, _ | .comment _, _, _ | .doctype _, _, _ | .markup _, _, _ => by
      rw [innerLiteral]
      · exact .pure _
      all_goals intros; contradiction

/-- Siblings are dealt with one after the other, a branch of a choice with those that
are joined to it. -/
theorem literals_follows (split : o.split = false) (site : Site) (declare inScript : Bool)
    (opening : Opening) : ∀ cs, plainScripts cs → (inScript → cs.all Node.isText) →
    site.Sees cs → Follows o (site = .outside ∧ opening = .settled) (walks cs).flatten
      (literals o site declare inScript opening cs)
  | [], _, _, _ => by
      unfold literals
      split
      · exact madeHead_follows
      · exact .pure _
  | c :: cs, plain, text, sees => by
      rw [plainScripts_cons] at plain
      simp only [List.all_cons, Bool.and_eq_true] at text
      rw [walks_cons]
      refine literals_cons_follows (childText_follows split sees.first (fun h => (text h).1)
        ?_ ?_ ?_ (fun q => by rw [first_outside q]) ?_) fun opening' => ?_
      · exact (literal_follows split site.first declare c plain.1 sees.first).mono first_outside
      · exact (literal_follows split site.first false c plain.1 sees.first).mono first_outside
      · exact (innerLiteral_follows split site.first c plain.1 sees.first).mono first_outside
      · exact (branches_follows split site.rest cs plain.2 sees.rest).mono fun q =>
          Site.missesBranches_outside (rest_outside q) cs
      · exact literals_follows split site.rest declare inScript opening' cs plain.2
          (fun h => (text h).2) sees.rest

/-- The branches that are joined to one are dealt with one after the other. -/
theorem branches_follows (split : o.split = false) (site : Site) : ∀ cs, plainScripts cs →
    site.Sees cs → Follows o (site.MissesBranches cs) (others cs) (branches o site cs)
  | [], _, _ => by
      rw [branches]
      exact .pure _
  | c :: cs, plain, sees => by
      rw [plainScripts_cons] at plain
      have rest := branches_follows split site.rest cs plain.2 sees.rest
      rw [branches, others]
      split
      · rename_i joined
        have here := literal_follows split site.first false c plain.1 sees.first
        refine (here.mono fun q => q.1 joined).bind fun _ => ?_
        exact (rest.mono And.right).map fun _ => .pure _
      split
      · exact rest.mono And.right
      · exact .pure _

end

/-! ## Code at a place -/

/-- The code of an element with a directive deals with what is met there. What it adds is
what the functions among that are compiled to, unless there is a head or an `<html>` in
the element or in a branch that is joined to it. -/
theorem firstCode_follows (split : o.split = false) {doc : Document} (plain : plainScripts doc)
    {path : Path} {t : Tag} {cs rest : List Node}
    (here : siblingsAt path doc = .element t cs :: rest) (target : isTarget t) :
    Follows o ((Node.element t cs).findPath? takesFunctions = none ∧
        ∀ n ∈ rest, isJoined n → n.findPath? takesFunctions = none)
      (metAt t cs (walks cs).flatten (others rest))
      (firstCode o ((Site.ofDocument doc).mapPath (seenFrom path)) false false
        (siblingsAt path doc)) := by
  have sees := sees_ofDocument path doc
  have plain' := isDeep_plainScripts.siblingsAt path plain
  rw [here] at sees plain' ⊢
  rw [plainScripts_cons] at plain'
  generalize (Site.ofDocument doc).mapPath (seenFrom path) = site at sees ⊢
  rw [firstCode]
  refine elementCode_follows split target sees.first ?_ ?_
    (fun q => by rw [sees.first.outside q.1]) ?_
  · exact (literal_follows split _ _ _ plain'.1 sees.first).mono fun q => sees.first.outside q.1
  · exact (innerLiteral_follows split _ _ plain'.1 sees.first).mono
      fun q => sees.first.outside q.1
  · exact (branches_follows split _ _ plain'.2 sees.rest).mono
      fun q => sees.rest.missesBranches q.2

end PageTemplates.Compile
