import PageTemplates.Proofs.Compile.Extracting
import PageTemplates.Proofs.Compile.Framed

/-!
# Where functions come from

The functions that come with the code of an element are those of elements at or
below it that ask for one. The main facts:

* `IsFunctionOf names code`: the code defines a function with one of the names;
* `isAmong names t`: if an element asks for a function and has an id, its function
  has one of the names;
* `AddsFrom names g`: a computation adds only functions with these names;
* `literal_addsFrom`, `innerLiteral_addsFrom`, `branches_addsFrom`: literals of
  trees whose elements are among the names do;
* `codeAt_addsFrom`: and so does the code at a place;
* `among_place`, `among_replaceFirst`: compiling keeps elements among the names.
-/

namespace PageTemplates.Compile

open Markup

/-- The code defines a function with one of the names. -/
def IsFunctionOf (names : List String) (code : String) : Prop :=
  ∃ name ∈ names, ∃ body, code = functionCode name body

/-- Whether the function that an element asks for, if it does and has an id, has
one of the names. Scripts ask for nothing. -/
def isAmong (names : List String) (t : Tag) : Bool :=
  t.name == "script" || !isFunction t || (functionName? t).all names.contains

/-- From functions with the given names, a computation adds only such functions. -/
abbrev AddsFrom {α : Type} (names : List String) (g : Gen α) : Prop :=
  Preserves (fun codes => ∀ c ∈ codes, IsFunctionOf names c) g fun _ => True

theorem isAmong_join {names : List String} {t : Tag} (_ : t.isCompapply) (_ : isAmong names t) :
    isAmong names (join t) := by
  rw [isAmong, isFunction_join, Bool.not_false, Bool.or_true, Bool.true_or]

namespace AddsFrom

variable {α β : Type} {names : List String} {g : Gen α}

theorem pure (a : α) : AddsFrom names (Pure.pure a) := Preserves.pure trivial

theorem bind {f : α → Gen β} (hg : AddsFrom names g) (hf : ∀ a, AddsFrom names (f a)) :
    AddsFrom names (g >>= f) :=
  Preserves.bind hg fun a _ => hf a

theorem get {f : List String → Gen β} (hf : ∀ codes, AddsFrom names (f codes)) :
    AddsFrom names (MonadState.get >>= f) :=
  bind Preserves.get hf

end AddsFrom

variable {names : List String} {o : Options}

/-! ## Code of directives -/

/-- A name that is among the names has its function added. -/
theorem hoist_addsFrom {d : Directive} {inner : Gen String} (inside : AddsFrom names inner)
    (named : (d.functionName?).all names.contains) : AddsFrom names (hoist d inner) := by
  unfold hoist
  split
  · exact .pure _
  · rename_i name some
    rw [some, Option.all_some, List.contains_iff_mem] at named
    refine inside.bind fun body => ?_
    refine AddsFrom.bind (Preserves.update fun codes hcodes => ?_) fun _ => .pure _
    rw [List.forall_mem_append, List.forall_mem_singleton]
    exact ⟨hcodes, name, named, body, rfl⟩

theorem directiveCode_addsFrom {nested declare : Bool} {t : Tag} {d : Directive}
    {whole inner branches : Gen String}
    (named : d.hoists → (d.functionName?).all names.contains) (hw : AddsFrom names whole)
    (hi : AddsFrom names inner) (hb : AddsFrom names branches) :
    AddsFrom names (directiveCode o nested declare t d whole inner branches) := by
  unfold directiveCode
  dsimp only
  split <;> rename_i kind
  · exact .pure _
  · have hoisted := hoist_addsFrom hi (named (by rw [Directive.hoists, kind]; rfl))
    split
    · exact .pure _
    · exact hoisted.bind fun _ => .pure _
  · exact hw.bind fun _ => hb.bind fun _ => .pure _
  · exact .pure _
  · have hoisted := hoist_addsFrom hi (named (by rw [Directive.hoists, kind]; rfl))
    split
    · exact (AddsFrom.pure d.functionName?).bind fun _ => .pure _
    · exact hoisted.bind fun _ => .pure _
  all_goals exact hw.bind fun _ => .pure _

/-- An element that is among the names adds its function, if it asks for one, and
those of its literals. -/
theorem elementCode_addsFrom {site : Site} {nested declare : Bool} {t : Tag} {cs : List Node}
    {whole inner branches : Gen String} (among : isAmong names t) (other : t.name ≠ "script")
    (hw : AddsFrom names whole) (hi : AddsFrom names inner) (hb : AddsFrom names branches) :
    AddsFrom names
      (elementCode o site nested declare (.element t cs) whole inner branches) := by
  unfold elementCode
  refine .get fun codes => ?_
  dsimp only
  refine Preserves.bind (Preserves.lift fun d hd => directive_eq_ok hd) ?_
  rintro d ⟨kind, hk, rfl⟩
  refine directiveCode_addsFrom (fun hoists => ?_) hw hi hb
  have asks : isFunction t := by
    simp only [Directive.hoists, Tag.directiveOf, Bool.or_eq_true, beq_iff_eq] at hoists
    unfold isFunction
    rw [hk]
    rcases hoists with rfl | rfl <;> rfl
  have same : (t.directiveOf kind).functionName? = functionName? t := rfl
  rw [same]
  simpa [isAmong, asks, other] using among

/-! ## Literals -/

theorem madeHead_addsFrom : AddsFrom names (madeHead o) :=
  .get fun _ => .pure _

theorem insideLiteral_addsFrom {site : Site} {cs : List Node} {walk : Site → Opening → Gen String}
    (h : ∀ site' opening, AddsFrom names (walk site' opening)) :
    AddsFrom names (insideLiteral o site cs walk) := by
  unfold insideLiteral
  split
  · exact (h _ _).bind fun _ => .get fun _ => .pure _
  · refine .get fun codes => ?_
    split
    · exact h _ _
    · exact h _ _
  · exact h _ _

theorem childText_addsFrom {site : Site} {declare inScript : Bool} {c : Node}
    {plain whole inner branches : Gen String} (among : Node.allTags (isAmong names) c)
    (hp : AddsFrom names plain) (hw : AddsFrom names whole) (hi : AddsFrom names inner)
    (hb : AddsFrom names branches) :
    AddsFrom names (childText o site declare inScript c plain whole inner branches) := by
  unfold childText
  split
  · exact hp.bind fun _ => .pure _
  split
  · rename_i hd
    cases c with
    | element t cs =>
        rw [Bool.and_eq_true, bne_iff_ne] at hd
        exact (elementCode_addsFrom (allTags_element.mp among).1 hd.1 hw hi hb).bind
          fun _ => .pure _
    | document _ | text _ | comment _ | doctype _ | markup _ => simp [Node.isDirective] at hd
  · exact hp

theorem literals_cons_addsFrom {site : Site} {declare inScript : Bool} {opening : Opening}
    {c : Node} {cs : List Node}
    (child : AddsFrom names (childText o site.first declare inScript c
      (literal o site.first declare c) (literal o site.first false c)
      (innerLiteral o site.first c) (branches o site.rest cs)))
    (rest : ∀ opening', AddsFrom names (literals o site.rest declare inScript opening' cs)) :
    AddsFrom names (literals o site declare inScript opening (c :: cs)) := by
  have children : ∀ front opening',
      AddsFrom names (childrenFrom o site declare inScript c cs front opening') := by
    intro front opening'
    unfold childrenFrom
    refine .get fun codes => child.bind fun t => .get fun codes' => ?_
    dsimp only
    split
    · exact child.bind fun _ => (rest _).bind fun _ => .pure _
    · exact (AddsFrom.pure "").bind fun _ => (rest _).bind fun _ => .pure _
  rw [literals_cons]
  split
  · exact madeHead_addsFrom.bind fun front => children front _
  · exact children "" _

mutual

/-- The literal of a node adds functions of elements in it. -/
theorem literal_addsFrom (site : Site) (declare : Bool) : ∀ n, Node.allTags (isAmong names) n →
    AddsFrom names (literal o site declare n)
  | .element t cs, among => by
      rw [literal]
      refine (insideLiteral_addsFrom fun site' opening => ?_).bind fun _ => .pure _
      exact literals_addsFrom site' declare (t.name == "script") opening cs
        (allTags_element.mp among).2
  | .document cs, among => by
      rw [literal]
      exact literals_addsFrom site declare false .settled cs among
  | .text _, _ | .comment _, _ | .doctype _, _ | .markup _, _ => by
      rw [literal]
      exact .pure _

theorem innerLiteral_addsFrom (site : Site) : ∀ n, Node.allTags (isAmong names) n →
    AddsFrom names (innerLiteral o site n)
  | .element t cs, among => by
      rw [innerLiteral]
      refine insideLiteral_addsFrom fun site' opening => ?_
      exact literals_addsFrom site' true (t.name == "script") opening cs
        (allTags_element.mp among).2
  | .document cs, among => by
      rw [innerLiteral]
      exact literals_addsFrom site true false .settled cs among
  | .text _, _ | .comment _, _ | .doctype _, _ | .markup _, _ => by
      rw [innerLiteral]
      · exact .pure _
      all_goals intros; contradiction

theorem literals_addsFrom (site : Site) (declare inScript : Bool) (opening : Opening) :
    ∀ cs, allTags (isAmong names) cs →
      AddsFrom names (literals o site declare inScript opening cs)
  | [], _ => by
      unfold literals
      split
      · exact madeHead_addsFrom
      · exact .pure _
  | c :: cs, among => by
      rw [allTags_cons] at among
      refine literals_cons_addsFrom (childText_addsFrom among.1 ?_ ?_ ?_ ?_) fun opening' => ?_
      · exact literal_addsFrom site.first declare c among.1
      · exact literal_addsFrom site.first false c among.1
      · exact innerLiteral_addsFrom site.first c among.1
      · exact branches_addsFrom site.rest cs among.2
      · exact literals_addsFrom site.rest declare inScript opening' cs among.2

theorem branches_addsFrom (site : Site) : ∀ cs, allTags (isAmong names) cs →
    AddsFrom names (branches o site cs)
  | [], _ => by
      rw [branches]
      exact .pure _
  | c :: cs, among => by
      rw [allTags_cons] at among
      have rest := branches_addsFrom site.rest cs among.2
      rw [branches]
      split
      · exact (literal_addsFrom site.first false c among.1).bind fun _ =>
          rest.bind fun _ => .pure _
      split
      · exact rest
      · exact .pure _

end

/-! ## Code at a place -/

/-- The code of the first of some siblings adds functions of elements that are among the
names. -/
theorem firstCode_addsFrom (site : Site) (nested declare : Bool) {t : Tag} {cs ns : List Node}
    (other : t.name ≠ "script") (among : allTags (isAmong names) (.element t cs :: ns)) :
    AddsFrom names (firstCode o site nested declare (.element t cs :: ns)) := by
  rw [allTags_cons] at among
  exact elementCode_addsFrom (allTags_element.mp among.1).1 other
    (literal_addsFrom _ _ _ among.1) (innerLiteral_addsFrom _ _ among.1)
    (branches_addsFrom _ _ among.2)

theorem ne_script_of_isTarget {t : Tag} (target : isTarget t) : t.name ≠ "script" := by
  rintro script
  simp [isTarget, script] at target

/-- The code of an element with a directive comes with functions, which are those
of elements that are among the names if all elements are. -/
theorem codeAt_addsFrom (names : List String) {path : Path} {p p' : Progress}
    {code? : Option String} (found : findPath? isTarget p.doc = some path)
    (h : codeAt o false false path p = .ok (code?, p')) :
    ∃ codes, p'.doc = place codes p.doc ∧
      (allTags (isAmong names) p.doc → ∀ c ∈ codes, IsFunctionOf names c) := by
  obtain ⟨codes, run, rfl⟩ := codeAt_eq_ok h
  refine ⟨codes, rfl, fun among => ?_⟩
  obtain ⟨t, cs, rest, target, here, -⟩ := replaced_found (f := fun _ => []) p.doc path found
  have there := (isDeep_allTags (isAmong names)).siblingsAt path among
  rw [here] at there run
  have adds := firstCode_addsFrom (o := o) ((Site.ofDocument p.doc).mapPath (seenFrom path)) false
    false (ne_script_of_isTarget target) there
  exact (adds [] (fun c hc => by cases hc) code? codes run).2

theorem isAmong_script {t : Tag} (name : t.name = "script") : isAmong names t := by
  simp [isAmong, name]

theorem among_insertBeforeElement {n : Node} {ns : List Node}
    (new : Node.allTags (isAmong names) n) (h : allTags (isAmong names) ns) :
    allTags (isAmong names) (insertBeforeElement n ns) := by
  induction ns with
  | nil => exact allTags_cons.mpr ⟨new, rfl⟩
  | cons c cs ih =>
      rw [allTags_cons] at h
      rw [insertBeforeElement]
      split
      · exact allTags_cons.mpr ⟨new, allTags_cons.mpr h⟩
      · exact allTags_cons.mpr ⟨h.1, ih h.2⟩

/-- Functions ask for no others. -/
theorem among_place (codes : List String) {doc : Document} (h : allTags (isAmong names) doc) :
    allTags (isAmong names) (place codes doc) := by
  have functions : allTags (isAmong names) (codes.map functionScript) :=
    allTags_functions (fun t name _ => isAmong_script name) codes
  have new : Node.allTags (isAmong names) (newHead (codes.map functionScript)) :=
    allTags_element.mpr ⟨by rfl, functions⟩
  have below {p : Tag → Bool} {g : List Node → List Node} {path : Path}
      (found : findPath? p doc = some path)
      (keeps : ∀ cs, allTags (isAmong names) cs → allTags (isAmong names) (g cs)) :
      allTags (isAmong names) (modifyAt (Node.mapChildren g) path doc) := by
    refine allTags_of_changed (changed_replaceAt doc path found) (fun t cs _ all => ?_) h
    rw [allTags_element] at all
    exact allTags_cons.mpr ⟨allTags_element.mpr ⟨all.1, keeps cs all.2⟩, rfl⟩
  refine place_cases codes doc ?nothing ?head ?html ?bare
  case nothing => exact fun _ => h
  case head =>
    refine fun path found => below found fun cs all => ?_
    rw [allTags_append, all, functions]
    rfl
  case html => exact fun _ path found => below found fun cs => among_insertBeforeElement new
  case bare => exact fun _ => among_insertBeforeElement new h

theorem among_replaceFirst (code? : Option String) {p : Progress}
    (h : allTags (isAmong names) p.doc) : allTags (isAmong names) (replaceFirst code? p).doc := by
  unfold replaceFirst
  split
  · exact h
  · rename_i path found
    refine allTags_of_changed (changed_replaceAt p.doc path found) (fun t cs _ _ => ?_) h
    cases code? <;> rfl

end PageTemplates.Compile
