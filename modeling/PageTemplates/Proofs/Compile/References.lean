import PageTemplates.Proofs.Compile.Hoisting
import PageTemplates.Proofs.Compile.Outcome

/-!
# References to functions

An element that is live is written out by a function of its own, which its code refers to by
name. The name is defined by one of the functions that come with the code, or, where functions
are defined elsewhere, it is one of the names that are. The main facts:

* `Refers names inside inside' t`: outside of its strings, the text `t` of generated code
  refers to functions with these names and is made of words of the library besides;
* `Uses later given names g`: a computation keeps the functions there are, and what it gives refers
  to these names, where `later` functions are defined;
* `literal_uses`, `innerLiteral_uses`, `branches_uses`: this holds of literals;
* `firstCode_uses`: and of the code of an element.
-/

namespace PageTemplates.Compile

open Markup Script

/-! ## Text with references -/

/-- The words of generated code that are no references to functions. -/
def codeWords : List String :=
  ["YST.Txt.select", "YST.Txt.include", "YST.Txt.value", "YST.Txt.literal", "YST.Txt.iff",
   "YST.Txt.apply", "YST.Txt.ystBool", "([], 0, \x7b\x7d,", "(contextValues,contextI,params,",
   ";\nresult += ", "null,", ",", ", [", ",[", "[", "]", ")"]

/-- Text of generated code which refers to functions with the given names and to no others. It
begins inside or outside of a string, and ends so. End tags are written into strings as they
are, and other text is escaped. -/
inductive Refers (names : String → Prop) : Bool → Bool → String → Prop where
  | empty {a : Bool} : Refers names a a ""
  | text {t : String} (h : IsInside t) : Refers names true true t
  | endTag {name : String} (h : '>' ∉ name.toList) : Refers names true true ("</" ++ name ++ ">")
  | opening : Refers names false true "'"
  | closing : Refers names true false "'"
  | word {w : String} (h : w ∈ codeWords) : Refers names false false w
  | reference {name : String} (h : names name) : Refers names false false (name ++ ",[]")
  | append {a b c : Bool} {s t : String} (hs : Refers names a b s) (ht : Refers names b c t) :
      Refers names a c (s ++ t)

/-- A function with this name is defined by one of the codes. -/
def Defined (codes : List String) (name : String) : Prop := ∃ body, functionCode name body ∈ codes

/-- The code defines a function that has one of the names `given`, and refers to functions with
the names `names`. -/
def IsFunctionUsing (given : List String) (names : String → Prop) (code : String) : Prop :=
  ∃ name ∈ given, ∃ body, code = functionCode name body ∧ Refers names true true body

namespace Refers

variable {names : String → Prop} {a b : Bool} {s t : String}

theorem of_eq (h : Refers names a b s) (same : s = t) : Refers names a b t := same ▸ h

theorem escape (s : String) : Refers names true true (escape s) := .text (isInside_escape s)

/-- The end of a string, and a comma. -/
theorem close_comma : Refers names true false "'," :=
  (closing.append (.word (w := ",") (by decide))).of_eq (by decide)

/-- A comma, and the beginning of a string. -/
theorem comma_open : Refers names false true ",'" :=
  ((word (w := ",") (by decide)).append .opening).of_eq (by decide)

/-- The beginning of an array, and of a string in it. -/
theorem array_open : Refers names false true "['" :=
  ((word (w := "[") (by decide)).append .opening).of_eq (by decide)

/-- The end of a string, and of an array around it. -/
theorem close_array : Refers names true false "']" :=
  (closing.append (.word (w := "]") (by decide))).of_eq (by decide)

/-- A text as an argument, and the comma behind it. -/
theorem argument (s : String) : Refers names false false ("'" ++ Script.escape s ++ "',") :=
  (opening.append (escape s)).append close_comma

/-- A template of one string. -/
theorem array (h : Refers names true true t) : Refers names false false ("['" ++ t ++ "']") :=
  (array_open.append h).append close_array

end Refers

section

variable {names : String → Prop} {t body a s : String}

theorem refers_tagLiteral (o : Options) (t : Tag) : Refers names true true (tagLiteral o t) := by
  have ending : Refers names true true ">" := .text ⟨">".toList, .of_plain rfl⟩
  unfold tagLiteral
  cases lastBool? t with
  | none => exact ((Refers.escape _).append .empty).append ending
  | some v =>
      have blank : Refers names true true " " := .text ⟨" ".toList, .of_plain rfl⟩
      have front : Refers names true true " ',YST.Txt.ystBool,['" :=
        ((((blank.append .close_comma).append (.word (w := "YST.Txt.ystBool") (by decide))).append
          (.word (w := ",[") (by decide))).append .opening).of_eq (by decide)
      have back : Refers names true true "'],'" :=
        (Refers.close_array.append .comma_open).of_eq (by decide)
      exact ((Refers.escape _).append ((front.append (.escape _)).append back)).append ending

theorem refers_closingLiteral {name : String} (h : '>' ∉ name.toList) :
    Refers names true true (closingLiteral name) := by
  unfold closingLiteral
  split
  · exact .empty
  split
  · exact .text (isInside_closingLiteral (show isPlainName "script" = true from rfl))
  · exact .endTag h

theorem refers_auxArgument (aux : Option String) : Refers names false false (auxArgument aux) := by
  cases aux with
  | none => exact .word (by decide)
  | some s => exact .argument s

theorem refers_branchCode (d : Directive) (h : Refers names true true body) :
    Refers names false false (branchCode d body) := by
  have whole := ((Refers.comma_open.append (.escape d.test)).append .close_comma).append
    ((refers_auxArgument d.aux).append (.array h))
  exact whole.of_eq (by simp only [branchCode, String.append_assoc])

theorem refers_surroundings (declare : Bool) :
    Refers names false false (surroundings declare) := by
  cases declare <;> exact .word (by decide)

theorem refers_callCode (nested declare : Bool) {f : String} (hf : f ∈ codeWords)
    (ha : Refers names false false a) : Refers names false false (callCode nested declare f a) := by
  unfold callCode
  split
  · exact (((Refers.word hf).append (.word (by decide))).append ha).append (.word (by decide))
  · exact (((Refers.word hf).append (refers_surroundings declare)).append ha).append
      (.word (by decide))

/-- A choice, whose arguments do not begin with the auxiliary one. -/
theorem refers_select (nested declare : Bool) (set : String) (ha : Refers names false false a) :
    Refers names false false
      ((if nested then "YST.Txt.select, [" ++ ("'" ++ escape set ++ "'")
        else "YST.Txt.select" ++ surroundings declare ++ ("'" ++ escape set ++ "'")) ++ a
        ++ if nested then "]" else ")") := by
  have argument : Refers names false false ("'" ++ escape set ++ "'") :=
    (Refers.opening.append (.escape set)).append .closing
  have word : Refers names false false "YST.Txt.select" := .word (by decide)
  cases nested with
  | true =>
      have front : Refers names false false "YST.Txt.select, [" :=
        (word.append (.word (w := ", [") (by decide))).of_eq (by decide)
      exact ((front.append argument).append ha).append (.word (by decide))
  | false =>
      exact (((word.append (refers_surroundings declare)).append argument).append ha).append
        (.word (by decide))

/-- The items that a live element becomes. -/
theorem refers_liveItems (o : Options) {t : Tag} (name : '>' ∉ t.name.toList) {reference : String}
    (h : Refers names false false reference) :
    Refers names false false
      ("['" ++ tagLiteral o t ++ "'," ++ reference ++ ",'</" ++ t.name ++ ">']") := by
  have whole := ((((Refers.array_open.append (refers_tagLiteral o t)).append .close_comma).append
    h).append .comma_open).append ((Refers.endTag name).append .close_array)
  refine whole.of_eq (String.toList_injective ?_)
  simp

/-- A text and a template as arguments. -/
theorem refers_testItems (s : String) (h : Refers names true true t) :
    Refers names false false ("'" ++ escape s ++ "',['" ++ t ++ "']") := by
  refine ((Refers.argument s).append (.array h)).of_eq (String.toList_injective ?_)
  simp

/-- The text that code takes in a literal. -/
theorem refers_splice (declare : Bool) {code? : Option String}
    (h : ∀ code ∈ code?, Refers names false false code) :
    Refers names true true (splice declare code?) := by
  have line : Refers names false false ";\nresult += " := .word (by decide)
  have close_line : Refers names true false "';\nresult += " :=
    (Refers.closing.append line).of_eq (by decide)
  have line_open : Refers names false true ";\nresult += '" :=
    (line.append .opening).of_eq (by decide)
  cases code? with
  | none => exact .empty
  | some code =>
      unfold splice
      dsimp only
      split
      · exact (close_line.append (h code rfl)).append line_open
      · exact (Refers.close_comma.append (h code rfl)).append .comma_open

end

/-! ## Computations that refer to functions -/

/-- A computation keeps the functions there are. If all of those there are then are among the
`later` ones, its result satisfies `Q`, and the functions go on to have names that are given, and
to refer to functions with the names. -/
def Uses {α : Type} (later given : List String) (names : String → Prop) (g : Gen α)
    (Q : α → Prop) : Prop :=
  ∀ codes a codes', g.run codes = .ok (a, codes') → codes ⊆ codes' ∧
    (codes' ⊆ later → Q a ∧ ((∀ c ∈ codes, IsFunctionUsing given names c) →
      ∀ c ∈ codes', IsFunctionUsing given names c))

namespace Uses

variable {α β : Type} {later given : List String} {names : String → Prop} {g : Gen α}
  {P Q : α → Prop}

theorem pure {a : α} (h : Q a) : Uses later given names (Pure.pure a) Q := by
  intro codes b codes' run
  cases run
  exact ⟨List.Subset.refl codes, fun _ => ⟨h, id⟩⟩

theorem bind {f : α → Gen β} {R : β → Prop} (hg : Uses later given names g P)
    (hf : ∀ a, Uses later given names (f a) fun b => P a → R b) :
    Uses later given names (g >>= f) R := by
  intro codes b codes' run
  obtain ⟨a, codes₁, hga, hfb⟩ := run_bind_eq_ok run
  obtain ⟨kept, first⟩ := hg codes a codes₁ hga
  obtain ⟨kept', second⟩ := hf a codes₁ b codes' hfb
  refine ⟨List.Subset.trans kept kept', fun all => ?_⟩
  obtain ⟨here, keeps⟩ := first (List.Subset.trans kept' all)
  obtain ⟨there, keeps'⟩ := second all
  exact ⟨there here, fun h => keeps' (keeps h)⟩

theorem get : Uses later given names (MonadState.get : Gen (List String)) fun _ => True := by
  intro codes a codes' run
  cases run
  exact ⟨List.Subset.refl codes, fun _ => ⟨trivial, id⟩⟩

theorem lift_bind {x : Except TemplateError α} {f : α → Gen β} {R : β → Prop}
    (h : ∀ a, x = .ok a → Uses later given names (f a) R) :
    Uses later given names ((liftM x : Gen α) >>= f) R := by
  intro codes b codes' run
  obtain ⟨a, codes₁, lifted, rest⟩ := run_bind_eq_ok run
  obtain ⟨same, rfl⟩ := run_lift_eq_ok lifted
  exact h a same codes₁ b codes' rest

theorem mono (h : Uses later given names g P) (all : ∀ a, P a → Q a) : Uses later given names g Q :=
  fun codes a codes' run => ⟨(h codes a codes' run).1, fun le =>
    ((h codes a codes' run).2 le).imp_left (all a)⟩

end Uses

/-- Whether the name of an element has no bracket that ends a tag, and the function of the
element, if it asks for one, has one of the names. -/
def isReferred (names : List String) (t : Tag) : Bool :=
  !t.name.toList.contains '>' && isAmong names t

theorem isReferred_iff {names : List String} {t : Tag} :
    isReferred names t ↔ '>' ∉ t.name.toList ∧ isAmong names t := by
  simp [isReferred]

section

variable {o : Options} {later given : List String} {names : String → Prop}

/-- What is referred to is defined by one of the functions, or is one of the given names where
functions are defined elsewhere. -/
structure Covers (split : Bool) (later given : List String) (names : String → Prop) : Prop where
  defined : split = false → ∀ f, Defined later f → names f
  given : split → ∀ f ∈ given, names f

/-! ## Code of directives -/

/-- A function that is defined may be referred to. -/
theorem hoist_uses (defined : ∀ f, Defined later f → names f) {d : Directive} {inner : Gen String}
    (known : ∀ name ∈ d.functionName?, name ∈ given)
    (hi : Uses later given names inner (Refers names true true)) :
    Uses later given names (hoist d inner) fun name? => ∀ name ∈ name?, names name := by
  unfold hoist
  split
  · exact .pure fun _ h => by cases h
  · rename_i name named
    intro codes a codes' run
    obtain ⟨body, below, hbody, rest⟩ := run_bind_eq_ok run
    obtain ⟨kept, inside⟩ := hi codes body below hbody
    cases rest
    refine ⟨fun c hc => List.mem_append_left _ (kept hc), fun all => ?_⟩
    have own : functionCode name body ∈ later := all (by simp)
    obtain ⟨text, keeps⟩ := inside fun c hc => all (List.mem_append_left _ hc)
    refine ⟨?_, fun h => ?_⟩
    · rintro _ ⟨⟩
      exact defined name ⟨body, own⟩
    · rw [List.forall_mem_append, List.forall_mem_singleton]
      exact ⟨keeps h, name, known name named, body, rfl, text⟩

theorem directiveCode_uses (covers : Covers o.split later given names) {nested declare : Bool}
    {t : Tag} {d : Directive} {whole inner branches : Gen String} (name : '>' ∉ t.name.toList)
    (known : d.hoists → ∀ f ∈ d.functionName?, f ∈ given)
    (hw : Uses later given names whole (Refers names true true))
    (hi : Uses later given names inner (Refers names true true))
    (hb : Uses later given names branches (Refers names false false)) :
    Uses later given names (directiveCode o nested declare t d whole inner branches) fun code? =>
      ∀ code ∈ code?, Refers names false false code := by
  have silent : ∀ code ∈ (none : Option String), Refers names false false code := by
    rintro code ⟨⟩
  -- a call whose arguments are the auxiliary one and further ones
  have call {f a : String} (hf : f ∈ codeWords) (ha : Refers names false false a) :
      ∀ code ∈ some (callCode nested declare f (auxArgument d.aux ++ a)),
        Refers names false false code := by
    rintro code ⟨⟩
    exact refers_callCode nested declare hf ((refers_auxArgument d.aux).append ha)
  unfold directiveCode
  dsimp only
  split <;> rename_i kind
  · exact .pure silent
  · split
    · exact .pure silent
    · rename_i own
      have own' : o.split = false := by simpa using own
      have asks : d.hoists := by rw [Directive.hoists, kind]; rfl
      exact (hoist_uses (covers.defined own') (known asks) hi).bind fun _ => .pure fun _ => silent
  · refine hw.bind fun s => hb.bind fun u => .pure fun hu hs => ?_
    rintro code ⟨⟩
    have choice := refers_select nested declare d.targetSet ((refers_branchCode d hs).append hu)
    simpa only [← String.append_assoc] using choice
  · refine .pure (call (by decide) (Refers.of_eq ((Refers.argument d.idRef).append
      ((Refers.opening.append (.escape d.params)).append .closing)) (String.toList_injective ?_)))
    simp
  · -- whether the function is defined here or elsewhere, it may be referred to
    have finish (name? : Option String) (reference : String)
        (other : reference = "''" ∨ ∃ f ∈ name?, reference = f ++ ",[]")
        (referred : ∀ f ∈ name?, names f) :
        ∀ code ∈ some (callCode nested declare "YST.Txt.value" (auxArgument d.aux ++ ("['"
          ++ tagLiteral o t ++ "'," ++ reference ++ ",'</" ++ t.name ++ ">']"))),
          Refers names false false code := by
      refine call (by decide) (refers_liveItems o name ?_)
      rcases other with rfl | ⟨f, here, rfl⟩
      · exact (Refers.opening.append .closing).of_eq (by decide)
      · exact .reference (referred f here)
    have known := known (by rw [Directive.hoists, kind]; rfl)
    split
    · rename_i elsewhere
      have referred := fun f own => covers.given elsewhere f (known f own)
      exact (Uses.pure (Q := fun name? => ∀ f ∈ name?, names f) referred).bind fun name? =>
        .pure (finish name? _ (by cases name? <;> simp))
    · rename_i own
      have own' : o.split = false := by simpa using own
      exact (hoist_uses (covers.defined own') known hi).bind fun name? =>
        .pure (finish name? _ (by cases name? <;> simp))
  · exact hw.bind fun s => .pure fun hs => call (by decide) (.array hs)
  · exact hw.bind fun s => .pure fun hs => call (by decide) (.array hs)
  · exact hw.bind fun s => .pure fun hs => call (by decide) (refers_testItems d.test hs)
  · exact hw.bind fun s => .pure fun hs => call (by decide) (refers_testItems d.targetSet hs)

theorem elementCode_uses (covers : Covers o.split later given names) {site : Site}
    {nested declare : Bool} {t : Tag} {cs : List Node} {whole inner branches : Gen String}
    (referred : isReferred given t) (other : t.name ≠ "script")
    (hw : Uses later given names whole (Refers names true true))
    (hi : Uses later given names inner (Refers names true true))
    (hb : Uses later given names branches (Refers names false false)) :
    Uses later given names (elementCode o site nested declare (.element t cs) whole inner branches)
      fun code? => ∀ code ∈ code?, Refers names false false code := by
  obtain ⟨name, among⟩ := isReferred_iff.mp referred
  unfold elementCode
  refine Uses.get.bind fun codes => ?_
  dsimp only
  refine Uses.lift_bind fun d hd => ?_
  obtain ⟨kind, hk, rfl⟩ := directive_eq_ok hd
  refine (directiveCode_uses covers name (fun hoists f own => ?_) hw hi hb).mono
    fun code? h _ => h
  have asks : isFunction t := (hoists_eq_isFunction hk).symm.trans hoists
  have own' : functionName? t = some f := own
  rw [isAmong, asks, own', Option.all_some] at among
  simpa [other] using among

/-! ## Literals -/

theorem functionLiterals_inside (o : Options) (codes : List String) :
    IsInside (String.join (codes.map (functionLiteral o))) := by
  refine IsInside.join fun t ht => ?_
  obtain ⟨code, -, rfl⟩ := List.mem_map.mp ht
  exact isInside_functionLiteral o code

theorem madeHead_uses : Uses later given names (madeHead o) (Refers names true true) := by
  refine Uses.get.bind fun codes => .pure fun _ => ?_
  exact ((refers_tagLiteral o _).append (.text (functionLiterals_inside o codes))).append
    (refers_closingLiteral (by decide))

theorem insideLiteral_uses {site : Site} {cs : List Node} {walk : Site → Opening → Gen String}
    (h : ∀ site' opening, Uses later given names (walk site' opening) (Refers names true true)) :
    Uses later given names (insideLiteral o site cs walk) (Refers names true true) := by
  unfold insideLiteral
  split
  · refine (h _ _).bind fun t => Uses.get.bind fun codes => .pure fun _ ht => ?_
    exact ht.append (.text (functionLiterals_inside o codes))
  · refine Uses.get.bind fun codes => ?_
    split
    · exact (h _ _).mono fun _ ht _ => ht
    · exact (h _ _).mono fun _ ht _ => ht
  · exact h _ _

/-- The text of a child. What is directly inside a script is text. -/
theorem childText_uses (covers : Covers o.split later given names) {site : Site}
    {declare inScript : Bool} {c : Node} {branches : Gen String}
    (referred : Node.allTags (isReferred given) c) (text : inScript → Node.isText c)
    (hp : ∀ declare', Uses later given names (literal o site declare' c) (Refers names true true))
    (hi : Uses later given names (innerLiteral o site c) (Refers names true true))
    (hb : Uses later given names branches (Refers names false false)) :
    Uses later given names (childText o site declare inScript c (literal o site declare c)
      (literal o site false c) (innerLiteral o site c) branches) (Refers names true true) := by
  unfold childText
  split
  -- inside a script the only node is text, and no directive is looked at
  · rename_i script
    cases c with
    | text s =>
        rw [literal]
        exact (Uses.pure (Q := fun t => IsInside t) (isInside_escape _)).bind fun t =>
          .pure fun ht => .text (Inside.unmark ht)
    | element _ _ | document _ | comment _ | doctype _ | markup _ => cases text script
  split
  · rename_i directive
    cases c with
    | element t cs =>
        rw [Bool.and_eq_true, bne_iff_ne] at directive
        refine (elementCode_uses covers (allTags_element.mp referred).1 directive.1 (hp false) hi
          hb).bind fun code? => .pure fun h => refers_splice declare h
    | document _ | text _ | comment _ | doctype _ | markup _ =>
        simp [Node.isDirective] at directive
  · exact hp declare

/-- The text of a child, once or twice, and that of its siblings. -/
theorem literals_cons_uses {site : Site} {declare inScript : Bool} {opening : Opening} {c : Node}
    {cs : List Node}
    (child : Uses later given names (childText o site.first declare inScript c
      (literal o site.first declare c) (literal o site.first false c)
      (innerLiteral o site.first c) (branches o site.rest cs)) (Refers names true true))
    (rest : ∀ opening', Uses later given names (literals o site.rest declare inScript opening' cs)
      (Refers names true true)) :
    Uses later given names (literals o site declare inScript opening (c :: cs))
      (Refers names true true) := by
  have children (front : String) (opening' : Opening) :
      Uses later given names (childrenFrom o site declare inScript c cs front opening') fun t =>
        Refers names true true front → Refers names true true t := by
    unfold childrenFrom
    refine Uses.get.bind fun codes => child.bind fun t => Uses.get.bind fun codes' => ?_
    dsimp only
    split
    · exact child.bind fun t' => (rest _).bind fun u => .pure fun hu ht' _ ht _ hf =>
        ((hf.append ht).append ht').append hu
    · exact (Uses.pure (Q := Refers names true true) .empty).bind fun t' => (rest _).bind fun u =>
        .pure fun hu ht' _ ht _ hf => ((hf.append ht).append ht').append hu
  rw [literals_cons]
  split
  · exact madeHead_uses.bind fun front => children front _
  · exact (children "" _).mono fun t ht => ht .empty

mutual

/-- The literal of a node refers to functions that are defined. -/
theorem literal_uses (covers : Covers o.split later given names) (site : Site) (declare : Bool) :
    ∀ n, Node.allTags (isReferred given) n → Node.plainScripts n →
      Uses later given names (literal o site declare n) (Refers names true true)
  | .element t cs, referred, plain => by
      rw [allTags_element] at referred
      rw [plainScripts_element] at plain
      have name := (isReferred_iff.mp referred.1).1
      rw [literal]
      refine (insideLiteral_uses fun site' opening => ?_).bind fun text => .pure fun h =>
        ((refers_tagLiteral o t).append h).append (refers_closingLiteral name)
      exact literals_uses covers site' declare (t.name == "script") opening cs referred.2 plain.2
        fun script => plain.1 (beq_iff_eq.mp script)
  | .document cs, referred, plain => by
      rw [literal]
      exact literals_uses covers site declare false .settled cs referred plain fun h => by cases h
  | .text s, _, _ | .doctype s, _, _ | .markup s, _, _ => by
      rw [literal]
      exact .pure (.escape _)
  | .comment _, _, _ => by
      rw [literal]
      exact .pure .empty

/-- So does the literal of what it holds. -/
theorem innerLiteral_uses (covers : Covers o.split later given names) (site : Site) :
    ∀ n, Node.allTags (isReferred given) n → Node.plainScripts n →
      Uses later given names (innerLiteral o site n) (Refers names true true)
  | .element t cs, referred, plain => by
      rw [allTags_element] at referred
      rw [plainScripts_element] at plain
      rw [innerLiteral]
      refine insideLiteral_uses fun site' opening => ?_
      exact literals_uses covers site' true (t.name == "script") opening cs referred.2 plain.2
        fun script => plain.1 (beq_iff_eq.mp script)
  | .document cs, referred, plain => by
      rw [innerLiteral]
      exact literals_uses covers site true false .settled cs referred plain fun h => by cases h
  | .text _, _, _ | .comment _, _, _ | .doctype _, _, _ | .markup _, _, _ => by
      rw [innerLiteral]
      · exact .pure .empty
      all_goals intros; contradiction

theorem literals_uses (covers : Covers o.split later given names) (site : Site)
    (declare inScript : Bool) (opening : Opening) : ∀ cs, allTags (isReferred given) cs →
      plainScripts cs → (inScript → cs.all Node.isText) →
      Uses later given names (literals o site declare inScript opening cs) (Refers names true true)
  | [], _, _, _ => by
      unfold literals
      split
      · exact madeHead_uses
      · exact .pure .empty
  | c :: cs, referred, plain, text => by
      rw [allTags_cons] at referred
      rw [plainScripts_cons] at plain
      rw [List.all_cons, Bool.and_eq_true] at text
      refine literals_cons_uses (childText_uses covers referred.1 (fun h => (text h).1) ?_ ?_ ?_)
        fun opening' => ?_
      · exact fun declare' => literal_uses covers site.first declare' c referred.1 plain.1
      · exact innerLiteral_uses covers site.first c referred.1 plain.1
      · exact branches_uses covers site.rest cs referred.2 plain.2
      · exact literals_uses covers site.rest declare inScript opening' cs referred.2 plain.2
          fun h => (text h).2

/-- The code of further branches refers to functions that are defined. -/
theorem branches_uses (covers : Covers o.split later given names) (site : Site) :
    ∀ cs, allTags (isReferred given) cs → plainScripts cs →
      Uses later given names (branches o site cs) (Refers names false false)
  | [], _, _ => by
      rw [branches]
      exact .pure .empty
  | c :: cs, referred, plain => by
      rw [allTags_cons] at referred
      rw [plainScripts_cons] at plain
      have rest := branches_uses covers site.rest cs referred.2 plain.2
      rw [branches]
      split
      · rename_i joined
        cases c with
        | element t ds =>
            exact (literal_uses covers site.first false _ referred.1 plain.1).bind fun body =>
              rest.bind fun others => .pure fun ho hb => (refers_branchCode _ hb).append ho
        | document _ | text _ | comment _ | doctype _ | markup _ => cases joined
      split
      · exact rest
      · exact .pure .empty

end

/-- What an element holds refers to functions that are defined, whatever its own tag is. -/
theorem body_uses (covers : Covers o.split later given names) (site : Site) {t : Tag}
    {cs : List Node} (other : t.name ≠ "script") (referred : allTags (isReferred given) cs)
    (plain : plainScripts cs) :
    Uses later given names (innerLiteral o site (.element t cs)) (Refers names true true) := by
  rw [innerLiteral]
  refine insideLiteral_uses fun site' opening => ?_
  refine literals_uses covers site' true (t.name == "script") opening cs referred plain ?_
  exact fun script => absurd (beq_iff_eq.mp script) other

/-- The code of the first of some siblings refers to functions that are defined. -/
theorem firstCode_uses (covers : Covers o.split later given names) (site : Site)
    (nested declare : Bool) {t : Tag} {cs ns : List Node} (other : t.name ≠ "script")
    (referred : allTags (isReferred given) (.element t cs :: ns))
    (plain : plainScripts (.element t cs :: ns)) :
    Uses later given names (firstCode o site nested declare (.element t cs :: ns)) fun code? =>
      ∀ code ∈ code?, Refers names false false code := by
  rw [allTags_cons] at referred
  rw [plainScripts_cons] at plain
  exact elementCode_uses covers (allTags_element.mp referred.1).1 other
    (literal_uses covers _ _ _ referred.1 plain.1) (innerLiteral_uses covers _ _ referred.1 plain.1)
    (branches_uses covers _ _ referred.2 plain.2)

end

end PageTemplates.Compile
