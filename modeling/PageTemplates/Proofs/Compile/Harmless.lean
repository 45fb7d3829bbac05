import PageTemplates.Proofs.Compile.Functions
import PageTemplates.Proofs.Script.EndTag

/-!
# Generated code closes no script

Code is put together from escaped text, end tags, names of functions and fixed
text. In a tree whose scripts hold only text, whose end tags are those of
elements, and whose function names have no bracket, none of it holds the end tag
of a script. The main facts:

* `Keeps g Q`: a result of `g` satisfies `Q`, and it adds only harmless
  functions;
* `literal_keeps`, `innerLiteral_keeps`, `branches_keeps`: literals are harmless;
* `firstCode_keeps`: and so is the code of an element with a directive.
-/

namespace PageTemplates.Compile

open Markup Script

/-! ## Computations that add harmless functions -/

/-- From a state that satisfies `I`, a computation gives results that satisfy
`Q`, and a state that satisfies `I`. -/
def Preserves {σ α : Type} (I : σ → Prop) (g : StateT σ (Except TemplateError) α)
    (Q : α → Prop) : Prop :=
  ∀ s, I s → ∀ a s', g.run s = .ok (a, s') → Q a ∧ I s'

/-- Where all functions are harmless, a result satisfies `Q`, and all functions
still are. -/
abbrev Keeps {α : Type} (g : Gen α) (Q : α → Prop) : Prop :=
  Preserves (fun codes => ∀ c ∈ codes, Harmless c) g Q

namespace Preserves

variable {σ α β : Type} {I : σ → Prop} {g : StateT σ (Except TemplateError) α} {P Q : α → Prop}

theorem mono (h : Preserves I g P) (hPQ : ∀ a, P a → Q a) : Preserves I g Q := by
  intro s hs a s' hr
  obtain ⟨ha, hs'⟩ := h s hs a s' hr
  exact ⟨hPQ a ha, hs'⟩

theorem pure {a : α} (h : Q a) : Preserves I (Pure.pure a) Q := by
  intro s hs a' s' hr
  cases hr
  exact ⟨h, hs⟩

theorem bind {f : α → StateT σ (Except TemplateError) β} {R : β → Prop} (hg : Preserves I g P)
    (hf : ∀ a, P a → Preserves I (f a) R) : Preserves I (g >>= f) R := by
  intro s hs b s' hr
  rw [StateT.run_bind] at hr
  cases hg' : g.run s with
  | error e => rw [hg'] at hr; cases hr
  | ok r =>
      obtain ⟨a, s₁⟩ := r
      rw [hg'] at hr
      obtain ⟨ha, hs₁⟩ := hg s hs a s₁ hg'
      exact hf a ha s₁ hs₁ b s' hr

theorem get : Preserves I (MonadState.get : StateT σ (Except TemplateError) σ) fun _ => True := by
  intro s hs a s' hr
  cases hr
  exact ⟨trivial, hs⟩

theorem update {f : σ → σ} (h : ∀ s, I s → I (f s)) :
    Preserves I (modify f : StateT σ (Except TemplateError) PUnit) fun _ => True := by
  intro s hs a s' hr
  cases hr
  exact ⟨trivial, h s hs⟩

theorem lift {x : Except TemplateError α} (h : ∀ a, x = .ok a → Q a) :
    Preserves I (liftM x) Q := by
  intro s hs a s' hr
  cases x with
  | error e => cases hr
  | ok _ =>
      cases hr
      exact ⟨h a rfl, hs⟩

end Preserves

theorem keeps_add {code : String} (h : Harmless code) :
    Keeps (modify (· ++ [code]) : Gen PUnit) fun _ => True := by
  refine .update fun codes hcodes c hc => ?_
  rcases List.mem_append.mp hc with hc | hc
  · exact hcodes c hc
  · rw [List.mem_singleton] at hc
    exact hc ▸ h

/-! ## Tags -/

/-- Whether the end tag of an element closes no script that it stands in: the
name is that of a script, which is cut in two, or has another word and nothing
that ends it. -/
def isSoundName (name : String) : Bool :=
  name == "script" ||
    (name.toList.all (!endsName ·) && name.toList.map Char.toLower != "script".toList)

/-- Whether an element is compiled to a function: by its directive, or as the
body that a page is split at. -/
def Tag.hoists (t : Tag) : Bool :=
  t.page || t.name != "script" &&
    (DirectiveKind.ofWord? t.directiveWord).any fun kind => (t.directiveOf kind).hoists

/-- Whether the name of the function that an element is compiled to, if it is
compiled to one, has no bracket. -/
def isSoundId (t : Tag) : Bool := !Tag.hoists t || !(t.value "id").toList.contains '<'

/-- Whether neither the name nor the id of an element closes a script, and no
script is marked as the body. -/
def isSound (t : Tag) : Bool :=
  isSoundName t.name && isSoundId t && !(t.page && t.name == "script")

theorem isSound_iff {t : Tag} :
    isSound t ↔ isSoundName t.name ∧ isSoundId t ∧ (t.page → t.name ≠ "script") := by
  rw [isSound, Bool.and_eq_true, Bool.and_eq_true, and_assoc]
  cases t.page <;> simp

theorem noBracket_of_hoists {t : Tag} (h : isSound t) (hoists : Tag.hoists t) :
    '<' ∉ (t.value "id").toList := by
  simpa [isSoundId, hoists] using (isSound_iff.mp h).2.1

theorem isHarmlessName_of_isSoundName {name : String} (h : isSoundName name)
    (other : name ≠ "script") : IsHarmlessName name := by
  simp only [isSoundName, Bool.or_eq_true, beq_iff_eq, other, false_or, Bool.and_eq_true,
    List.all_eq_true, Bool.not_eq_true', bne_iff_ne] at h
  exact ⟨h.1, h.2⟩

theorem harmless_closingLiteral {name : String} (h : isSoundName name) :
    Harmless (closingLiteral name) := by
  unfold closingLiteral
  split
  · exact .empty
  split
  · exact harmless_cutEndTag
  · rename_i other
    exact harmless_endTag (isHarmlessName_of_isSoundName h (by simpa using other))

theorem harmless_tagLiteral (o : Options) (t : Tag) : Harmless (tagLiteral o t) := by
  have bracket : Harmless ">" := .of_noSlash (by decide)
  unfold tagLiteral
  dsimp only
  generalize "<" ++ t.name ++ String.join _ = text
  cases lastBool? t with
  | none => exact ((harmless_escape text).append .empty).append bracket
  | some v =>
      have call : Harmless (" ',YST.Txt.ystBool,['" ++ escape (v.getD "") ++ "'],'") :=
        (harmless_escape _).between (by decide) (by decide)
      exact ((harmless_escape text).append call).append bracket

theorem harmless_functionLiteral (o : Options) (code : String) :
    Harmless (functionLiteral o code) :=
  ((harmless_tagLiteral o _).append (harmless_unmark_escape _)).append harmless_cutEndTag

theorem mem_strip {c : Char} {s : String} (h : c ∈ (Text.strip s).toList) : c ∈ s.toList := by
  unfold Text.strip Text.trim Text.trimEnd Text.trimStart at h
  rw [String.toList_ofList] at h
  simp only [List.mem_reverse] at h
  have front := (List.dropWhile_suffix _).subset h
  rw [List.mem_reverse] at front
  exact (List.dropWhile_suffix _).subset front

/-- The name of a function has no bracket if the id has none. -/
theorem functionName_noBracket {t : Tag} {kind : DirectiveKind} {name : String}
    (h : '<' ∉ (t.value "id").toList) (hn : (t.directiveOf kind).functionName? = some name) :
    '<' ∉ name.toList := by
  unfold Directive.functionName? at hn
  split at hn
  · cases hn
  · rw [Option.some.injEq] at hn
    rw [← hn, Text.replace, String.toList_ofList]
    intro hm
    rcases Text.mem_replaceAll hm with hm | hm
    · exact absurd hm (by decide)
    · exact h (mem_strip hm)

/-! ## Calls -/

theorem harmless_surroundings (declare : Bool) : Harmless (surroundings declare) := by
  cases declare <;> exact .of_noSlash (by decide)

theorem harmless_auxArgument (aux : Option String) : Harmless (auxArgument aux) := by
  cases aux with
  | none => exact .of_noSlash (by decide)
  | some s => exact (harmless_escape s).between (by decide) (by decide)

theorem harmless_branchCode (d : Directive) {body : String} (h : Harmless body) :
    Harmless (branchCode d body) := by
  have front : Harmless ",'" := .of_noSlash (by decide)
  have between : Harmless "'," := .of_noSlash (by decide)
  have opening : Harmless "['" := .of_noSlash (by decide)
  have closing : Harmless "']" := .of_noSlash (by decide)
  exact (((((front.append (harmless_escape d.test)).append between).append
    (harmless_auxArgument d.aux)).append opening).append h).append closing

theorem harmless_callCode (nested declare : Bool) {function arguments : String}
    (hf : Harmless function) (ha : Harmless arguments) :
    Harmless (callCode nested declare function arguments) := by
  have opening : Harmless ",[" := .of_noSlash (by decide)
  have bracket : Harmless "]" := .of_noSlash (by decide)
  have closing : Harmless ")" := .of_noSlash (by decide)
  unfold callCode
  split
  · exact ((hf.append opening).append ha).append bracket
  · exact ((hf.append (harmless_surroundings declare)).append ha).append closing

theorem harmless_functionCode {name body : String} (hn : '<' ∉ name.toList) (hb : Harmless body) :
    Harmless (functionCode name body) := by
  have front : Harmless ("function " ++ name) := by
    refine .of_noBracket ?_ (by simp)
    simpa using hn
  have opening : Harmless "(contextValues, contextI, params) \x7b\nvar result = '" :=
    .of_noSlash (by decide)
  have closing : Harmless "';\nreturn result;\n\x7d\n" := .of_noSlash (by decide)
  exact ((front.append opening).append hb).append closing

theorem harmless_splice (declare : Bool) {code? : Option String}
    (h : ∀ code ∈ code?, Harmless code) : Harmless (splice declare code?) := by
  cases code? with
  | none => exact .empty
  | some code =>
      cases declare with
      | true => exact (h code rfl).between (by decide) (by decide)
      | false => exact (h code rfl).between (by decide) (by decide)

theorem hoist_keeps {d : Directive} {inner : Gen String} (inside : Keeps inner Harmless)
    (named : ∀ name ∈ d.functionName?, '<' ∉ name.toList) :
    Keeps (hoist d inner) fun name? => name? = d.functionName? := by
  unfold hoist
  split
  · rename_i none
    exact .pure none.symm
  · rename_i name some
    refine inside.bind fun body hb => ?_
    have code := harmless_functionCode (named name some) hb
    exact (keeps_add code).bind fun _ _ => .pure some.symm

/-- The items of a live element: its start tag, its function and its end tag. -/
theorem harmless_liveItems (o : Options) {t : Tag} (sound : isSoundName t.name)
    (other : t.name ≠ "script") {reference : String} (hr : Harmless ("'," ++ reference)) :
    Harmless ("['" ++ tagLiteral o t ++ "'," ++ reference ++ ",'</" ++ t.name ++ ">']") := by
  have opening : Harmless "['" := .of_noSlash (by decide)
  have between : Harmless ",'" := .of_noSlash (by decide)
  have closing : Harmless "']" := .of_noSlash (by decide)
  have ending := harmless_endTag (isHarmlessName_of_isSoundName sound other)
  have pieces : "['" ++ tagLiteral o t ++ "'," ++ reference ++ ",'</" ++ t.name ++ ">']"
      = "['" ++ tagLiteral o t ++ ("'," ++ reference) ++ ",'" ++ ("</" ++ t.name ++ ">")
        ++ "']" := by
    apply String.toList_injective
    simp
  rw [pieces]
  exact ((((opening.append (harmless_tagLiteral o t)).append hr).append between).append
    ending).append closing

theorem harmless_array {s : String} (h : Harmless s) : Harmless ("['" ++ s ++ "']") :=
  h.between (by decide) (by decide)

theorem harmless_quoted (s : String) : Harmless ("'" ++ escape s ++ "'") :=
  (harmless_escape s).between (by decide) (by decide)

theorem harmless_test (test : String) {s : String} (h : Harmless s) :
    Harmless ("'" ++ escape test ++ "',['" ++ s ++ "']") := by
  have quote : Harmless "'" := .of_noSlash (by decide)
  have between : Harmless "',['" := .of_noSlash (by decide)
  have closing : Harmless "']" := .of_noSlash (by decide)
  exact (((quote.append (harmless_escape test)).append between).append h).append closing

theorem harmless_select (nested declare : Bool) (d : Directive) {body others : String}
    (hb : Harmless body) (ho : Harmless others) :
    Harmless ((if nested then "YST.Txt.select, [" ++ ("'" ++ escape d.targetSet ++ "'")
      else "YST.Txt.select" ++ surroundings declare ++ ("'" ++ escape d.targetSet ++ "'"))
      ++ branchCode d body ++ others ++ if nested then "]" else ")") := by
  cases nested with
  | true =>
      have front : Harmless "YST.Txt.select, [" := .of_noSlash (by decide)
      have closing : Harmless "]" := .of_noSlash (by decide)
      exact (((front.append (harmless_quoted d.targetSet)).append (harmless_branchCode d hb)).append
        ho).append closing
  | false =>
      have front : Harmless "YST.Txt.select" := .of_noSlash (by decide)
      have closing : Harmless ")" := .of_noSlash (by decide)
      exact ((((front.append (harmless_surroundings declare)).append
        (harmless_quoted d.targetSet)).append (harmless_branchCode d hb)).append ho).append closing

/-- The code of a directive is harmless if the literals in it are. -/
theorem directiveCode_keeps {o : Options} {nested declare : Bool} {t : Tag} {d : Directive}
    {whole inner branches : Gen String} (sound : isSoundName t.name) (other : t.name ≠ "script")
    (named : d.hoists → ∀ name ∈ d.functionName?, '<' ∉ name.toList)
    (hw : Keeps whole Harmless) (hi : Keeps inner Harmless) (hb : Keeps branches Harmless) :
    Keeps (directiveCode o nested declare t d whole inner branches)
      fun code? => ∀ code ∈ code?, Harmless code := by
  have call : ∀ (f : String) {a : String}, '/' ∉ f.toList → Harmless a →
      ∀ code ∈ some (callCode nested declare f (auxArgument d.aux ++ a)), Harmless code := by
    rintro f a hf ha code ⟨⟩
    exact harmless_callCode nested declare (.of_noSlash hf) ((harmless_auxArgument d.aux).append ha)
  have silent : ∀ code ∈ (none : Option String), Harmless code := by
    rintro code ⟨⟩
  unfold directiveCode
  dsimp only
  split <;> rename_i kind
  · exact .pure silent
  · split
    · exact .pure silent
    · exact (hoist_keeps hi (named (by rw [Directive.hoists, kind]; rfl))).bind
        fun _ _ => .pure silent
  · refine hw.bind fun s hs => hb.bind fun u hu => .pure ?_
    rintro code ⟨⟩
    exact harmless_select nested declare d hs hu
  · refine .pure (call "YST.Txt.include" (by decide) ?_)
    have quote : Harmless "'" := .of_noSlash (by decide)
    have between : Harmless "','" := .of_noSlash (by decide)
    exact (((quote.append (harmless_escape d.idRef)).append between).append
      (harmless_escape d.params)).append quote
  · -- whether the function is defined here or elsewhere, it is called by its name
    have names := named (by rw [Directive.hoists, kind]; rfl)
    have finish : ∀ (name? : Option String) (reference : String), name? = d.functionName? →
        (name? = none → reference = "''") →
        (∀ name, name? = some name → reference = name ++ ",[]") →
        Harmless ("'," ++ reference) := by
      intro name? reference same without named
      cases name? with
      | none =>
          rw [without rfl]
          exact .of_noSlash (by decide)
      | some name =>
          rw [named name rfl]
          refine .of_noBracket ?_ (by simp)
          simpa using names name same.symm
    split
    · refine (Preserves.pure (Q := (· = d.functionName?)) rfl).bind fun name? h => .pure ?_
      exact call "YST.Txt.value" (by decide) (harmless_liveItems o sound other
        (finish name? _ h (by rintro rfl; rfl) (by rintro name rfl; rfl)))
    · refine (hoist_keeps hi names).bind fun name? h => .pure ?_
      exact call "YST.Txt.value" (by decide) (harmless_liveItems o sound other
        (finish name? _ h (by rintro rfl; rfl) (by rintro name rfl; rfl)))
  · exact hw.bind fun s hs => .pure (call "YST.Txt.value" (by decide) (harmless_array hs))
  · exact hw.bind fun s hs => .pure (call "YST.Txt.literal" (by decide) (harmless_array hs))
  · exact hw.bind fun s hs => .pure (call "YST.Txt.iff" (by decide) (harmless_test d.test hs))
  · exact hw.bind fun s hs =>
      .pure (call "YST.Txt.apply" (by decide) (harmless_test d.targetSet hs))

/-- A directive that is known has the kind that its word stands for. -/
theorem directive_eq_ok {t : Tag} {markup : String} {d : Directive}
    (h : t.directive markup = .ok d) :
    ∃ kind, DirectiveKind.ofWord? t.directiveWord = some kind ∧ d = t.directiveOf kind := by
  unfold Tag.directive at h
  split at h
  · rename_i kind hk
    cases h
    exact ⟨kind, hk, rfl⟩
  · cases h

/-- The code of an element with a directive is harmless. -/
theorem elementCode_keeps {o : Options} {site : Site} {nested declare : Bool} {t : Tag}
    {cs : List Node} {whole inner branches : Gen String} (sound : isSound t)
    (other : t.name ≠ "script") (hw : Keeps whole Harmless) (hi : Keeps inner Harmless)
    (hb : Keeps branches Harmless) :
    Keeps (elementCode o site nested declare (.element t cs) whole inner branches)
      fun code? => ∀ code ∈ code?, Harmless code := by
  unfold elementCode
  refine Preserves.get.bind fun codes _ => ?_
  dsimp only
  refine (Preserves.lift fun d hd => directive_eq_ok hd).bind ?_
  rintro d ⟨kind, hk, rfl⟩
  refine directiveCode_keeps (isSound_iff.mp sound).1 other (fun hoists name hname => ?_) hw hi hb
  have hoisted : Tag.hoists t := by simp [Tag.hoists, hk, hoists, other]
  exact functionName_noBracket (noBracket_of_hoists sound hoisted) hname

/-! ## Literals -/

theorem madeHead_keeps (o : Options) : Keeps (madeHead o) Harmless := by
  unfold madeHead
  refine Preserves.get.bind fun codes _ => .pure ?_
  refine ((harmless_tagLiteral o _).append (.join ?_)).append
    (harmless_closingLiteral (by decide))
  intro t ht
  obtain ⟨code, -, rfl⟩ := List.mem_map.mp ht
  exact harmless_functionLiteral o code

theorem insideLiteral_keeps {o : Options} {site : Site} {cs : List Node}
    {walk : Site → Opening → Gen String}
    (h : ∀ site' opening, Keeps (walk site' opening) Harmless) :
    Keeps (insideLiteral o site cs walk) Harmless := by
  unfold insideLiteral
  split
  · refine (h _ _).bind fun t ht => Preserves.get.bind fun codes _ => .pure (ht.append (.join ?_))
    intro u hu
    obtain ⟨code, -, rfl⟩ := List.mem_map.mp hu
    exact harmless_functionLiteral o code
  · refine Preserves.get.bind fun codes _ => ?_
    split
    · exact h _ _
    · exact h _ _
  · exact h _ _

/-- Directly inside a script stands text; elsewhere an element with a directive
has its code spliced in. -/
theorem childText_keeps {o : Options} {site : Site} {declare inScript : Bool} {c : Node}
    {plain whole inner branches : Gen String} (sound : Node.allTags isSound c)
    (script : inScript → Keeps plain fun s => Harmless (unmark s))
    (hp : Keeps plain Harmless) (hw : Keeps whole Harmless) (hi : Keeps inner Harmless)
    (hb : Keeps branches Harmless) :
    Keeps (childText o site declare inScript c plain whole inner branches) Harmless := by
  unfold childText
  split
  · rename_i hin
    exact (script hin).bind fun s hs => .pure hs
  · split
    · rename_i hd
      cases c with
      | element t cs =>
          rw [Bool.and_eq_true, bne_iff_ne] at hd
          rw [allTags_element] at sound
          refine (elementCode_keeps sound.1 hd.1 hw hi hb).bind fun code? hcode => .pure ?_
          exact harmless_splice declare hcode
      | document _ | text _ | comment _ | doctype _ | markup _ => simp [Node.isDirective] at hd
    · exact hp

theorem childrenFrom_keeps {o : Options} {site : Site} {declare inScript : Bool} {c : Node}
    {cs : List Node} {front : String} {opening : Opening} (hf : Harmless front)
    (child : Keeps (childText o site.first declare inScript c
      (literal o site.first declare c) (literal o site.first false c)
      (innerLiteral o site.first c) (branches o site.rest cs)) Harmless)
    (rest : ∀ opening', Keeps (literals o site.rest declare inScript opening' cs) Harmless) :
    Keeps (childrenFrom o site declare inScript c cs front opening) Harmless := by
  unfold childrenFrom
  refine Preserves.get.bind fun codes _ => child.bind fun t ht => ?_
  refine Preserves.get.bind fun codes' _ => ?_
  dsimp only
  have finish : ∀ t', Harmless t' → ∀ opening', Keeps (do
      let rest ← literals o site.rest declare inScript opening' cs
      Pure.pure (front ++ t ++ t' ++ rest)) Harmless := by
    intro t' ht' opening'
    exact (rest opening').bind fun r hr => .pure (((hf.append ht).append ht').append hr)
  split
  · exact child.bind fun t' ht' => finish t' ht' _
  · exact (Preserves.pure Harmless.empty).bind fun t' ht' => finish t' ht' _

theorem literals_cons_keeps {o : Options} {site : Site} {declare inScript : Bool}
    {opening : Opening} {c : Node} {cs : List Node}
    (child : Keeps (childText o site.first declare inScript c
      (literal o site.first declare c) (literal o site.first false c)
      (innerLiteral o site.first c) (branches o site.rest cs)) Harmless)
    (rest : ∀ opening', Keeps (literals o site.rest declare inScript opening' cs) Harmless) :
    Keeps (literals o site declare inScript opening (c :: cs)) Harmless := by
  rw [literals_cons]
  split
  · exact (madeHead_keeps o).bind fun front hf => childrenFrom_keeps hf child rest
  · exact childrenFrom_keeps .empty child rest

theorem literals_nil_keeps {o : Options} {site : Site} {declare inScript : Bool}
    (opening : Opening) : Keeps (literals o site declare inScript opening []) Harmless := by
  unfold literals
  split
  · exact madeHead_keeps o
  · exact .pure .empty

theorem harmless_joinedCode (c : Node) {body : String} (h : Harmless body) :
    Harmless (joinedCode c body) := by
  cases c with
  | element t _ => exact harmless_branchCode _ h
  | document _ | text _ | comment _ | doctype _ | markup _ => exact .empty

/-- What is undone in the text of a script is escaped. -/
theorem literal_text_keeps (o : Options) (site : Site) (declare : Bool) {c : Node}
    (h : Node.isText c) : Keeps (literal o site declare c) fun s => Harmless (unmark s) := by
  cases c with
  | text s =>
      rw [literal]
      exact .pure (harmless_unmark_escape _)
  | element _ _ | document _ | comment _ | doctype _ | markup _ => cases h

mutual

/-- The literal of a node is harmless. -/
theorem literal_keeps (o : Options) (site : Site) (declare : Bool) : ∀ n,
    Node.allTags isSound n → Node.plainScripts n → Keeps (literal o site declare n) Harmless
  | .element t cs, sound, plain => by
      rw [allTags_element] at sound
      rw [plainScripts_element, ← beq_iff_eq] at plain
      have name := (isSound_iff.mp sound.1).1
      rw [literal]
      refine (insideLiteral_keeps fun site' opening => ?_).bind fun s hs => .pure ?_
      · exact literals_keeps o site' declare (t.name == "script") opening cs sound.2 plain.2 plain.1
      · exact ((harmless_tagLiteral o t).append hs).append (harmless_closingLiteral name)
  | .document cs, sound, plain => by
      rw [literal]
      exact literals_keeps o site declare false .settled cs sound plain fun h => by cases h
  | .text s, _, _ | .doctype s, _, _ | .markup s, _, _ => by
      rw [literal]
      exact .pure (harmless_escape _)
  | .comment _, _, _ => by
      rw [literal]
      exact .pure .empty

/-- The literal of what a node holds is harmless. -/
theorem innerLiteral_keeps (o : Options) (site : Site) : ∀ n,
    Node.allTags isSound n → Node.plainScripts n → Keeps (innerLiteral o site n) Harmless
  | .element t cs, sound, plain => by
      rw [allTags_element] at sound
      rw [plainScripts_element, ← beq_iff_eq] at plain
      rw [innerLiteral]
      refine insideLiteral_keeps fun site' opening => ?_
      exact literals_keeps o site' true (t.name == "script") opening cs sound.2 plain.2 plain.1
  | .document cs, sound, plain => by
      rw [innerLiteral]
      exact literals_keeps o site true false .settled cs sound plain fun h => by cases h
  | .text _, _, _ | .comment _, _, _ | .doctype _, _, _ | .markup _, _, _ => by
      rw [innerLiteral]
      · exact .pure .empty
      all_goals intros; contradiction

theorem literals_keeps (o : Options) (site : Site) (declare inScript : Bool) (opening : Opening) :
    ∀ cs, allTags isSound cs → plainScripts cs → (inScript → cs.all Node.isText) →
      Keeps (literals o site declare inScript opening cs) Harmless
  | [], _, _, _ => literals_nil_keeps opening
  | c :: cs, sound, plain, text => by
      rw [allTags_cons] at sound
      rw [plainScripts_cons] at plain
      rw [List.all_cons, Bool.and_eq_true] at text
      refine literals_cons_keeps (childText_keeps sound.1 (fun hin => ?_) ?_ ?_ ?_ ?_)
        fun opening' => ?_
      · exact literal_text_keeps o site.first declare (text hin).1
      · exact literal_keeps o site.first declare c sound.1 plain.1
      · exact literal_keeps o site.first false c sound.1 plain.1
      · exact innerLiteral_keeps o site.first c sound.1 plain.1
      · exact branches_keeps o site.rest cs sound.2 plain.2
      · exact literals_keeps o site.rest declare inScript opening' cs sound.2 plain.2
          fun hin => (text hin).2

/-- The code of further branches of a choice is harmless. -/
theorem branches_keeps (o : Options) (site : Site) : ∀ cs, allTags isSound cs →
    plainScripts cs → Keeps (branches o site cs) Harmless
  | [], _, _ => by
      rw [branches]
      exact .pure .empty
  | c :: cs, sound, plain => by
      rw [allTags_cons] at sound
      rw [plainScripts_cons] at plain
      rw [branches]
      split
      · refine (literal_keeps o site.first false c sound.1 plain.1).bind fun body hb => ?_
        refine (branches_keeps o site.rest cs sound.2 plain.2).bind fun rest hr => .pure ?_
        exact (harmless_joinedCode c hb).append hr
      · split
        · exact branches_keeps o site.rest cs sound.2 plain.2
        · exact .pure .empty

end

/-- The code of the first of some siblings is harmless. -/
theorem firstCode_keeps (o : Options) (site : Site) (nested declare : Bool) {t : Tag}
    {cs rest : List Node} (sound : allTags isSound (.element t cs :: rest))
    (plain : plainScripts (.element t cs :: rest)) (other : t.name ≠ "script") :
    Keeps (firstCode o site nested declare (.element t cs :: rest))
      fun code? => ∀ code ∈ code?, Harmless code := by
  rw [allTags_cons] at sound
  rw [plainScripts_cons] at plain
  exact elementCode_keeps (allTags_element.mp sound.1).1 other
    (literal_keeps o site.first false _ sound.1 plain.1)
    (innerLiteral_keeps o site.first _ sound.1 plain.1)
    (branches_keeps o site.rest rest sound.2 plain.2)

end PageTemplates.Compile
