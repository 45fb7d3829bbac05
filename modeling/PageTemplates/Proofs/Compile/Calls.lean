import PageTemplates.Proofs.Compile.Grouping
import PageTemplates.Proofs.Compile.Outcome
import PageTemplates.Proofs.Script.Reading

/-!
# The calls that directives become

The calls of a tree are read off the tree itself: one for each element with a
directive that asks for one, below the call of the element around it, and one
for each start tag with a `ystbool` attribute. The main facts:

* `Node.calls`, `siblingCalls`: the calls of a tree and of siblings;
* `literal_yields`: a literal is text of a template with these calls;
* `elementCode_yields`: the code of an element with a directive is its call, in
  either form.
-/

namespace PageTemplates.Compile

open Markup Script

/-! ## Calls of trees -/

/-- The call that a `ystbool` attribute adds to a start tag. -/
def boolCalls (t : Tag) : List Call :=
  match lastBool? t with
  | some v => [.mk "YST.Txt.ystBool" [.text (v.getD "")]]
  | none => []

/-- The auxiliary argument. -/
def auxValue (d : Directive) : Argument :=
  match d.aux with
  | none => .null
  | some s => .text s

/-- One branch of a choice: its test, its auxiliary argument and its body. -/
def branchValues (d : Directive) (body : List Call) : List Argument :=
  [.text d.test, auxValue d, .template body]

/-- The call that a directive asks for: `whole` are the calls in the literal of
its element, and `others` the branches joined to it. -/
def directiveCall? (t : Tag) (d : Directive) (whole : List Call) (others : List Argument) :
    Option Call :=
  match d.kind with
  | .ignore | .declare => none
  | .compapply => some (.mk "YST.Txt.select" (.text d.targetSet :: branchValues d whole ++ others))
  | .inclusion => some (.mk "YST.Txt.include" [auxValue d, .text d.idRef, .text d.params])
  | .live =>
      let function := d.functionName?.toList.map fun name => Call.mk name []
      some (.mk "YST.Txt.value" [auxValue d, .template (boolCalls t ++ function)])
  | .value => some (.mk "YST.Txt.value" [auxValue d, .template whole])
  | .literal => some (.mk "YST.Txt.literal" [auxValue d, .template whole])
  | .conditional => some (.mk "YST.Txt.iff" [auxValue d, .text d.test, .template whole])
  | .apply => some (.mk "YST.Txt.apply" [auxValue d, .text d.targetSet, .template whole])

/-- The call of an element with a directive. -/
def elementCall? (n : Node) (whole : List Call) (others : List Argument) : Option Call :=
  match n with
  | .element t _ => do
      let kind ← DirectiveKind.ofWord? t.directiveWord
      directiveCall? t (t.directiveOf kind) whole others
  | _ => none

/-- The arguments of a branch that is joined to the one before it. -/
def joinedValues (n : Node) (body : List Call) : List Argument :=
  match n with
  | .element t _ => branchValues (t.directiveOf .ignore) body
  | _ => []

mutual

/-- The calls in the literal of a node. Nothing inside a script is looked at. -/
def Node.calls : Node → List Call
  | .element t cs => boolCalls t ++ if t.name == "script" then [] else siblingCalls cs
  | .document cs => siblingCalls cs
  | _ => []

/-- The calls of siblings: of each that has a directive its own call, and of
each other one those in its literal. -/
def siblingCalls : List Node → List Call
  | [] => []
  | c :: cs =>
      (if c.name != "script" && c.isDirective then
        (elementCall? c (Node.calls c) (otherBranches cs)).toList
       else Node.calls c) ++ siblingCalls cs

/-- The arguments for the branches that are joined to the one in front of some
siblings. -/
def otherBranches : List Node → List Argument
  | [] => []
  | c :: cs =>
      if isJoined c then joinedValues c (Node.calls c) ++ otherBranches cs
      else if isGap c then otherBranches cs
      else []

end

/-! ## Conditions on tags -/

/-- A tag that code can be generated for: its name can stand inside a string,
and if it asks for a live function, the function has a proper name. -/
def isNamable (t : Tag) : Bool :=
  isPlainName t.name && (DirectiveKind.ofWord? t.directiveWord != some .live ||
    (t.directiveOf .live).functionName?.all (isIdentifier ·.toList))

/-! ## Code of single directives -/

/-- The functions that directives become calls of. -/
def libraryFunctions : List String :=
  ["YST.Txt.select", "YST.Txt.include", "YST.Txt.value", "YST.Txt.literal", "YST.Txt.iff",
   "YST.Txt.apply"]

theorem isName_of_library : ∀ f ∈ libraryFunctions, IsName f := by
  have all : ∀ f ∈ libraryFunctions, isDottedName f.toList ∧
      f.toList.head?.any isNameStart ∧ (f.toList.all fun c => isNameChar c || c == '.') ∧
      f.toList ≠ ['n', 'u', 'l', 'l'] := by
    decide
  intro f hf
  obtain ⟨h₁, h₂, h₃, h₄⟩ := all f hf
  exact ⟨h₁, h₂, h₃, h₄⟩

theorem isName_ystBool : IsName "YST.Txt.ystBool" :=
  ⟨by decide, by decide, by decide, by decide⟩

/-- A call in one of its two forms. -/
def CodeText (nested declare : Bool) (c : Call) (t : String) : Prop :=
  if nested then NestedText c t else CompleteText declare c t

theorem callCode_text (nested declare : Bool) {f a : String} {as : List Argument} (hf : IsName f)
    (ha : ArgumentsText as a) :
    CodeText nested declare (.mk f as) (callCode nested declare f a) := by
  cases nested with
  | true => exact .mk hf (.inl rfl) ha
  | false => exact .mk hf ha

theorem auxArgument_text (d : Directive) {as : List Argument} {a : String}
    (ha : ArgumentsText as a) : ArgumentsText (auxValue d :: as) (auxArgument d.aux ++ a) := by
  unfold auxArgument auxValue
  cases d.aux with
  | none => exact .null ha
  | some t =>
      have whole := ArgumentsText.comma (.escaped t) ha
      simpa [String.append_assoc] using whole

theorem boolCall_text (v : String) :
    TemplateText [.mk "YST.Txt.ystBool" [.text v]]
      (" ',YST.Txt.ystBool,['" ++ escape v ++ "'],'") := by
  have call : NestedText (.mk "YST.Txt.ystBool" [.text v])
      ("YST.Txt.ystBool" ++ ",[" ++ ("'" ++ escape v ++ "'") ++ "]") :=
    .mk isName_ystBool (.inl rfl) (.escaped v)
  have blank : Inside " ".toList " ".toList := .of_plain rfl
  have pieces : " ',YST.Txt.ystBool,['" ++ escape v ++ "'],'"
      = " " ++ ("'," ++ ("YST.Txt.ystBool" ++ ",[" ++ ("'" ++ escape v ++ "'") ++ "]")
        ++ ",'") := by
    apply String.toList_injective
    simp
  rw [pieces]
  exact (TemplateText.of_nested call).prepend blank

theorem tagLiteral_text (o : Options) (t : Tag) : TemplateText (boolCalls t) (tagLiteral o t) := by
  have ending : Inside ">".toList ">".toList := .of_plain rfl
  unfold tagLiteral boolCalls
  cases lastBool? t with
  | none =>
      dsimp only
      rw [String.append_empty]
      exact (TemplateText.inside (inside_escape _)).append_inside ending
  | some v =>
      exact ((TemplateText.inside (inside_escape _)).append (boolCall_text _)).append_inside ending

theorem branchCode_text (d : Directive) {cs : List Call} {body : String}
    (h : TemplateText cs body) : MoreText (branchValues d cs) (branchCode d body) := by
  have whole := (ArgumentsText.comma (.escaped d.test)
    (auxArgument_text d (.template h))).more
  have pieces : branchCode d body = "," ++ ("'" ++ escape d.test ++ "'" ++ ","
      ++ (auxArgument d.aux ++ ("['" ++ body ++ "']"))) := by
    apply String.toList_injective
    simp [branchCode]
  rw [pieces]
  exact whole

/-- A choice, whose arguments do not begin with the auxiliary one. -/
theorem selectCode_text (nested declare : Bool) (set : String) {as : List Argument} {a : String}
    (h : MoreText as a) : CodeText nested declare (.mk "YST.Txt.select" (.text set :: as))
      ((if nested then "YST.Txt.select, [" ++ ("'" ++ escape set ++ "'")
        else "YST.Txt.select" ++ surroundings declare ++ ("'" ++ escape set ++ "'")) ++ a
        ++ if nested then "]" else ")") := by
  have hf := isName_of_library "YST.Txt.select" (by decide)
  have args : ArgumentsText (.text set :: as) ("'" ++ escape set ++ "'" ++ a) :=
    h _ _ (.escaped set)
  -- the code is put together in other pieces than the grammar has
  cases nested with
  | true =>
      have whole := NestedText.mk hf (.inr rfl) args
      have pieces : "YST.Txt.select, [" ++ ("'" ++ escape set ++ "'") ++ a ++ "]"
          = "YST.Txt.select" ++ ", [" ++ ("'" ++ escape set ++ "'" ++ a) ++ "]" := by
        apply String.toList_injective
        simp
      simp only [CodeText, if_true, pieces]
      exact whole
  | false =>
      have whole : CompleteText declare _ _ := .mk hf args
      have pieces : "YST.Txt.select" ++ surroundings declare ++ ("'" ++ escape set ++ "'") ++ a
          ++ ")" = "YST.Txt.select" ++ leadingText declare ++ ("'" ++ escape set ++ "'" ++ a)
          ++ ")" := by
        apply String.toList_injective
        simp [surroundings, leadingText]
      simp only [CodeText, Bool.false_eq_true, if_false, pieces]
      exact whole

/-- The items that a live element becomes: its start tag, a call of its function
if it has one, and its end tag. -/
theorem liveItems_text (o : Options) {t : Tag} (name : isPlainName t.name)
    {function? : Option String} {reference : String}
    (h : function? = none ∧ reference = "''" ∨
      ∃ f, function? = some f ∧ IsName f ∧ reference = f ++ ",[]") :
    ArgumentsText [.template (boolCalls t ++ function?.toList.map fun f => Call.mk f [])]
      ("['" ++ tagLiteral o t ++ "'," ++ reference ++ ",'</" ++ t.name ++ ">']") := by
  have ending := inside_endTag name
  rcases h with ⟨rfl, rfl⟩ | ⟨f, rfl, hf, rfl⟩
  · have whole := ArgumentsText.template (((tagLiteral_text o t).append
      (TemplateText.separator.append .separator)).append_inside ending)
    have pieces : "['" ++ tagLiteral o t ++ "'," ++ "''" ++ ",'</" ++ t.name ++ ">']"
        = "['" ++ (tagLiteral o t ++ ("','" ++ "','") ++ ("</" ++ t.name ++ ">")) ++ "']" := by
      apply String.toList_injective
      simp
    rw [pieces]
    exact whole
  · have whole := ArgumentsText.template (((tagLiteral_text o t).append
      (.of_nested (.bare hf))).append_inside ending)
    have pieces : "['" ++ tagLiteral o t ++ "'," ++ (f ++ ",[]") ++ ",'</" ++ t.name ++ ">']"
        = "['" ++ (tagLiteral o t ++ ("'," ++ (f ++ ",[]") ++ ",'") ++ ("</" ++ t.name ++ ">"))
          ++ "']" := by
      apply String.toList_injective
      simp
    rw [pieces]
    exact whole

/-- Defining a function gives back the name of the function. -/
theorem hoist_yields (d : Directive) (inner : Gen String) :
    Yields (hoist d inner) fun name? => name? = d.functionName? := by
  unfold hoist
  cases d.functionName? with
  | none => exact .pure rfl
  | some name =>
      exact (Yields.any _).bind fun body _ => (Yields.any _).bind fun _ _ => .pure rfl

/-- What generating the code of a directive may give: no code if the directive
is `silent`, and else a call of a library function that was `asked` for. -/
inductive CodeOutcome (nested declare : Bool) (silent : Prop) (asked : Call → Prop) :
    Option String → Prop where
  | none (h : silent) : CodeOutcome nested declare silent asked none
  | call {f code : String} {as : List Argument} (hf : f ∈ libraryFunctions)
      (h : CodeText nested declare (.mk f as) code) (ha : asked (.mk f as)) :
      CodeOutcome nested declare silent asked (some code)

/-- The code of a directive is its call. When the literals it is made of have
the calls `calls` and the branches `others`, it is the call that the directive
asks for. -/
theorem directiveCode_yields {o : Options} {nested declare : Bool} {t : Tag} {d : Directive}
    {whole inner branches : Gen String} {calls : List Call} {others : List Argument}
    {known : Prop} (name : isPlainName t.name)
    (live : d.kind = .live → d.functionName?.all (isIdentifier ·.toList))
    (hw : Yields whole fun s => ∃ cs, TemplateText cs s ∧ (known → cs = calls))
    (hb : Yields branches fun s => ∃ as, MoreText as s ∧ (known → as = others)) :
    Yields (directiveCode o nested declare t d whole inner branches)
      (CodeOutcome nested declare (d.kind = .ignore ∨ d.kind = .declare)
        fun c => known → directiveCall? t d calls others = some c) := by
  -- a call whose arguments are the auxiliary one and further ones
  have call : ∀ {f a : String} {as : List Argument}, f ∈ libraryFunctions → ArgumentsText as a →
      (known → directiveCall? t d calls others = some (.mk f (auxValue d :: as))) →
      CodeOutcome nested declare (d.kind = .ignore ∨ d.kind = .declare)
        (fun c => known → directiveCall? t d calls others = some c)
        (some (callCode nested declare f (auxArgument d.aux ++ a))) := by
    intro f a as hf ha hd
    exact .call hf
      (callCode_text nested declare (isName_of_library f hf) (auxArgument_text d ha)) hd
  unfold directiveCode
  dsimp only
  split <;> rename_i kind
  · exact .pure (.none (.inl kind))
  · split
    · exact .pure (.none (.inr kind))
    · exact (Yields.any _).bind fun _ _ => .pure (.none (.inr kind))
  · refine hw.bind fun s hs => hb.bind fun u hu => .pure ?_
    obtain ⟨cs, hcs, hc⟩ := hs
    obtain ⟨as, has, ha⟩ := hu
    have args := (branchCode_text d hcs).append has
    have code := selectCode_text nested declare d.targetSet args
    simp only [← String.append_assoc] at code ⊢
    refine .call (by decide) code fun h => ?_
    rw [directiveCall?, kind, hc h, ha h]
    rfl
  · refine .pure (call (by decide) (.two _ _) fun _ => ?_)
    rw [directiveCall?, kind]
  · -- whether the function is defined here or elsewhere, it is called by its name
    have finish : ∀ name? reference, name? = d.functionName? →
        (name? = none ∧ reference = "''" ∨ ∃ f, name? = some f ∧ reference = f ++ ",[]") →
        CodeOutcome nested declare (d.kind = .ignore ∨ d.kind = .declare)
          (fun c => known → directiveCall? t d calls others = some c)
          (some (callCode nested declare "YST.Txt.value" (auxArgument d.aux ++ ("['"
            ++ tagLiteral o t ++ "'," ++ reference ++ ",'</" ++ t.name ++ ">']")))) := by
      rintro name? reference hname href
      have named := live kind
      rw [← hname] at named
      refine call (by decide) (liveItems_text o name (href.imp_right ?_)) fun _ => ?_
      · rintro ⟨f, rfl, rfl⟩
        exact ⟨f, rfl, .of_isIdentifier named, rfl⟩
      · rw [directiveCall?, kind, hname]
    split
    · exact (Yields.pure (Q := (· = d.functionName?)) rfl).bind fun name? h =>
        .pure (finish name? _ h (by cases name? <;> simp))
    · exact (hoist_yields d inner).bind fun name? h =>
        .pure (finish name? _ h (by cases name? <;> simp))
  · refine hw.bind fun s hs => .pure ?_
    obtain ⟨cs, hcs, hc⟩ := hs
    refine call (by decide) (.template hcs) fun h => ?_
    rw [directiveCall?, kind, hc h]
  · refine hw.bind fun s hs => .pure ?_
    obtain ⟨cs, hcs, hc⟩ := hs
    refine call (by decide) (.template hcs) fun h => ?_
    rw [directiveCall?, kind, hc h]
  · refine hw.bind fun s hs => .pure ?_
    obtain ⟨cs, hcs, hc⟩ := hs
    refine call (by decide) (.text_template _ hcs) fun h => ?_
    rw [directiveCall?, kind, hc h]
  · refine hw.bind fun s hs => .pure ?_
    obtain ⟨cs, hcs, hc⟩ := hs
    refine call (by decide) (.text_template _ hcs) fun h => ?_
    rw [directiveCall?, kind, hc h]

theorem isPlainName_of_isNamable {t : Tag} (h : isNamable t) : isPlainName t.name := by
  rw [isNamable, Bool.and_eq_true] at h
  exact h.1

theorem isNamable_live {t : Tag} {kind : DirectiveKind} (h : isNamable t)
    (hk : DirectiveKind.ofWord? t.directiveWord = some kind)
    (live : (t.directiveOf kind).kind = .live) :
    (t.directiveOf kind).functionName?.all (isIdentifier ·.toList) := by
  obtain rfl : kind = .live := live
  rw [isNamable, Bool.and_eq_true, hk] at h
  simpa using h.2

/-- The code of an element is its call, if its directive asks for one. -/
theorem elementCode_yields {o : Options} {site : Site} {nested declare : Bool} {t : Tag}
    {cs : List Node} {whole inner branches : Gen String} {calls : List Call}
    {others : List Argument} {known : Prop} (namable : isNamable t)
    (hw : Yields whole fun s => ∃ cs, TemplateText cs s ∧ (known → cs = calls))
    (hb : Yields branches fun s => ∃ as, MoreText as s ∧ (known → as = others)) :
    Yields (elementCode o site nested declare (.element t cs) whole inner branches) fun code? =>
      ∃ kind, DirectiveKind.ofWord? t.directiveWord = some kind ∧
        CodeOutcome nested declare (kind = .ignore ∨ kind = .declare)
          (fun c => known → elementCall? (.element t cs) calls others = some c) code? := by
  unfold elementCode
  refine (Yields.any _).bind fun codes _ => ?_
  dsimp only
  -- an unknown word ends the computation, so the directive is of a known kind
  refine (Yields.lift (Q := fun d => ∃ kind, DirectiveKind.ofWord? t.directiveWord = some kind ∧
    d = t.directiveOf kind) ?_).bind ?_
  · intro d hd
    unfold Tag.directive at hd
    split at hd
    · rename_i kind hk
      cases hd
      exact ⟨kind, hk, rfl⟩
    · cases hd
  · rintro d ⟨kind, hk, rfl⟩
    have name := isPlainName_of_isNamable namable
    refine (directiveCode_yields name (isNamable_live namable hk) hw hb).mono ?_
    intro code? hcode
    refine ⟨kind, hk, ?_⟩
    cases hcode with
    | none silent => exact .none silent
    | call hf code hcall =>
        refine .call hf code fun h => ?_
        simp only [elementCall?, hk, Option.bind_eq_bind, Option.bind_some]
        exact hcall h

/-- The calls of a child among its siblings. -/
def childCalls (c : Node) (cs : List Node) : List Call :=
  if c.name != "script" && c.isDirective then
    (elementCall? c (Node.calls c) (otherBranches cs)).toList
  else Node.calls c

theorem siblingCalls_cons (c : Node) (cs : List Node) :
    siblingCalls (c :: cs) = childCalls c cs ++ siblingCalls cs := by
  rw [siblingCalls, childCalls]

theorem elementCall?_of_silent {t : Tag} {cs : List Node} {kind : DirectiveKind}
    (hk : DirectiveKind.ofWord? t.directiveWord = some kind)
    (silent : kind = .ignore ∨ kind = .declare)
    (calls : List Call) (others : List Argument) :
    elementCall? (.element t cs) calls others = none := by
  rcases silent with rfl | rfl <;>
    simp only [elementCall?, hk, Option.bind_eq_bind, Option.bind_some] <;> rfl

/-- The text of a child in a template. -/
theorem childText_yields {o : Options} {site : Site} {inScript : Bool} {c : Node}
    {cs : List Node} {plain inner branches : Gen String} {known : Prop}
    (namable : Node.allTags isNamable c)
    (hp : Yields plain fun s => ∃ cs, TemplateText cs s ∧ (known → cs = Node.calls c))
    (ht : Node.isText c → Yields plain IsInside)
    (hb : Yields branches fun s => ∃ as, MoreText as s ∧ (known → as = otherBranches cs)) :
    Yields (childText o site false inScript c plain plain inner branches) fun s =>
      ∃ calls, TemplateText calls s ∧ (known → (inScript → Node.isText c) →
        calls = if inScript then [] else childCalls c cs) := by
  unfold childText
  split
  · -- text in a script has no calls; of other nodes only the form is known
    rename_i hin
    by_cases text : Node.isText c
    · refine (ht text).bind fun s hs => .pure ?_
      obtain ⟨vs, hv⟩ := Inside.unmark hs
      exact ⟨[], .inside hv, fun _ _ => rfl⟩
    · refine hp.bind fun s hs => .pure ?_
      obtain ⟨calls, hc, -⟩ := hs
      obtain ⟨calls', hc'⟩ := hc.unmark
      exact ⟨calls', hc', fun _ h => absurd (h hin) text⟩
  · rename_i hin
    split
    · rename_i hd
      cases c with
      | element t cs' =>
          have tag := (allTags_element.mp namable).1
          refine (elementCode_yields tag hp hb).bind fun code? hcode => .pure ?_
          obtain ⟨kind, hk, hcode⟩ := hcode
          -- an element that is passed over has no text and no call
          cases hcode with
          | none silent =>
              refine ⟨[], .inside (t := "") .nil, fun _ _ => ?_⟩
              rw [childCalls, if_pos hd, elementCall?_of_silent hk silent]
              rfl
          | call _ code hcall =>
              refine ⟨_, .of_nested code, fun h _ => ?_⟩
              rw [childCalls, if_pos hd, hcall h]
              rfl
      | document _ | text _ | comment _ | doctype _ | markup _ => simp [Node.isDirective] at hd
    · rename_i hd
      refine hp.mono fun s hs => ?_
      obtain ⟨calls, hc, hk⟩ := hs
      refine ⟨calls, hc, fun h _ => ?_⟩
      rw [childCalls, if_neg hd, hk h]

theorem joinedCode_text {c : Node} (joined : isJoined c) {cs : List Call} {body : String}
    (h : TemplateText cs body) : MoreText (joinedValues c cs) (joinedCode c body) := by
  cases c with
  | element t _ => exact branchCode_text _ h
  | document _ | text _ | comment _ | doctype _ | markup _ => cases joined

/-- Nodes without children. -/
theorem literal_text_yields (o : Options) (site : Site) (declare : Bool) {c : Node}
    (h : Node.isText c) : Yields (literal o site declare c) IsInside := by
  cases c with
  | text s =>
      rw [literal]
      exact .pure (isInside_escape _)
  | element _ _ | document _ | comment _ | doctype _ | markup _ => cases h

mutual

/-- The literal of a node is text of a template. Where no head has to be made
and scripts hold only text, it has the calls of the node. -/
theorem literal_yields (o : Options) (site : Site) : ∀ n, Node.allTags isNamable n →
    Yields (literal o site false n) fun s => ∃ calls, TemplateText calls s ∧
      (site.isSettled ∧ Node.plainScripts n → calls = Node.calls n)
  | .element t cs, h => by
      -- the calls are those of the start tag and then those of what stands inside
      rw [allTags_element] at h
      have name := isPlainName_of_isNamable h.1
      rw [literal]
      refine (insideLiteral_yields (Q := fun s => ∃ calls, TemplateText calls s ∧
        (site.isSettled ∧ Node.plainScripts (.element t cs) →
          calls = if t.name == "script" then [] else siblingCalls cs)) ?_ ?_).bind ?_
      · rintro s u ⟨calls, hc, hk⟩ ⟨vs, hu⟩
        exact ⟨calls, hc.append_inside hu, hk⟩
      · intro site' opening settled
        refine (literals_yields o site' (t.name == "script") opening cs h.2).mono ?_
        rintro s ⟨calls, hc, hk⟩
        refine ⟨calls, hc, fun ⟨hsite, hscripts⟩ => hk ?_⟩
        rw [Node.plainScripts, Bool.and_eq_true, Bool.or_eq_true] at hscripts
        refine ⟨(settled hsite).1, (settled hsite).2, hscripts.2, fun hscript => ?_⟩
        exact hscripts.1.resolve_left (by simpa using hscript)
      · rintro s ⟨calls, hc, hk⟩
        obtain ⟨vs, ending⟩ := isInside_closingLiteral name
        refine .pure ⟨boolCalls t ++ calls, ?_, fun hknown => ?_⟩
        · exact ((tagLiteral_text o t).append hc).append_inside ending
        · rw [Node.calls, hk hknown]
  | .document cs, h => by
      rw [literal]
      refine (literals_yields o site false .settled cs h).mono ?_
      rintro s ⟨calls, hc, hk⟩
      exact ⟨calls, hc, fun hknown => hk ⟨hknown.1, rfl, hknown.2, fun h => by cases h⟩⟩
  | .text s, _ => by
      rw [literal]
      exact .pure ⟨[], .inside (inside_escape _), fun _ => rfl⟩
  | .comment _, _ => by
      rw [literal]
      exact .pure ⟨[], .inside (t := "") .nil, fun _ => rfl⟩
  | .doctype s, _ => by
      rw [literal]
      exact .pure ⟨[], .inside (inside_escape _), fun _ => rfl⟩
  | .markup s, _ => by
      rw [literal]
      exact .pure ⟨[], .inside (inside_escape _), fun _ => rfl⟩

theorem literals_yields (o : Options) (site : Site) (inScript : Bool) (opening : Opening) :
    ∀ cs, allTags isNamable cs →
      Yields (literals o site false inScript opening cs) fun s => ∃ calls, TemplateText calls s ∧
        (site.isSettled ∧ opening = .settled ∧ plainScripts cs ∧
            (inScript → cs.all Node.isText) →
          calls = if inScript then [] else siblingCalls cs)
  | [], _ => by
      refine (literals_nil_yields opening).mono ?_
      rintro s ⟨⟨vs, hv⟩, -⟩
      refine ⟨[], .inside hv, fun _ => ?_⟩
      cases inScript <;> rfl
  | c :: cs, h => by
      rw [allTags_cons] at h
      -- what has to be known about the child and about the siblings behind it
      have first : site.isSettled ∧ plainScripts (c :: cs) →
          site.first.isSettled ∧ Node.plainScripts c := by
        rintro ⟨hs, hp⟩
        rw [plainScripts_cons] at hp
        exact ⟨Site.isSettled_first hs, hp.1⟩
      have behind : site.isSettled ∧ plainScripts (c :: cs) →
          site.rest.isSettled ∧ plainScripts cs := by
        rintro ⟨hs, hp⟩
        rw [plainScripts_cons] at hp
        exact ⟨Site.isSettled_rest hs, hp.2⟩
      have plain : Yields (literal o site.first false c) fun s => ∃ calls, TemplateText calls s ∧
          (site.isSettled ∧ plainScripts (c :: cs) → calls = Node.calls c) :=
        (literal_yields o site.first c h.1).mono
          fun s h => h.imp fun calls hc => ⟨hc.1, fun known => hc.2 (first known)⟩
      have others : Yields (branches o site.rest cs) fun s => ∃ as, MoreText as s ∧
          (site.isSettled ∧ plainScripts (c :: cs) → as = otherBranches cs) :=
        (branches_yields o site.rest cs h.2).mono
          fun s h => h.imp fun as ha => ⟨ha.1, fun known => ha.2 (behind known)⟩
      have rest : ∀ opening', (opening = .settled → opening' = .settled) →
          Yields (literals o site.rest false inScript opening' cs) fun s => ∃ calls,
            TemplateText calls s ∧ (site.isSettled ∧ opening = .settled ∧
              plainScripts (c :: cs) ∧ (inScript → (c :: cs).all Node.isText) →
              calls = if inScript then [] else siblingCalls cs) := by
        intro opening' settled
        refine (literals_yields o site.rest inScript opening' cs h.2).mono ?_
        rintro s ⟨calls, hc, hk⟩
        refine ⟨calls, hc, fun ⟨hsite, hopening, hscripts, htext⟩ => hk ?_⟩
        refine ⟨(behind ⟨hsite, hscripts⟩).1, settled hopening, (behind ⟨hsite, hscripts⟩).2, ?_⟩
        intro hin
        have := htext hin
        rw [List.all_cons, Bool.and_eq_true] at this
        exact this.2
      refine literals_cons_yields
        (childText_yields h.1 plain (literal_text_yields o site.first false) others) rest ?_
      rintro front t t' r ⟨vs, hf⟩ noFront ⟨calls, hc, hk⟩ again ⟨calls', hc', hk'⟩
      -- a child is met twice only where a head is made in front of it
      obtain ⟨twice, htwice, once⟩ : ∃ twice, TemplateText twice t' ∧
          (opening = .settled → twice = []) := by
        rcases again with rfl | ⟨hne, twice, ht, -⟩
        · exact ⟨[], .inside (t := "") .nil, fun _ => rfl⟩
        · exact ⟨twice, ht, fun hs => absurd hs hne⟩
      refine ⟨calls ++ twice ++ calls', ((hc.prepend hf).append htwice).append hc', ?_⟩
      rintro ⟨hsite, hopening, hscripts, htext⟩
      have text : inScript → Node.isText c := by
        intro hin
        have := htext hin
        rw [List.all_cons, Bool.and_eq_true] at this
        exact this.1
      rw [hk ⟨hsite, hscripts⟩ text, once hopening,
        hk' ⟨hsite, hopening, hscripts, htext⟩, siblingCalls_cons, List.append_nil]
      cases inScript <;> rfl

theorem branches_yields (o : Options) (site : Site) : ∀ cs, allTags isNamable cs →
    Yields (branches o site cs) fun s => ∃ as, MoreText as s ∧
      (site.isSettled ∧ plainScripts cs → as = otherBranches cs)
  | [], _ => by
      rw [branches]
      exact .pure ⟨[], .nil, fun _ => rfl⟩
  | c :: cs, h => by
      rw [allTags_cons] at h
      rw [branches]
      split
      · rename_i joined
        refine (literal_yields o site.first c h.1).bind ?_
        rintro body ⟨calls, hc, hk⟩
        refine (branches_yields o site.rest cs h.2).bind ?_
        rintro rest ⟨as, ha, hk'⟩
        -- the branch adds its values in front of those of the branches behind it
        refine .pure ⟨joinedValues c calls ++ as, (joinedCode_text joined hc).append ha, ?_⟩
        rintro ⟨hsite, hscripts⟩
        rw [plainScripts_cons] at hscripts
        rw [otherBranches, if_pos joined, hk ⟨Site.isSettled_first hsite, hscripts.1⟩,
          hk' ⟨Site.isSettled_rest hsite, hscripts.2⟩]
      · rename_i joined
        split
        · rename_i gap
          refine (branches_yields o site.rest cs h.2).mono ?_
          rintro rest ⟨as, ha, hk⟩
          refine ⟨as, ha, ?_⟩
          rintro ⟨hsite, hscripts⟩
          rw [plainScripts_cons] at hscripts
          rw [otherBranches, if_neg joined, if_pos gap,
            hk ⟨Site.isSettled_rest hsite, hscripts.2⟩]
        · rename_i gap
          refine .pure ⟨[], .nil, fun _ => ?_⟩
          rw [otherBranches, if_neg joined, if_neg gap]

end

end PageTemplates.Compile
