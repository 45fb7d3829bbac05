import PageTemplates.Proofs.Compile.Gathered
import PageTemplates.Proofs.Compile.Hoisting
import PageTemplates.Proofs.Text.Occurrence

/-!
# Functions that both compiled pages define

A page that keeps its body gets the functions of its elements wherever they stand.
A page whose body is split off gets the function of the body and those of the
elements in it. So none is lost if every element that asks for a function stands in
the body, or shares its name with one that does. The main facts:

* `bodyNames doc`: the names of the functions of the body and of the elements in it;
* `inline_gathers`: the functions that a page gets which keeps its body;
* `split_gathers`: a page whose body is split off gets a function of each of the
  names of the body;
* `defines_takeFunctions`: what is moved to the script of the body is defined there;
* `split_loses_none`: the functions of the first page are defined by the second
  one, if all of them have names of the body.
-/

namespace PageTemplates.Compile

open Markup

variable {o : Options} {names : List String} {doc : Document}

/-! ## Compiling in place -/

/-- Compiling elements adds their functions to the page, and takes none away. -/
theorem compileTargets_gathers (bodies : Bool) (names : List String) {n : Nat} {p p' : Progress}
    (ready : everywhere (isReady isAnything) p.doc) (h : compileTargets o n p = .ok p') :
    ∃ hoisted, (functionTexts (isHidden bodies) p'.doc).Perm
        (functionTexts (isHidden bodies) p.doc ++ hoisted) ∧
      (allTags (isAmong names) p.doc → ∀ c ∈ hoisted, IsFunctionOf names c) := by
  replace h := targetRun_of_ok h
  induction h with
  | stop p => exact ⟨[], by rw [List.append_nil], fun _ c hc => by cases hc⟩
  | @step p p₁ _ path code? found coded _ ih =>
      obtain ⟨codes, placed, own⟩ := codeAt_addsFrom names found coded
      -- the functions of the element come first, then it gives way to its code
      have ready₁ : everywhere (isReady isAnything) p₁.doc := by
        rw [placed]
        exact ready_place codes ready
      have added : (functionTexts (isHidden bodies) p₁.doc).Perm
          (functionTexts (isHidden bodies) p.doc ++ codes) := by
        rw [placed]
        exact functionTexts_place codes ready
      obtain ⟨hoisted, rest, others⟩ := ih (ready_replaceFirst code? ready₁)
      refine ⟨codes ++ hoisted, ?_, fun among => List.forall_mem_append.mpr ⟨own among, ?_⟩⟩
      · rw [← List.append_assoc]
        have replaced : functionTexts (isHidden bodies) (replaceFirst code? p₁).doc
            = functionTexts (isHidden bodies) p₁.doc :=
          functionTexts_replaceFirst (fun t target => by simp [isHidden, target])
            (fun t => isHidden_script) code? p₁
        rw [replaced] at rest
        exact rest.trans (added.append_right _)
      · refine others (among_replaceFirst code? ?_)
        rw [placed]
        exact among_place codes among

theorem isHidden_false : isHidden false = isTarget := by
  funext t
  simp [isHidden]

theorem functionTexts_markBody {hidden : Tag → Bool}
    (shown : ∀ t : Tag, t.name = "script" → hidden t = false) (doc : Document) :
    functionTexts hidden (markBody doc) = functionTexts hidden doc := by
  unfold markBody appendToBody
  split
  · rename_i path found
    exact functionTexts_behind found rfl ((functionTexts_shown (shown _ rfl) _).trans rfl)
  · rfl

/-- A page that keeps its body has the functions of its template outside of
directives, and those of its elements. -/
theorem inline_gathers {r : Progress} (ready : everywhere (isReady isAnything) doc)
    (among : allTags (isAmong names) doc) (h : inline o doc = .ok r) :
    ∃ hoisted, (functionTexts (fun _ => false) r.doc).Perm (functionTexts isTarget doc ++ hoisted) ∧
      ∀ c ∈ hoisted, IsFunctionOf names c := by
  obtain ⟨p, run, rfl⟩ := inline_eq_ok h
  have stays : IsGroupable isAnything := ⟨fun _ _ _ => rfl, fun _ _ _ => rfl⟩
  obtain ⟨hoisted, gathered, own⟩ :=
    compileTargets_gathers false names (ready_prepare stays ready) run
  have shown := functionTexts_of_none p.doc (compileAll_done run)
  rw [isHidden_false, shown, ← isHidden_false] at gathered
  have compiled : (functionTexts (fun _ => false) p.doc).Perm
      (functionTexts isTarget doc ++ hoisted) := by
    rw [← isHidden_false]
    exact gathered.trans ((functionTexts_prepare ready).append_right _)
  refine ⟨hoisted, ?_, own (allTags_prepare (fun _ => isAmong_join) among)⟩
  split
  · exact compiled
  · rwa [functionTexts_markBody fun _ _ => rfl]

/-! ## The names of the body -/

/-- The names of the functions that the first body of a document and the elements
in it are compiled to, as far as they have ids. -/
def bodyNames (doc : Document) : List String :=
  match (findPath? (Tag.isNamed "body") doc).map (siblingsAt · doc) with
  | some (.element t cs :: _) => (functionName? t :: functionIds cs).filterMap id
  | _ => []

/-- An element has the id of a body, and the functions in it the same names. -/
def isLikeBody (t : Tag) (cs : List Node) (u : Tag) (ds : List Node) : Bool :=
  functionName? u == functionName? t && functionIds ds == functionIds cs

/-- An element has the id of a body. -/
def isNamedAs (t u : Tag) (_ : List Node) : Bool := functionName? u == functionName? t

theorem functionName?_join (t : Tag) : functionName? (join t) = functionName? t :=
  functionName?_congr (value_set_of_ne (by decide) t (some "ignore"))

theorem isGroupable_isLikeBody (t : Tag) (cs : List Node) : IsGroupable (isLikeBody t cs) := by
  constructor
  · intro u ds like
    rwa [isLikeBody, functionIds_group]
  · intro u ds like
    rwa [isLikeBody, functionName?_join]

/-- A body with an id keeps it when it is declared to be a function. -/
theorem functionName?_declareBody {t : Tag} {name : String} (h : functionName? t = some name) :
    functionName? (declareBody t) = some name := by
  have filled : Text.allBlank (t.value "id") = false := by
    refine Bool.eq_false_iff.mpr fun blank => ?_
    have empty : (t.directiveOf .declare).elementId.isEmpty := Text.isEmpty_strip_iff.mpr blank
    rw [functionName?, Directive.functionName?, if_pos empty] at h
    cases h
  rw [← h]
  apply functionName?_congr
  unfold declareBody
  dsimp only
  rw [value_set_of_ne (by decide), filled, if_neg Bool.false_ne_true,
    value_set_of_ne (by decide)]

theorem mem_namesFrom {name : String} {ids : List (Option String)} (h : some name ∈ ids) (k : Nat) :
    name ∈ namesFrom k ids := by
  induction ids generalizing k with
  | nil => cases h
  | cons id ids ih =>
      cases id with
      | none =>
          have later : some name ∈ ids := by simpa using h
          exact List.mem_cons_of_mem _ (ih later _)
      | some other =>
          rcases List.mem_cons.mp h with same | later
          · rw [Option.some.inj same]
            exact List.mem_cons_self
          · exact List.mem_cons_of_mem _ (ih later _)

/-- The function of each of some elements is among their functions. -/
theorem mem_functions {ns : List Node} {codes : List String} {name : String}
    (run : ns.mapM (functionOf o) = .ok codes) (h : some name ∈ ns.map Node.functionName?) :
    ∃ body, functionCode name body ∈ codes := by
  induction ns generalizing codes with
  | nil => cases h
  | cons n ns ih =>
      rw [List.mapM_cons] at run
      obtain ⟨code, first, run⟩ := bind_eq_ok run
      obtain ⟨codes', others, run⟩ := bind_eq_ok run
      cases run
      rw [List.map_cons, List.mem_cons] at h
      rcases h with own | later
      · obtain ⟨body, -, made⟩ := bind_eq_ok first
        rw [← own] at made
        cases made
        exact ⟨body, List.mem_cons_self⟩
      · obtain ⟨body, mem⟩ := ih others later
        exact ⟨body, List.mem_cons_of_mem _ mem⟩

/-! ## Splitting the body off -/

theorem functionTexts_appendToHtml (attributes : List Attribute) (url : String) (doc : Document) :
    functionTexts (fun _ => false) (appendToHtml (stubBody attributes url) doc)
      = functionTexts (fun _ => false) doc := by
  have none : functionTexts (fun _ => false) [stubBody attributes url] = [] := by
    rw [stubBody, functionTexts_other rfl (by simp)]
    rfl
  unfold appendToHtml
  split
  · rename_i path found
    exact functionTexts_behind found rfl none
  · rw [functionTexts_append, none, List.append_nil]

theorem isFrameless_set_id {t : Tag} {v : Option String} (h : isFrameless t) :
    isFrameless (t.set "id" v) := by
  rw [isFrameless_iff] at h ⊢
  rwa [isFrameTag, name_set, page_set]

/-- Extracting the functions of the body adds one for each of their names. -/
theorem extractBody_gathers {t : Tag} {cs : List Node} {path : Path} {p p' : Progress}
    (ready : everywhere (isReady (isLikeBody t cs)) p.doc) (found : pageBody? p.doc = some path)
    (h : extractBody { o with split := true } path p = .ok p') :
    everywhere (isReady (isNamedAs t)) p'.doc ∧ ∀ name, some name ∈ functionIds cs →
      ∃ body, functionCode name body ∈ functionTexts (isHidden true) p'.doc := by
  obtain ⟨u, ds, rest, here, body, like, frameless⟩ := ready_page ready found
  rw [isLikeBody, Bool.and_eq_true, beq_iff_eq, beq_iff_eq] at like
  obtain ⟨noHead, noHtml⟩ := body_outside body frameless
  obtain ⟨codes, functions, placed⟩ := extractBody_eq_ok here noHead noHtml h
  have named : everywhere (isReady (isNamedAs t)) p.doc :=
    ready_mono (fun v es like => ((Bool.and_eq_true _ _).mp like).1) ready
  have ids : everywhere (isReady (isNamedAs t))
      (modifyAt (fun _ => .element u (withIds 0 ds).1) path p.doc) :=
    ready_mapPage named found fun _ _ _ _ _ => ⟨u, _, rfl, body, beq_iff_eq.mpr like.1,
      allTags_withIds (q := isFrameless) (fun _ _ _ => isFrameless_set_id) 0 ds frameless⟩
  rw [placed]
  refine ⟨ready_place codes ids, fun name mem => ?_⟩
  have given : some name ∈ functionIds (withIds 0 ds).1 := by
    rw [functionIds_withIds, List.mem_map]
    exact ⟨name, mem_namesFrom (by rwa [like.2]) 0, rfl⟩
  obtain ⟨text, made⟩ := mem_functions functions given
  exact ⟨text, (functionTexts_place codes ids).mem_iff.mpr (List.mem_append_right _ made)⟩

namespace SplitSteps

variable {url : String} {r : SplitPage}

/-- The body is declared: functions outside of it stay, and its own is added if it
has an id. -/
theorem declares (steps : SplitSteps o url doc r) {t : Tag}
    (ready : everywhere (isReady (isNamedAs t)) steps.extracted.doc) :
    everywhere (isReady isAnything) (declarePage steps.declared steps.extracted.doc) ∧
      (functionTexts (isHidden true) (declarePage steps.declared steps.extracted.doc)).Perm
        (functionTexts (isHidden true) steps.extracted.doc) ∧
      ∀ name, functionName? t = some name → ∃ body, steps.codes = [functionCode name body] := by
  refine ⟨?_, ?_, fun name named => ?_⟩
  · exact ready_mapPage (ready_mono (fun _ _ _ => rfl) ready) steps.declared_eq
      fun u ds body _ below => ⟨_, ds, rfl, (name_declareBody u).trans body, rfl, below⟩
  · exact functionTexts_mapPage ready steps.declared_eq
      fun u ds => ⟨_, ds, rfl, (name_declareBody u).trans⟩
  · obtain ⟨u, ds, rest, here, -, same, -⟩ := ready_page ready steps.declared_eq
    obtain ⟨v, es, rest', -, here', behind, -⟩ := replaced_found
      (f := fun n => [n.mapTag declareBody]) steps.extracted.doc steps.declared steps.declared_eq
    obtain ⟨⟨rfl, -⟩, -⟩ : (u = v ∧ ds = es) ∧ rest = rest' := by simpa using here.symm.trans here'
    -- the element at the place of the body is the one that was declared
    have tag : steps.tag = declareBody u := by
      have whole := (List.cons.inj (steps.body_eq.symm.trans behind)).1
      rw [Node.mapTag, Node.element.injEq] at whole
      exact whole.1
    have own : functionName? steps.tag = some name := by
      rw [tag]
      exact functionName?_declareBody ((beq_iff_eq.mp same).trans named)
    obtain ⟨body, -, -, codes⟩ := hoist_adds rfl own steps.codes_eq
    exact ⟨body, codes⟩

/-- Functions outside of the body and of directives stay until the page is
finished. -/
theorem keeps (steps : SplitSteps o url doc r) {code : String}
    (ready : everywhere (isReady isAnything) (declarePage steps.declared steps.extracted.doc))
    (mem : code ∈ functionTexts (isHidden true) (declarePage steps.declared steps.extracted.doc)
      ++ steps.codes) :
    code ∈ functionTexts (fun _ => false) (markBody (appendToHtml
      (stubBody (stubAttributes { o with split := true } steps.tag) url) steps.compiled.doc)) := by
  have placed := (functionTexts_place steps.codes ready).mem_iff.mpr mem
  obtain ⟨hoisted, compiled, -⟩ := compileTargets_gathers true []
    (ready_place steps.codes ready) steps.compiled_eq
  have left := mem_functionTexts _ (compiled.mem_iff.mpr (List.mem_append_left hoisted placed))
  rwa [functionTexts_markBody fun _ _ => rfl, functionTexts_appendToHtml]

end SplitSteps

/-- The page whose body is split off has a function for each of the names of the
body before its functions are moved out. -/
theorem split_gathers {url : String} {r : SplitPage} (arranged : everywhere isArranged doc)
    (unmarked : findPath? (·.page) doc = none) (h : split o url doc = .ok r) :
    ∃ page, (r.page.doc, r.bodyScript) = takeFunctions r.bodyFunction page ∧
      ∀ name ∈ bodyNames doc, ∃ body,
        functionCode name body ∈ functionTexts (fun _ => false) page := by
  obtain ⟨steps⟩ := split_steps h
  refine ⟨_, by rw [steps.function_eq]; exact steps.page_eq, fun name mem => ?_⟩
  obtain ⟨t, cs, rest, -, here, -⟩ := replaced_found (f := fun _ => []) doc steps.path steps.path_eq
  have same : functionName? { t with page := true } = functionName? t := functionName?_congr rfl
  have marked : everywhere (isReady (isLikeBody t cs)) (markPage steps.path doc) :=
    ready_markPage arranged unmarked steps.path_eq here (by rw [isLikeBody, same]; simp)
  obtain ⟨extracted, inside⟩ := extractBody_gathers
    (ready_prepare (isGroupable_isLikeBody t cs) marked) steps.marked_eq steps.extracted_eq
  obtain ⟨declared, kept, own⟩ := steps.declares extracted
  rw [bodyNames, steps.path_eq, Option.map_some, here] at mem
  simp only [List.mem_filterMap, id, exists_eq_right] at mem
  rcases List.mem_cons.mp mem with body | below
  · obtain ⟨text, codes⟩ := own name body.symm
    exact ⟨text, steps.keeps declared (List.mem_append_right _ (by rw [codes]; simp))⟩
  · obtain ⟨text, made⟩ := inside name below
    exact ⟨text, steps.keeps declared (List.mem_append_left _ (kept.mem_iff.mpr made))⟩

/-! ## The script of the body -/

/-- A script defines a function of this name. -/
def Defines (script name : String) : Prop :=
  ∃ body, (functionCode name body).toList <:+: script.toList

theorem trim_line {c d : Char} {cs : List Char} (hc : Text.isBlank c = false)
    (hd : Text.isBlank d = false) :
    Text.trim (c :: (cs ++ [d, '\n'])) = c :: (cs ++ [d]) := by
  have blank : Text.isBlank '\n' := by decide
  simp [Text.trim, Text.trimStart, Text.trimEnd, hc, hd, blank]

/-- A function ends with a line feed, which is stripped. -/
theorem toList_functionCode (name body : String) :
    (functionCode name body).toList = (Text.strip (functionCode name body)).toList ++ ['\n'] := by
  obtain ⟨cs, line⟩ : ∃ cs, (functionCode name body).toList = 'f' :: (cs ++ ['\x7d', '\n']) := by
    have front : "function ".toList = 'f' :: "unction ".toList := by decide
    have back : "';\nreturn result;\n\x7d\n".toList
        = "';\nreturn result;\n".toList ++ ['\x7d', '\n'] := by decide
    refine ⟨"unction ".toList ++ name.toList
      ++ "(contextValues, contextI, params) \x7b\nvar result = '".toList ++ body.toList
      ++ "';\nreturn result;\n".toList, ?_⟩
    simp only [functionCode, String.toList_append, front, back, List.cons_append,
      List.append_assoc]
  rw [Text.toList_strip, line, trim_line (by decide) (by decide)]
  simp

/-- The call that writes out the body stands on a line of its own. -/
theorem writeBody_eq (function : String) :
    writeBody function = "\n" ++ ("document.write(" ++ function ++ "([], 0, \x7b\x7d));") := by
  have front : "\ndocument.write(" = "\n" ++ "document.write(" := by decide
  delta writeBody
  rw [front, String.append_assoc, String.append_assoc, String.append_assoc]

/-- A function that is moved out is defined by the script of the body: what follows
it begins with the line feed that it ends with. -/
theorem defines_takeFunctions {function name body : String} {page : Document}
    (mem : functionCode name body ∈ functionTexts (fun _ => false) page) :
    Defines (takeFunctions function page).2 name := by
  rw [functionTexts_eq_pullOut] at mem
  obtain ⟨s, hs, text⟩ := List.mem_map.mp mem
  obtain ⟨before, behind, parts⟩ := List.append_of_mem (List.mem_reverse.mpr hs)
  obtain ⟨rest, hrest⟩ : ∃ rest, String.join (behind.map fun s => "\n" ++ Text.strip (textOf s))
      ++ writeBody function = "\n" ++ rest := by
    cases behind with
    | nil =>
        rw [List.map_nil, String.join_nil, String.empty_append]
        exact ⟨_, writeBody_eq function⟩
    | cons s' behind => exact ⟨Text.strip (textOf s')
        ++ (String.join (behind.map fun s => "\n" ++ Text.strip (textOf s))
          ++ writeBody function), by simp [String.append_assoc]⟩
  have script : (takeFunctions function page).2
      = String.join (before.map fun s => "\n" ++ Text.strip (textOf s)) ++ "\n"
        ++ Text.strip (functionCode name body) ++ ("\n" ++ rest) := by
    rw [← hrest, ← text, takeFunctions]
    dsimp only
    rw [parts]
    simp [String.append_assoc]
  refine ⟨body, (String.join (before.map fun s => "\n" ++ Text.strip (textOf s)) ++ "\n").toList,
    rest.toList, ?_⟩
  have feed : "\n".toList = ['\n'] := rfl
  rw [script, toList_functionCode]
  simp only [String.toList_append, feed, List.append_assoc]

/-! ## Both pages -/

/-- Splitting the body off loses no function that a page gets which keeps its body.
In a document whose frame stands apart, and in which every element that asks for a
function is the body, in the body, or has the id of one that is, the functions of
the page that keeps its body are those of the template outside of directives and
functions that the script of the body defines. -/
theorem split_loses_none {o o' : Options} {url : String} {p : Progress} {r : SplitPage}
    (arranged : everywhere isArranged doc) (unmarked : findPath? (·.page) doc = none)
    (among : allTags (isAmong (bodyNames doc)) doc) (hp : inline o doc = .ok p)
    (hr : split o' url doc = .ok r) :
    ∃ hoisted,
      (functionTexts (fun _ => false) p.doc).Perm (functionTexts isTarget doc ++ hoisted) ∧
      ∀ code ∈ hoisted, ∃ name body, code = functionCode name body ∧
        Defines r.bodyScript name := by
  obtain ⟨hoisted, added, own⟩ := inline_gathers (ready_of_unmarked arranged unmarked) among hp
  obtain ⟨page, taken, gathered⟩ := split_gathers arranged unmarked hr
  refine ⟨hoisted, added, fun code mem => ?_⟩
  obtain ⟨name, given, body, made⟩ := own code mem
  obtain ⟨body', there⟩ := gathered name given
  rw [(Prod.mk.inj taken).2]
  exact ⟨name, body, made, defines_takeFunctions there⟩

/-- A page without a head, whose body is a function and has functions in functions.
A function with the id of one of them stands behind the body. -/
def sharedPage : Document :=
  [.element { name := "html" }
    [.element { name := "body", attributes := [("yst", some "declare"), ("id", some "b")] }
      [.element { name := "div", attributes := [("yst", some "live"), ("id", some "c d")] }
        [.element { name := "p", attributes := [("yst", some "declare"), ("id", some "e")] }
          [.text "it's"]],
       .element { name := "ul", attributes := [("yst", some "apply")] }
        [.element { name := "li", attributes := [("yst", some "live"), ("id", some "g")] } []]],
     .element { name := "i", attributes := [("yst", some "declare"), ("id", some "e")] } []]]

theorem split_loses_none_sharedPage :
    everywhere isArranged sharedPage ∧ findPath? (·.page) sharedPage = none ∧
      allTags (isAmong (bodyNames sharedPage)) sharedPage ∧
      ∃ p r hoisted, inline {} sharedPage = .ok p ∧ split {} "b.js" sharedPage = .ok r ∧
        (functionTexts (fun _ => false) p.doc).Perm hoisted ∧ hoisted.length = 5 ∧
        ∀ code ∈ hoisted, ∃ name body, code = functionCode name body ∧
          Defines r.bodyScript name := by
  have arranged : everywhere isArranged sharedPage := by decide +kernel
  have unmarked : findPath? (·.page) sharedPage = none := by decide +kernel
  have among : allTags (isAmong (bodyNames sharedPage)) sharedPage := by decide +kernel
  have written : functionTexts isTarget sharedPage = [] := by decide +kernel
  have five : (inline {} sharedPage).toOption.any fun p =>
      (functionTexts (fun _ => false) p.doc).length == 5 := by decide +kernel
  have splitOff : (split {} "b.js" sharedPage).isOk := by decide +kernel
  refine ⟨arranged, unmarked, among, ?_⟩
  cases hp : inline {} sharedPage with
  | error e => rw [hp] at five; cases five
  | ok p =>
      cases hr : split {} "b.js" sharedPage with
      | error e => rw [hr] at splitOff; cases splitOff
      | ok r =>
          obtain ⟨hoisted, added, defined⟩ := split_loses_none arranged unmarked among hp hr
          rw [written, List.nil_append] at added
          rw [hp, Except.toOption, Option.any_some, beq_iff_eq] at five
          exact ⟨p, r, hoisted, rfl, rfl, added, added.length_eq.symm.trans five, defined⟩

/-- A page with a function in its head. -/
def headPage : String :=
  "<html><head><div yst=\"declare\" id=\"f\">x</div></head><body></body></html>"

/-- A function outside of the body is lost when the body is split off. -/
theorem split_loses_headPage : ∃ doc p r, Document.ofText headPage = .ok doc ∧
    inline {} doc = .ok p ∧ split {} "b.js" doc = .ok r ∧
    functionTexts (fun _ => false) p.doc = [functionCode "f" "x"] ∧
    ¬ Defines r.bodyScript "f" := by
  have computed : (Document.ofText headPage).toOption.any fun doc =>
      ((inline {} doc).toOption.any fun p =>
        functionTexts (fun _ => false) p.doc == [functionCode "f" "x"]) &&
      (split {} "b.js" doc).toOption.any fun r =>
        (Text.find? "function f(".toList r.bodyScript.toList).isNone := by decide +kernel
  cases read : Document.ofText headPage with
  | error e => rw [read] at computed; cases computed
  | ok doc =>
      rw [read, Except.toOption, Option.any_some, Bool.and_eq_true] at computed
      obtain ⟨kept, lost⟩ := computed
      cases hp : inline {} doc with
      | error e => rw [hp] at kept; cases kept
      | ok p =>
          cases hr : split {} "b.js" doc with
          | error e => rw [hr] at lost; cases lost
          | ok r =>
              rw [hp, Except.toOption, Option.any_some, beq_iff_eq] at kept
              rw [hr, Except.toOption, Option.any_some, Option.isNone_iff_eq_none,
                Text.find?_eq_none_iff_absent] at lost
              refine ⟨doc, p, r, rfl, hp, hr, kept, ?_⟩
              rintro ⟨body, there⟩
              have begins : "function f(".toList <+: (functionCode "f" body).toList := by
                refine ⟨("contextValues, contextI, params) \x7b\nvar result = '" ++ body
                  ++ "';\nreturn result;\n\x7d\n").toList, ?_⟩
                simp [functionCode]
              exact lost (begins.isInfix.trans there)

end PageTemplates.Compile
