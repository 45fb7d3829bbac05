import PageTemplates.Proofs.Compile.Emitted
import PageTemplates.Proofs.Compile.FunctionNames

/-!
# Functions by their names

A function that an element is compiled to has the name that the id of the element makes, or one
that is made up in a body without ids, and whatever refers to it uses this name. The main
facts:

* `InlineNames`, `SplitNames`: the names in what comes of compiling a page;
* `inline_names`, `split_names`: a document that was read and keeps directives apart from its
  frame is compiled with these names, whether the page keeps its body or has it split off;
* `functions_named`: both, with what is asked of an id for its name to be usable, and when two
  names are the same.
-/

namespace PageTemplates.Compile

open Markup Script

/-- The names that the ids of elements make, of those that ask for a function. -/
def givenNames (ns : List Node) : List String := (functionIds ns).filterMap id

theorem mem_givenNames {name : String} {ns : List Node} :
    name ∈ givenNames ns ↔ some name ∈ functionIds ns := by
  simp [givenNames]

/-! ## Pages that keep their body -/

/-- The functions of a page that keeps its body are `codes`, and its scripts write out the code
in `written`. Functions have the names that ids make, and what is referred to is defined. -/
structure InlineNames (o : Options) (doc page : Document) (codes written : List String) :
    Prop where
  /-- The only other script that is added starts the processing. -/
  scripts : ∃ start, (start = [] ∨ start = [startCode]) ∧
    (scriptTexts page).Perm (keptScripts doc ++ (codes ++ written.map writeText ++ start))
  functions : ∀ c ∈ codes, IsFunctionUsing (givenNames doc) (Defined codes) c
  /-- Each element that asks for a function and is reached is compiled to one of its own, inner
  ones first. -/
  own : List.Forall₂ (fun n code => ∃ m, IsGrouped n m ∧ IsCompiledTo o m code)
    ((innerFirst (movedTo doc)).filter Node.isHoisted) codes
  references : ∀ c ∈ written, Refers (Defined codes) false false c

section

variable {o : Options} {text : String} {doc : Document}

theorem not_mem_of_isReadName {name : String} (h : isReadName name) : '>' ∉ name.toList := by
  intro mem
  have own := List.all_eq_true.mp h _ mem
  exact absurd own (by decide)

/-- A document that was read, and its names. -/
theorem tidy_of_read (read : Document.ofText text = .ok doc) {names : List String}
    (given : givenNames doc ⊆ names) : Tidy (isReferred names) doc := by
  have tidy := ofText_isRead read
  refine tidy_referred_iff.mpr ⟨⟨allTags_mono (fun t own => ?_) doc tidy.tags, tidy.scripts⟩, ?_⟩
  · simpa using not_mem_of_isReadName (isReadTag_iff.mp own).1
  · exact among_of_ids doc (document_not_mem read) tidy.scripts
      fun name mem => given (mem_givenNames.mpr mem)

theorem unmarked_of_read (read : Document.ofText text = .ok doc) :
    findPath? (·.page) doc = none := by
  exact findPath?_of_allTags (fun t own => (isReadTag_iff.mp own).2.1) (ofText_isRead read).tags

/-- A document that was read and keeps its frame apart keeps directives apart from where
functions are added. -/
theorem clear_of_arranged (read : Document.ofText text = .ok doc)
    (arranged : everywhere isArranged doc) : everywhere isClear doc := by
  have tidy := ofText_isRead read
  have tags : everywhere (fun t _ => isReadTag t) doc := by
    rw [everywhere_tags]
    exact tidy.tags
  have both : everywhere (fun t cs => isArranged t cs && isReadTag t) doc :=
    everywhere_imp (fun t cs own read => by rw [own, read]; rfl) doc arranged tags
  refine everywhere_imp (fun t cs own plain => isClear_iff.mpr fun directive => ?_) doc both
    (everywhere_plainScripts doc tidy.scripts)
  rw [Bool.and_eq_true] at own
  obtain ⟨own, read⟩ := own
  obtain ⟨-, unmarked, unjoined⟩ := isReadTag_iff.mp read
  have directive : t.isDirective := directive.resolve_right (by simp [unjoined])
  rw [findPath?_element_eq_none]
  by_cases script : t.name = "script"
  · -- a script holds nothing but text
    refine ⟨by simp [takesFunctions, script], ?_⟩
    rw [findPath?_eq_none_iff]
    exact allTags_of_isText (by simpa [script] using plain)
  · have target : isTarget t := by simp [isTarget, script, directive]
    have ready : isReady isAnything t cs := by
      rw [isReady, own, unmarked]
      rfl
    obtain ⟨frame, outer, -⟩ := isReady_iff.mp ready
    refine ⟨Bool.eq_false_iff.mpr fun taken => ?_, ?_⟩
    · simp only [takesFunctions, Bool.or_eq_true, beq_iff_eq] at taken
      rw [outer taken.symm] at target
      cases target
    · have none := frame (by simp [isEnclosing, target])
      rw [findPath?_eq_none_iff] at none ⊢
      refine allTags_mono (fun u hu => ?_) cs none
      rw [Bool.not_eq_true'] at hu ⊢
      refine Bool.eq_false_iff.mpr fun taken => ?_
      simp only [takesFunctions, Bool.or_eq_true, beq_iff_eq] at taken
      rcases taken with name | name <;> simp [isFrameTag, name] at hu

theorem isReferred_join {names : List String} {t : Tag} (branch : t.isCompapply)
    (referred : isReferred names t) : isReferred names (join t) := by
  rw [isReferred_iff] at referred ⊢
  rw [name_join]
  exact ⟨referred.1, isAmong_join branch referred.2⟩

/-- The names in a page that keeps its body. -/
theorem inline_names (split : o.split = false) {r : Progress}
    (read : Document.ofText text = .ok doc) (clear : everywhere isClear doc)
    (h : inline o doc = .ok r) : ∃ codes written, InlineNames o doc r.doc codes written := by
  obtain ⟨p, run, rfl⟩ := inline_eq_ok h
  obtain ⟨codes, written, ran⟩ := ran_of_ok run
  have tidy : Tidy (isReferred (givenNames doc)) (prepare doc) :=
    tidy_prepare (fun _ => isReferred_join) (tidy_of_read read (List.Subset.refl _))
  have tidy' : Tidy (fun _ => true) (prepare doc) :=
    ⟨allTags_mono (fun _ _ => rfl) _ tidy.tags, tidy.scripts⟩
  have unjoined : allTags isUnjoined doc := allTags_mono
    (fun t own => by rw [isUnjoined, (isReadTag_iff.mp own).2.2]; rfl) doc (ofText_isRead read).tags
  have done := compileAll_done run
  have collects := ran.collects split tidy' (clear_prepare clear) done
  have writes := ran.writes tidy
  -- the page keeps its functions, so whatever a script refers to is defined in it
  have covers : Covers o.split codes (givenNames doc) (Defined codes) :=
    ⟨fun _ _ defined => defined, fun elsewhere => by rw [split] at elsewhere; cases elsewhere⟩
  have all := List.Subset.refl codes
  obtain ⟨start, either, started⟩ := scriptTexts_started (ran.tidy tidy').scripts done
  have scripts := started.trans ((scriptTexts_of_collects done collects).append_right start)
  rw [List.append_assoc] at scripts
  exact ⟨codes, written, ⟨start, either, scripts⟩, writes.functions codes _ all covers,
    functions_of_collects split (ofText_isRead read).scripts unjoined clear run collects,
    writes.scripts codes _ all covers⟩

end

/-! ## Pages whose body is split off -/

/-- The names in a page whose body, with the tag `t` and the children `cs`, is split off. The
functions `codes` of the elements in the body are named in order, `code` is the function of the
body, and the script of the body is made of `scripts`. The scripts of the page write out the
code in `written`. -/
structure SplitNames (doc : Document) (t : Tag) (cs : List Node) (r : SplitPage) (code : String)
    (codes scripts written : List String) : Prop where
  /-- The body has its own name, or one that is made up. -/
  named : functionName? (bodyWithId t) = some r.bodyFunction
  functions : List.Forall₂ (IsNamed (namesFrom 0 (functionIds cs))) (namesFrom 0 (functionIds cs))
    codes
  body : IsNamed (namesFrom 0 (functionIds cs)) r.bodyFunction code
  /-- The last line of the script calls the function of the body. -/
  bodyScript : r.bodyScript = bodyFunctions scripts ++ writeBody r.bodyFunction
  defined : code :: codes ⊆ scripts
  origin : scripts ⊆ functionTexts (fun _ => false) doc ++ code :: codes
  page : scriptTexts r.page.doc
    ⊆ scriptTexts doc ++ (written.map writeText ++ [loaderText, startCode])
  /-- Outside of the body, elements are referred to by the names that their ids make. -/
  references : ∀ c ∈ written, Refers
    (· ∈ givenNames doc ++ r.bodyFunction :: namesFrom 0 (functionIds cs)) false false c

/-- An element has the id of a body, and what it holds refers to functions with the names. -/
def isBodyLike (names : List String) (t u : Tag) (ds : List Node) : Bool :=
  u.value "id" == t.value "id" && allTags (isReferred names) ds && plainScripts ds

section

variable {names : List String} {t u : Tag} {cs ds : List Node}

theorem isBodyLike_iff : isBodyLike names t u ds ↔
    u.value "id" = t.value "id" ∧ allTags (isReferred names) ds ∧ plainScripts ds := by
  rw [isBodyLike, Bool.and_eq_true, Bool.and_eq_true, beq_iff_eq, and_assoc]

theorem isGroupable_isBodyLike (names : List String) (t : Tag) (ids : List (Option String)) :
    IsGroupable fun u ds => isBodyLike names t u ds && functionIds ds == ids := by
  constructor
  · intro u ds like
    rw [Bool.and_eq_true, isBodyLike_iff] at like ⊢
    rw [functionIds_group]
    exact ⟨⟨like.1.1, allTags_group (fun _ => isReferred_join) false ds like.1.2.1,
      plainScripts_group false ds like.1.2.2⟩, like.2⟩
  · intro u ds like
    rw [Bool.and_eq_true, isBodyLike_iff] at like ⊢
    have id : (join u).value "id" = u.value "id" := value_set_of_ne (by decide) u (some "ignore")
    rwa [id]

/-- The names of a body are enough for what it holds. -/
theorem isBodyLike_self {text : String} {doc : Document} {path : Path} {rest : List Node}
    (read : Document.ofText text = .ok doc) (here : siblingsAt path doc = .element t cs :: rest) :
    isBodyLike (namesFrom 0 (functionIds cs)) t { t with page := true } cs := by
  have tidy := (tidy_referred_iff.mp (tidy_of_read read (List.Subset.refl _))).1.siblingsAt path
  have tree := isDeep_preorder.siblingsAt path (document_not_mem read)
  rw [here] at tidy tree
  have own := tidy_element.mp (tidy_cons.mp tidy).1
  rw [preorder, List.mem_append, not_or] at tree
  have among : allTags (isAmong (namesFrom 0 (functionIds cs))) cs :=
    among_of_ids cs (isDeep_preorder.children _ tree.1) own.2.2.scripts
      fun name mem => mem_namesFrom mem 0
  exact isBodyLike_iff.mpr ⟨rfl, (tidy_referred_iff.mpr ⟨own.2.2, among⟩).tags, own.2.2.scripts⟩

theorem functionName?_declared (same : u.value "id" = t.value "id") :
    functionName? (declareBody u) = functionName? (bodyWithId t) := by
  apply functionName?_congr
  unfold declareBody bodyWithId
  dsimp only
  rw [value_set_of_ne (by decide), same]
  split
  · rw [value_set, value_set]
  · rw [value_set_of_ne (by decide), same]

end

theorem isReferred_page (names : List String) (t : Tag) :
    isReferred names { t with page := true } = isReferred names t := by
  have word : ({ t with page := true } : Tag).directiveWord = t.directiveWord := rfl
  have function : isFunction { t with page := true } = isFunction t := by
    rw [isFunction, isFunction, word]
  have name : functionName? { t with page := true } = functionName? t := functionName?_congr rfl
  rw [isReferred, isReferred, isAmong, isAmong, function, name]

/-- What extracting the functions `codes` of a body makes of a page: the body, with the tag `u`
and the children `ds`, gets the ids that it lacks, and the functions are placed. They have the
names `names` and refer to each other, and the page is ready to have its body, with the id of
`t`, declared. -/
structure BodyExtracted {o : Options} {url : String} {doc : Document} {r : SplitPage}
    (steps : SplitSteps o url doc r) (names : List String) (t u : Tag) (ds rest : List Node)
    (codes : List String) : Prop where
  here : siblingsAt steps.marked (prepare (markPage steps.path doc)) = .element u ds :: rest
  name : u.name = "body"
  ids : names = namesFrom 0 (functionIds ds)
  placed : steps.extracted.doc = place codes (modifyAt (fun _ => .element u (withIds 0 ds).1)
    steps.marked (prepare (markPage steps.path doc)))
  functions : List.Forall₂ (IsNamed names) names codes
  gathered : codes ⊆ functionTexts (isHidden true) steps.extracted.doc
  ready : everywhere (isReady (isBodyLike names t)) steps.extracted.doc

section

variable {o : Options} {url : String} {doc : Document} {r : SplitPage}
  {steps : SplitSteps o url doc r} {t u : Tag} {cs ds rest : List Node}
  {names codes : List String}

/-- The functions of the body are named in order, and the body stays like it was. -/
theorem extracts (given : names = namesFrom 0 (functionIds cs))
    (ready : everywhere (isReady fun u ds => isBodyLike names t u ds &&
      functionIds ds == functionIds cs) (prepare (markPage steps.path doc))) :
    ∃ u ds rest codes, BodyExtracted steps names t u ds rest codes := by
  obtain ⟨u, ds, rest, here, body, like, frameless⟩ := ready_page ready steps.marked_eq
  rw [Bool.and_eq_true, beq_iff_eq, isBodyLike_iff] at like
  obtain ⟨⟨id, referred, plain⟩, ids⟩ := like
  obtain ⟨noHead, noHtml⟩ := body_outside body frameless
  obtain ⟨codes, run, placed⟩ := extractBody_eq_ok here noHead noHtml steps.extracted_eq
  rw [← ids] at given
  have mild : everywhere (isReady (isBodyLike names t)) (prepare (markPage steps.path doc)) :=
    ready_mono (fun v es like => ((Bool.and_eq_true _ _).mp like).1) ready
  have ready' : everywhere (isReady (isBodyLike names t))
      (modifyAt (fun _ => .element u (withIds 0 ds).1) steps.marked
        (prepare (markPage steps.path doc))) := by
    refine ready_mapPage mild steps.marked_eq fun _ _ _ _ _ => ⟨u, _, rfl, body, ?_,
      allTags_withIds (q := isFrameless) (fun _ _ _ => isFrameless_set_id) 0 ds frameless⟩
    exact isBodyLike_iff.mpr ⟨id, referred_withIds 0 ds referred (given ▸ List.Subset.refl _),
      plainScripts_withIds 0 ds plain⟩
  refine ⟨u, ds, rest, codes, here, body, given, placed,
    functions_refer given referred plain run, fun code mem => ?_, ?_⟩
  · rw [placed]
    exact (functionTexts_place codes ready').mem_iff.mpr (List.mem_append_right _ mem)
  · rw [placed]
    exact ready_place codes ready'

namespace BodyExtracted

/-- The function of the body refers to those of the elements in it. -/
theorem hoists (h : BodyExtracted steps names t u ds rest codes) :
    ∃ code, functionName? (bodyWithId t) = some r.bodyFunction ∧ steps.codes = [code] ∧
      IsNamed names r.bodyFunction code := by
  obtain ⟨v, es, _, here, body, like, -⟩ := ready_page h.ready steps.declared_eq
  obtain ⟨id, referred, plain⟩ := isBodyLike_iff.mp like
  obtain ⟨w, fs, _, -, here', behind, -⟩ := replaced_found
    (f := fun n => [n.mapTag declareBody]) steps.extracted.doc steps.declared steps.declared_eq
  -- the element at the place of the body is the one that was declared
  obtain ⟨rfl, rfl⟩ : v = w ∧ es = fs := by
    have same := (List.cons.inj (here.symm.trans here')).1
    rwa [Node.element.injEq] at same
  obtain ⟨tag, content⟩ : steps.tag = declareBody v ∧ steps.content = es := by
    have whole := (List.cons.inj (steps.body_eq.symm.trans behind)).1
    rwa [Node.mapTag, Node.element.injEq] at whole
  obtain ⟨name, named⟩ := exists_functionName? t
  have own : functionName? steps.tag = some name := by
    rw [tag, functionName?_declared id, named]
  obtain ⟨text, run, made, codes⟩ := hoist_adds rfl own steps.codes_eq
  have function : r.bodyFunction = name := by
    rw [steps.function_eq, made]
    rfl
  have other : steps.tag.name ≠ "script" := by
    rw [tag, name_declareBody, body]
    decide
  have covers : Covers true [] names (· ∈ names) := covers_of_split
  have uses := body_uses covers _ other (content ▸ referred) (content ▸ plain) [] text [] run
  rw [function]
  exact ⟨_, named, codes, text, rfl, (uses.2 (List.Subset.refl [])).1⟩

/-- The element that is declared is a body with this id. -/
theorem declared (h : BodyExtracted steps names t u ds rest codes) :
    Changed (fun v => v.page && (v.name == "body" && v.value "id" == t.value "id"))
      (fun n => [n.mapTag declareBody]) steps.extracted.doc
      (declarePage steps.declared steps.extracted.doc) := by
  refine changed_of_everywhere (changed_replaceAt _ _ steps.declared_eq) (fun v es own page => ?_)
    h.ready
  obtain ⟨body, like⟩ := (isReady_iff.mp own).2.2 page
  rw [body, (isBodyLike_iff.mp like).1, beq_self_eq_true, beq_self_eq_true]
  rfl

/-- What elements ask for has one of the names, until the page is compiled. -/
theorem tidy (h : BodyExtracted steps names t u ds rest codes) {all : List String}
    (tidy : Tidy (isReferred all) doc) (given : names ⊆ all)
    (body : functionName? (bodyWithId t) = some r.bodyFunction) (mem : r.bodyFunction ∈ all) :
    Tidy (isReferred all) (declarePage steps.declared steps.extracted.doc) := by
  have marked : Tidy (isReferred all) (prepare (markPage steps.path doc)) := by
    refine tidy_prepare (fun _ => isReferred_join) (tidy_of_changed
      (changed_replaceAt _ _ steps.path_eq) (fun v es _ own => ?_) tidy)
    obtain ⟨tag, inside⟩ := tidy_element.mp own
    exact tidy_element.mpr ⟨(isReferred_page all v).symm ▸ tag, inside⟩
  have there := marked.siblingsAt steps.marked
  rw [h.here] at there
  obtain ⟨own, -, below⟩ := tidy_element.mp (tidy_cons.mp there).1
  have extracted : Tidy (isReferred all) steps.extracted.doc := by
    rw [h.placed]
    refine referred_place codes (tidy_of_changed (changed_replaceAt _ _ steps.marked_eq)
      (fun _ _ _ _ => tidy_element.mpr ⟨own, fun script => ?_, ?_⟩) marked)
    · rw [h.name] at script
      exact absurd script (by decide)
    · exact ⟨referred_withIds 0 ds below.tags (h.ids ▸ given),
        plainScripts_withIds 0 ds below.scripts⟩
  refine tidy_of_changed h.declared (fun v es same element => ?_) extracted
  rw [Bool.and_eq_true, Bool.and_eq_true, beq_iff_eq, beq_iff_eq] at same
  obtain ⟨own, text, below⟩ := tidy_element.mp element
  refine tidy_element.mpr ⟨isReferred_iff.mpr ⟨?_, ?_⟩, ?_, below⟩
  · rw [name_declareBody]
    exact (isReferred_iff.mp own).1
  · simp [isAmong, functionName?_declared same.2.2, body, mem]
  · rwa [name_declareBody]

/-- The scripts of the page are those of the template, and the functions of the body. -/
theorem known (h : BodyExtracted steps names t u ds rest codes) {defined others : List String}
    (known : everywhere (isKnown defined others) doc) (functions : codes ⊆ defined) :
    everywhere (isKnown defined others) (declarePage steps.declared steps.extracted.doc) := by
  have marked : everywhere (isKnown defined others) (prepare (markPage steps.path doc)) :=
    known_prepare (known_of_changed_element (changed_replaceAt _ _ steps.path_eq)
      (fun v es body => ⟨_, es, rfl, ne_of_isNamed (by decide : "body" ≠ "script") v body, id⟩)
      known)
  have there := (isDeep_everywhere (isKnown defined others)).siblingsAt steps.marked marked
  rw [h.here] at there
  have below := (everywhere_element.mp (everywhere_cons.mp there).1).2
  have extracted : everywhere (isKnown defined others) steps.extracted.doc := by
    rw [h.placed]
    refine known_place functions (known_of_changed_element (changed_replaceAt _ _ steps.marked_eq)
      (fun _ _ _ => ⟨u, _, rfl, ?_, fun _ => known_withIds 0 ds below⟩) marked)
    rw [h.name]
    decide
  refine known_of_changed_element h.declared (fun v es same => ?_) extracted
  rw [Bool.and_eq_true, Bool.and_eq_true, beq_iff_eq] at same
  refine ⟨_, es, rfl, ?_, id⟩
  rw [name_declareBody, same.2.1]
  decide

end BodyExtracted

end

/-- The names in a page whose body is split off. -/
theorem split_names {o : Options} {url text : String} {doc : Document} {r : SplitPage}
    (read : Document.ofText text = .ok doc) (arranged : everywhere isArranged doc)
    (h : split o url doc = .ok r) :
    ∃ path t cs rest, findPath? (Tag.isNamed "body") doc = some path ∧
      siblingsAt path doc = .element t cs :: rest ∧
      ∃ code codes scripts written, SplitNames doc t cs r code codes scripts written := by
  obtain ⟨steps⟩ := split_steps h
  obtain ⟨t, cs, rest, -, here, -⟩ := replaced_found (f := fun _ => []) doc steps.path steps.path_eq
  have marked := ready_prepare (isGroupable_isBodyLike (namesFrom 0 (functionIds cs)) t
    (functionIds cs)) (ready_markPage arranged (unmarked_of_read read) steps.path_eq here
      (by rw [isBodyLike_self read here, beq_self_eq_true]; rfl))
  obtain ⟨u, ds, behind, codes, body⟩ := extracts rfl marked
  obtain ⟨code, named, own, function⟩ := body.hoists
  obtain ⟨declared, kept, -⟩ := steps.declares (t := t) (ready_mono (fun v es like =>
    beq_iff_eq.mpr (functionName?_congr (isBodyLike_iff.mp like).1)) body.ready)
  refine ⟨steps.path, t, cs, rest, steps.path_eq, here, ?_⟩
  -- what the page writes out once its body is a function
  have tidy := body.tidy (tidy_of_read read (List.subset_append_left (givenNames doc)
      (r.bodyFunction :: namesFrom 0 (functionIds cs))))
    (List.Subset.trans (List.subset_cons_self _ _) (List.subset_append_right _ _)) named (by simp)
  obtain ⟨none, written, ran⟩ := ran_of_ok steps.compiled_eq
  have writes := ran.writes (referred_place steps.codes tidy)
  obtain rfl := writes.elsewhere rfl
  -- where scripts come from
  have known := body.known
    (known_self doc (List.subset_append_left (functionTexts (fun _ => false) doc) (code :: codes))
      (List.subset_append_left (scriptTexts doc)
        (written.map writeText ++ [loaderText, startCode])))
    (List.Subset.trans (List.subset_cons_self _ _) (List.subset_append_right _ _))
  have compiled := writes.known _ _ (List.nil_subset _)
    (List.Subset.trans (List.subset_append_left _ _) (List.subset_append_right _ _))
    (known_place (show steps.codes ⊆ _ by rw [own]; simp) known)
  obtain ⟨page, origin, script⟩ := takeFunctions_known (steps.name?.getD "") (known_markBody
    (by simp) (known_appendToHtml (by simp) compiled))
  have stays := congrArg Prod.fst steps.page_eq
  have moved := congrArg Prod.snd steps.page_eq
  dsimp only at stays moved
  rw [← stays] at page
  rw [← moved, ← steps.function_eq] at script
  refine ⟨code, codes, _, written, named, body.functions, function, script, ?_, ?_, page, ?_⟩
  · intro c mem
    rw [List.mem_reverse]
    refine steps.keeps declared (List.mem_append.mpr ?_)
    rw [own, List.mem_singleton, kept.mem_iff]
    exact (List.mem_cons.mp mem).symm.imp_left (@body.gathered c)
  · exact fun c mem => origin (List.mem_reverse.mp mem)
  · exact writes.scripts [] _ (List.nil_subset _) covers_of_split

/-! ## Elements -/

/-- What the code of an element refers to: the function with its name, or nothing. -/
def referenceTo (t : Tag) : String := ((functionName? t).map (· ++ ",[]")).getD "''"

section

variable {o : Options} {site : Site} {nested declare : Bool} {t : Tag} {cs : List Node}
  {whole inner branches : Gen String} {codes codes' : List String} {code? : Option String}

theorem callCode_infix (nested declare : Bool) (f a s b : String) : ∃ before behind,
    callCode nested declare f (a ++ s ++ b) = before ++ s ++ behind := by
  unfold callCode
  split
  · exact ⟨f ++ ",[" ++ a, b ++ "]", by simp only [String.append_assoc]⟩
  · exact ⟨f ++ surroundings declare ++ a, b ++ ")", by simp only [String.append_assoc]⟩

/-- The function of a directive has the name that is given back, and comes last. -/
theorem hoist_names {d : Directive} {name? : Option String}
    (h : (hoist d inner).run codes = .ok (name?, codes')) :
    name? = d.functionName? ∧ ∀ name, d.functionName? = some name →
      ∃ below body, codes' = below ++ [functionCode name body] := by
  unfold hoist at h
  split at h
  · rename_i none
    cases h
    exact ⟨none.symm, fun name own => by rw [none] at own; cases own⟩
  · rename_i name named
    obtain ⟨body, below, -, rest⟩ := run_bind_eq_ok h
    cases rest
    refine ⟨named.symm, fun other own => ?_⟩
    obtain rfl := Option.some.inj (named.symm.trans own)
    exact ⟨below, body, rfl⟩

/-- The code of a live element refers to the function with the name of the element, which comes
with the code unless it is defined elsewhere. -/
theorem elementCode_live (live : DirectiveKind.ofWord? t.directiveWord = some .live)
    (h : (elementCode o site nested declare (.element t cs) whole inner branches).run codes
      = .ok (code?, codes')) :
    (∃ before behind, code? = some (before ++ referenceTo t ++ behind)) ∧
      (o.split = false → ∀ name, functionName? t = some name →
        ∃ below body, codes' = below ++ [functionCode name body]) := by
  unfold elementCode at h
  obtain ⟨_, _, hget, h⟩ := run_bind_eq_ok h
  cases hget
  obtain ⟨d, x, hd, h⟩ := run_bind_eq_ok h
  obtain ⟨hd, rfl⟩ := run_lift_eq_ok hd
  obtain ⟨kind, hk, rfl⟩ := directive_eq_ok hd
  obtain rfl : kind = .live := Option.some.inj (hk.symm.trans live)
  -- the arguments hold the reference
  have code (name? : Option String) (same : name? = functionName? t) (reference : String)
      (own : reference = (name?.map (· ++ ",[]")).getD "''") : ∃ before behind,
      some (callCode nested declare "YST.Txt.value" (auxArgument (t.directiveOf .live).aux
        ++ ("['" ++ tagLiteral o t ++ "'," ++ reference ++ ",'</" ++ t.name ++ ">']")))
        = some (before ++ referenceTo t ++ behind) := by
    obtain ⟨before, behind, whole⟩ := callCode_infix nested declare "YST.Txt.value"
      (auxArgument (t.directiveOf .live).aux ++ ("['" ++ tagLiteral o t ++ "',")) (referenceTo t)
      (",'</" ++ t.name ++ ">']")
    refine ⟨before, behind, congrArg some (Eq.trans ?_ whole)⟩
    rw [own, same, ← referenceTo]
    simp only [String.append_assoc]
  unfold directiveCode at h
  dsimp only at h
  split at h <;> rename_i kind <;> try cases kind
  split at h
  · rename_i elsewhere
    cases h
    refine ⟨code (t.directiveOf .live).functionName? rfl _ ?_, fun own => ?_⟩
    · cases (t.directiveOf .live).functionName? <;> rfl
    · rw [elsewhere] at own
      cases own
  · obtain ⟨name?, below, hoisted, h⟩ := run_bind_eq_ok h
    obtain ⟨named, added⟩ := hoist_names hoisted
    cases h
    exact ⟨code name? named _ (by cases name? <;> rfl), fun _ => added⟩

end

/-! ## Names of functions -/

/-- The functions of a document that was read. In a page that keeps its body, where directives
are apart from the head, each is that of one element and has the name that its id makes, and
what is referred to is defined. In the script of a body, where the whole frame is apart, they
have such names or names that are made up, which can be used and are different, and what is
referred to is defined as well; the last line calls the function of the body. The code of a
live element refers to its own function. A name from an id can be used if the id is made for
it, and is the same as another one only if the ids differ in spaces and underscores at most. -/
theorem functions_named {text : String} {doc : Document}
    (read : Document.ofText text = .ok doc) :
    (everywhere isClear doc → ∀ (o : Options) (r : Progress), o.split = false →
      inline o doc = .ok r → ∃ codes written, InlineNames o doc r.doc codes written) ∧
    (everywhere isArranged doc → ∀ (o : Options) (url : String) (r : SplitPage),
      split o url doc = .ok r →
      ∃ path t cs rest, findPath? (Tag.isNamed "body") doc = some path ∧
        siblingsAt path doc = .element t cs :: rest ∧
        (∃ code codes scripts written, SplitNames doc t cs r code codes scripts written) ∧
        AreNamed (functionIds cs ++ [functionName? t])
          (namesFrom 0 (functionIds cs) ++ [r.bodyFunction])) ∧
    (∀ (o : Options) (site : Site) (nested declare : Bool) (t : Tag) (cs : List Node)
      (whole inner branches : Gen String) (codes codes' : List String) (code? : Option String),
      DirectiveKind.ofWord? t.directiveWord = some .live →
      (elementCode o site nested declare (.element t cs) whole inner branches).run codes
        = .ok (code?, codes') →
      (∃ before behind, code? = some (before ++ referenceTo t ++ behind)) ∧
        (o.split = false → ∀ name, functionName? t = some name →
          ∃ below body, codes' = below ++ [functionCode name body])) ∧
    (∀ t name, functionName? t = some name → (isIdentifier name.toList ↔ isWordId (idOf t))) ∧
    ∀ t u name other, functionName? t = some name → functionName? u = some other →
      (name = other ↔ List.Forall₂ Alike (idOf t) (idOf u)) := by
  refine ⟨fun clear o r split => inline_names split read clear, fun arranged o url r h => ?_,
    fun _ _ _ _ _ _ _ _ _ _ _ _ => elementCode_live, fun _ _ => isIdentifier_functionName,
    fun _ _ _ _ => functionName_eq_iff⟩
  -- the body has a function of its own, named behind those of what it holds
  obtain ⟨path, t, cs, rest, found, here, names⟩ := split_names read arranged h
  obtain ⟨code, codes, scripts, written, own⟩ := names
  exact ⟨path, t, cs, rest, found, here, ⟨code, codes, scripts, written, own⟩,
    areNamed_body own.named _⟩

/-- A page with a function that has no id, in one whose id has a space in it. -/
def namedPage : String :=
  "<html><head></head><body><div yst=\"live\" id=\"c d\"><p yst=\"declare\">x</p></div></body>"

/-- The tag of the outer one. -/
def namedTag : Tag := { name := "div", attributes := [("yst", some "live"), ("id", some "c d")] }

theorem functions_named_namedPage : ∃ doc p r t cs,
    Document.ofText namedPage = .ok doc ∧ everywhere isArranged doc ∧
      inline {} doc = .ok p ∧ (∃ codes written, InlineNames {} doc p.doc codes written) ∧
      givenNames doc = ["c_d"] ∧ isIdentifier "c_d".toList ∧
      split {} "b.js" doc = .ok r ∧
      (∃ code codes scripts written, SplitNames doc t cs r code codes scripts written) ∧
      AreNamed [none, some "c_d", none] ["__TemplateDeclare1", "c_d", "__TemplateBody"] := by
  have computed : (Document.ofText namedPage).toOption.any fun doc =>
      everywhere isArranged doc && (inline {} doc).isOk && givenNames doc == ["c_d"] &&
      (split {} "b.js" doc).toOption.any (·.bodyFunction == "__TemplateBody") &&
      ((findPath? (Tag.isNamed "body") doc).map fun path =>
          (siblingsAt path doc).head?.map fun n => (Node.functionName? n, functionIds n.children))
        == some (some (none, [none, some "c_d"])) := by
    decide +kernel
  have names : namesFrom 0 [none, some "c_d"] = ["__TemplateDeclare1", "c_d"] := by decide +kernel
  have own : functionName? namedTag = some "c_d" := by decide +kernel
  have word : isWordId (idOf namedTag) := by decide +kernel
  cases read : Document.ofText namedPage with
  | error e => rw [read] at computed; cases computed
  | ok doc =>
      rw [read, Except.toOption, Option.any_some] at computed
      simp only [Bool.and_eq_true, beq_iff_eq] at computed
      obtain ⟨⟨⟨⟨arranged, kept⟩, given⟩, splitOff⟩, ids⟩ := computed
      obtain ⟨inlined, divided, -, usable, -⟩ := functions_named read
      cases hp : inline {} doc with
      | error e => rw [hp] at kept; cases kept
      | ok p =>
          cases hr : split {} "b.js" doc with
          | error e => rw [hr] at splitOff; cases splitOff
          | ok r =>
              rw [hr, Except.toOption, Option.any_some, beq_iff_eq] at splitOff
              obtain ⟨path, t, cs, rest, found, here, own', apart⟩ :=
                divided arranged {} "b.js" r hr
              rw [found, Option.map_some, here, List.head?_cons, Option.map_some] at ids
              obtain ⟨body, below⟩ := Prod.mk.inj (Option.some.inj (Option.some.inj ids))
              rw [Node.functionName?] at body
              rw [Node.children] at below
              rw [body, below, names, splitOff] at apart
              exact ⟨doc, p, r, t, cs, rfl, arranged, hp,
                inlined (clear_of_arranged read arranged) {} p rfl hp, given,
                (usable namedTag "c_d" own).mpr word, hr, own', apart⟩

/-- A page with an id that makes no usable name, and two ids that make the same one. -/
def carelessPage : String :=
  "<html><head></head><body><p yst=\"declare\" id=\"a-b\">x</p>" ++
    "<p yst=\"declare\" id=\"c d\">y</p><p yst=\"declare\" id=\"c_d\">z</p></body></html>"

/-- A head in an element with a directive. -/
def lostPage : String :=
  "<div yst=\"value\"><head></head><p yst=\"live\" id=\"x\">t</p></div>"

def lostCode : String :=
  "YST.Txt.value([], 0, \x7b\x7d,null,['<div yst=\\\"value\\\"><head></head>',YST.Txt.value," ++
    "[null,['<p yst=\\\"live\\\" id=\\\"x\\\">',x,[],'</p>']],'</div>'])"

/-- A name need not be usable, elements with different ids may share one, and where the head is
compiled away, a name is referred to that is not defined. -/
theorem names_careless :
    (∃ doc r, Document.ofText carelessPage = .ok doc ∧ inline {} doc = .ok r ∧
      (functions doc).map (·.print .utf false) = ["<p yst=\"declare\" id=\"a-b\">x</p>",
        "<p yst=\"declare\" id=\"c d\">y</p>", "<p yst=\"declare\" id=\"c_d\">z</p>"] ∧
      functionTexts (fun _ => false) r.doc
        = [functionCode "a-b" "x", functionCode "c_d" "y", functionCode "c_d" "z"] ∧
      isIdentifier "a-b".toList = false) ∧
    ∃ doc r, Document.ofText lostPage = .ok doc ∧ inline {} doc = .ok r ∧
      scriptTexts r.doc = [writeText lostCode] := by
  constructor
  · have computed : (Document.ofText carelessPage).toOption.any fun doc =>
        (functions doc).map (·.print .utf false) == ["<p yst=\"declare\" id=\"a-b\">x</p>",
          "<p yst=\"declare\" id=\"c d\">y</p>", "<p yst=\"declare\" id=\"c_d\">z</p>"] &&
        (inline {} doc).toOption.any (functionTexts (fun _ => false) ·.doc
          == [functionCode "a-b" "x", functionCode "c_d" "y", functionCode "c_d" "z"]) := by
      decide +kernel
    have unusable : isIdentifier "a-b".toList = false := by decide +kernel
    cases read : Document.ofText carelessPage with
    | error e => rw [read] at computed; cases computed
    | ok doc =>
        rw [read, Except.toOption, Option.any_some, Bool.and_eq_true, beq_iff_eq] at computed
        obtain ⟨elements, texts⟩ := computed
        cases h : inline {} doc with
        | error e => rw [h] at texts; cases texts
        | ok r =>
            rw [h, Except.toOption, Option.any_some, beq_iff_eq] at texts
            exact ⟨doc, r, rfl, h, elements, texts, unusable⟩
  · have computed : (Document.ofText lostPage).toOption.any fun doc =>
        (inline {} doc).toOption.any (scriptTexts ·.doc == [writeText lostCode]) := by
      decide +kernel
    cases read : Document.ofText lostPage with
    | error e => rw [read] at computed; cases computed
    | ok doc =>
        rw [read, Except.toOption, Option.any_some] at computed
        cases h : inline {} doc with
        | error e => rw [h] at computed; cases computed
        | ok r =>
            rw [h, Except.toOption, Option.any_some, beq_iff_eq] at computed
            exact ⟨doc, r, rfl, h, computed⟩

end PageTemplates.Compile
