import PageTemplates.Proofs.Compile.Scripts
import PageTemplates.Proofs.Markup.Parsed

/-!
# Scripts of a page whose body is split off

Before the body of a page becomes a function, the elements in it that ask for
functions are compiled to them. The functions are scripts of the page until they
are moved to the script of the body. The main facts:

* `extractAll_extracts`: extracting functions keeps the scripts of the body;
* `split_adds`: all scripts that stood in the page before its functions were
  moved are scripts of the template or harmless;
* `created_scripts_stay_open`: what is created of a document that was read closes
  no script, whether the page keeps its body or has it split off.
-/

namespace PageTemplates.Compile

open Markup Script

/-! ## Tags that are changed -/

/-- An element whose id has no bracket is as sound as its name and its mark. -/
theorem isSound_of_noBracket {t u : Tag} (name : u.name = t.name) (page : u.page = t.page)
    (id : '<' ∉ (u.value "id").toList) (h : isSound t) : isSound u := by
  rw [isSound_iff] at h ⊢
  rw [name, page]
  exact ⟨h.1, by simp [isSoundId, id], h.2.2⟩

theorem noBracket_of_page {t : Tag} (h : isSound t) (page : t.page) :
    '<' ∉ (t.value "id").toList :=
  noBracket_of_hoists h (by simp [Tag.hoists, page])

theorem isTarget_set_id (t : Tag) (v : Option String) : isTarget (t.set "id" v) = isTarget t := by
  rw [isTarget, isTarget, name_set, Tag.isDirective, Tag.isDirective, Tag.directiveWord,
    Tag.directiveWord, value_set_of_ne (by decide)]

theorem name_declareBody (t : Tag) : (declareBody t).name = t.name := by
  unfold declareBody
  dsimp only
  split
  · rw [name_set, name_set]
  · rw [name_set]

theorem page_declareBody (t : Tag) : (declareBody t).page = t.page := by
  unfold declareBody
  dsimp only
  split
  · rw [page_set, page_set]
  · rw [page_set]

theorem isSound_declareBody {t : Tag} (h : isSound t) (page : t.page) :
    isSound (declareBody t) := by
  refine isSound_of_noBracket (name_declareBody t) (page_declareBody t) ?_ h
  unfold declareBody
  dsimp only
  split
  · rw [value_set]
    decide
  · rw [value_set_of_ne (by decide)]
    exact noBracket_of_page h page

theorem isTarget_declareBody {t : Tag} (other : t.name ≠ "script") : isTarget (declareBody t) := by
  have yst : (declareBody t).value "yst" = "declare" := by
    unfold declareBody
    dsimp only
    split
    · rw [value_set_of_ne (by decide), value_set]
    · rw [value_set]
  have word : (declareBody t).directiveWord = "declare" := by
    unfold Tag.directiveWord
    rw [yst]
    decide +kernel
  simp [isTarget, name_declareBody, other, Tag.isDirective, word]

/-! ## Extracting functions -/

/-- Where all functions are harmless, a result satisfies `Q`, and all functions
still are. -/
abbrev Extracts {α : Type} (g : Extract α) (Q : α → Prop) : Prop :=
  Preserves (fun x => ∀ c ∈ x.codes, Harmless c) g Q

theorem Extracts.ofGen {α : Type} {g : Gen α} {Q : α → Prop} (h : Keeps g Q) :
    Extracts (Extract.ofGen g) Q := by
  intro x hx a x' hr
  change (g.run x.codes >>= fun r => Except.ok (r.1, { x with codes := r.2 })) = _ at hr
  cases hg : g.run x.codes with
  | error e => rw [hg] at hr; cases hr
  | ok r =>
      rw [hg] at hr
      cases hr
      exact h x.codes hx r.1 r.2 hg

theorem noBracket_madeUp (n : Nat) : '<' ∉ ("__TemplateDeclare" ++ toString n).toList := by
  rw [String.toList_append, List.mem_append, not_or]
  refine ⟨by decide, fun h => ?_⟩
  rw [Nat.toString_eq_repr, Nat.toList_repr] at h
  exact absurd (Nat.isDigit_of_mem_toDigits (by decide) (by decide) h) (by decide)

theorem withId_extracts {t : Tag} (id : '<' ∉ (t.value "id").toList) :
    Extracts (withId t) fun u => u.name = t.name ∧ u.page = t.page ∧ isTarget u = isTarget t ∧
      '<' ∉ (u.value "id").toList := by
  unfold withId
  split
  · exact .pure ⟨rfl, rfl, rfl, id⟩
  · refine Preserves.get.bind fun x _ => ?_
    dsimp only
    refine Preserves.bind (Preserves.update fun _ hx => hx) fun _ _ => .pure ?_
    refine ⟨name_set _ _ _, page_set _ _ _, isTarget_set_id t _, ?_⟩
    rw [value_set]
    exact noBracket_madeUp _

theorem extractElement_extracts (o : Options) (site : Site) {t : Tag} {cs : List Node}
    (sound : Sound [.element t cs]) (other : t.name ≠ "script") :
    Extracts (extractElement o site t cs)
      fun n => Sound [n] ∧ keptScripts [n] = keptScripts [.element t cs] := by
  obtain ⟨tag, -, below⟩ := tidy_element.mp sound
  unfold extractElement
  split
  · exact .pure ⟨sound, rfl⟩
  refine Preserves.get.bind fun x _ => (Preserves.lift fun d hd => directive_eq_ok hd).bind ?_
  rintro d ⟨kind, hk, rfl⟩
  split
  · exact .pure ⟨sound, rfl⟩
  · rename_i hoists
    rw [Bool.not_eq_true', Bool.not_eq_false] at hoists
    have id := noBracket_of_hoists tag (by simp [Tag.hoists, hk, other, hoists])
    -- the tag may be given an id, but is otherwise the same
    refine (withId_extracts id).bind ?_
    rintro u ⟨name, page, target, id'⟩
    have sound' : Sound [.element u cs] := by
      refine tidy_element.mpr ⟨isSound_of_noBracket name page id' tag, ?_, below⟩
      rw [name]
      exact fun script => absurd script other
    have inside := innerLiteral_keeps o site _ (tidy_singleton.mp sound').1
      (tidy_singleton.mp sound').2
    refine (Extracts.ofGen (hoist_keeps inside fun name => functionName_noBracket id')).bind
      fun _ _ => .pure ⟨sound', keptScripts_retag name target cs⟩

mutual

theorem extract_extracts (o : Options) (site : Site) : ∀ n, Sound [n] →
    Extracts (extract o site n) fun m => Sound [m] ∧ keptScripts [m] = keptScripts [n]
  | .element t cs, sound => by
      obtain ⟨tag, -, below⟩ := tidy_element.mp sound
      rw [extract]
      split
      · exact .pure ⟨sound, rfl⟩
      · rename_i script
        have other : t.name ≠ "script" := by simpa using script
        refine (extractAll_extracts o site cs below).bind ?_
        rintro ds ⟨below', same⟩
        have sound' : Sound [.element t ds] :=
          tidy_element.mpr ⟨tag, fun script => absurd script other, below'⟩
        refine (extractElement_extracts o site sound' other).mono fun m hm => ⟨hm.1, ?_⟩
        rw [hm.2, keptScripts_other other, keptScripts_other other, same]
  | .document _, sound | .text _, sound | .comment _, sound | .doctype _, sound
  | .markup _, sound => by
      rw [extract]
      · exact .pure ⟨sound, rfl⟩
      all_goals intros; contradiction

/-- Extracting functions keeps the scripts that are not compiled. -/
theorem extractAll_extracts (o : Options) (site : Site) : ∀ cs, Sound cs →
    Extracts (extractAll o site cs) fun ds => Sound ds ∧ keptScripts ds = keptScripts cs
  | [], sound => by
      rw [extractAll]
      exact .pure ⟨sound, rfl⟩
  | c :: cs, sound => by
      obtain ⟨first, behind⟩ := tidy_cons.mp sound
      rw [extractAll]
      refine (extract_extracts o site.first c first).bind ?_
      rintro d ⟨here, same⟩
      refine (extractAll_extracts o site.rest cs behind).bind ?_
      rintro ds ⟨rest, same'⟩
      refine .pure ⟨tidy_cons.mpr ⟨here, rest⟩, ?_⟩
      rw [keptScripts_cons, keptScripts_cons c, same, same']

end

theorem extractBody_adds {lossy : Prop} {o : Options} {path : Path} {p p' : Progress}
    (hpath : pageBody? p.doc = some path) (h : extractBody o path p = .ok p') :
    Adds lossy p.doc p'.doc := by
  unfold extractBody at h
  obtain ⟨t, cs, rest, page, found, -⟩ := replaced_found (f := fun _ => []) p.doc path hpath
  rw [found] at h
  dsimp only at h
  refine .of_sound fun sound => ?_
  have there := sound.siblingsAt path
  rw [found] at there
  have whole := (tidy_cons.mp there).1
  obtain ⟨tag, -, below⟩ := tidy_element.mp whole
  have other := (isSound_iff.mp tag).2.2 page
  generalize hr : StateT.run (extractAll o
    ((Site.ofDocument p.doc).mapPath (seenFrom path)).first cs) {} = r at h
  cases r with
  | error e => cases h
  | ok r =>
      obtain ⟨ds, x⟩ := r
      cases h
      obtain ⟨⟨below', same⟩, functions⟩ :=
        extractAll_extracts o _ cs below {} (fun c hc => by cases hc) ds x hr
      -- the element that is replaced is the one that was found
      obtain ⟨u, es, rest', -, found', -, replaced⟩ :=
        replaced_found (f := fun _ => [.element t ds]) p.doc path hpath
      rw [found] at found'
      cases found'
      have children : Adds lossy cs ds := .of_eq fun _ => ⟨below', same⟩
      exact (adds_replaced replaced (children.element other)).trans (adds_place functions _)

/-! ## Splitting the body off -/

/-- The tag of the body that a page is split at. -/
def bodyTag? (doc : Document) : Option Tag :=
  (findPath? (Tag.isNamed "body") doc).bind fun path =>
    match siblingsAt path doc with
    | .element t _ :: _ => some t
    | _ => none

/-- A document with the body at a place marked. -/
abbrev markPage (path : Path) (doc : Document) : Document :=
  modifyAt (Node.mapTag fun t => { t with page := true }) path doc

/-- A document with the body at a place declared to be a function. -/
abbrev declarePage (path : Path) (doc : Document) : Document :=
  modifyAt (Node.mapTag declareBody) path doc

/-- The mark makes the id of the body the name of a function. -/
theorem adds_markPage {lossy : Prop} {doc : Document} {path : Path}
    (hpath : findPath? (Tag.isNamed "body") doc = some path)
    (id : ∀ t ∈ bodyTag? doc, '<' ∉ (t.value "id").toList) :
    Adds lossy doc (markPage path doc) := by
  obtain ⟨t, cs, rest, named, found, -, replaced⟩ :=
    replaced_found (f := fun n => [n.mapTag fun t => { t with page := true }]) doc path hpath
  have noBracket := id t (by rw [bodyTag?, hpath, Option.bind_some, found]; rfl)
  refine adds_replaced replaced (.of_eq fun sound => ?_)
  obtain ⟨tag, text, below⟩ := tidy_element.mp sound
  have same : ({ t with page := true } : Tag).value "id" = t.value "id" := rfl
  have tag' : isSound { t with page := true } := by
    refine isSound_iff.mpr ⟨(isSound_iff.mp tag).1, ?_, fun _ => ?_⟩
    · simp [isSoundId, same, noBracket]
    · exact ne_of_isNamed (by decide) t named
  exact ⟨tidy_element.mpr ⟨tag', text, below⟩,
    keptScripts_retag (t := t) (u := { t with page := true }) rfl rfl cs⟩

/-- What stood in the body goes with it. -/
theorem adds_declarePage {doc : Document} {path : Path} (hpath : pageBody? doc = some path) :
    Adds True doc (declarePage path doc) := by
  refine adds_replaceAt hpath fun t cs page sound => ?_
  obtain ⟨tag, text, below⟩ := tidy_element.mp sound
  have other := (isSound_iff.mp tag).2.2 page
  rw [Node.mapTag, keptScripts_target (isTarget_declareBody other)]
  refine ⟨tidy_element.mpr ⟨isSound_declareBody tag page, ?_, below⟩, [],
    keptScripts [.element t cs], fun code hc => ?_, .inr trivial, ?_⟩
  · rw [name_declareBody]
    exact text
  · cases hc
  · rw [List.nil_append, List.append_nil]

theorem adds_appendToHtml {lossy : Prop} {n : Node} (h : Quiet [n]) (doc : Document) :
    Adds lossy doc (appendToHtml n doc) := by
  unfold appendToHtml
  split
  · rename_i path hpath
    exact adds_mapChildren hpath (ne_of_isNamed (by decide)) fun _ => h.adds_behind
  · exact h.adds_behind

/-- The stub has no directive. -/
theorem directiveWord_stub (o : Options) (t : Tag) :
    ({ name := "body", attributes := stubAttributes o t } : Tag).directiveWord = "" := by
  have none : (stubAttributes o t).find? (·.1 == "yst") = none := by
    rw [List.find?_eq_none]
    intro a ha yst
    rw [beq_iff_eq] at yst
    unfold stubAttributes Tag.without at ha
    rw [List.mem_filter, yst] at ha
    have left := ha.2
    cases hide : o.hide <;> rw [hide] at left <;> exact absurd left (by decide)
  unfold Tag.directiveWord Tag.value Tag.get?
  rw [none]
  decide +kernel

theorem quiet_stubBody (o : Options) (t : Tag) (url : String) :
    Quiet [stubBody (stubAttributes o t) url] := by
  have name : isSoundName "body" := by decide
  refine (quiet_script _ (by decide +kernel)).element (isSound_iff.mpr ⟨name, ?_, ?_⟩) (by simp)
  · rw [isSoundId, Tag.hoists, directiveWord_stub]
    rfl
  · exact fun page => by cases page

/-- A stub is not compiled, whatever it is added to. -/
theorem findPath?_appendToHtml {n : Node} {doc : Document} (h : n.findPath? isTarget = none)
    (none : findPath? isTarget doc = none) : findPath? isTarget (appendToHtml n doc) = .none := by
  have single : (findPaths isTarget [n]).length = 0 :=
    (length_findPaths_eq_zero _).mpr (findPath?_cons_eq_none.mpr ⟨h, rfl⟩)
  rw [← length_findPaths_eq_zero] at none ⊢
  unfold appendToHtml
  split
  · rename_i path hpath
    refine Nat.le_zero.mp (Nat.le_trans (length_findPaths_mapChildren 0 (fun cs => Nat.le_of_eq ?_)
      (changed_replaceAt doc path hpath)) (Nat.le_of_eq none))
    rw [length_findPaths_append, single, Nat.add_zero]
  · rw [length_findPaths_append, none, single]

theorem findPath?_stubBody (o : Options) (t : Tag) (url : String) :
    (stubBody (stubAttributes o t) url).findPath? isTarget = none := by
  refine findPath?_element_eq_none.mpr ⟨?_, rfl⟩
  rw [isTarget, Tag.isDirective, directiveWord_stub]
  rfl

theorem elim_eq_ok {α ε : Type} {x : Option α} {e : ε} {a : α}
    (h : x.elim (Except.error e) Except.ok = .ok a) : x = some a := by
  cases x with
  | none => cases h
  | some b =>
      cases h
      rfl

/-- The steps that split the body off a document: the place of the body and its
place once it is marked, what extracting functions gives, the body as it is
declared with its functions, and the page that is compiled. -/
structure SplitSteps (o : Options) (url : String) (doc : Document) (r : SplitPage) where
  path : Path
  marked : Path
  extracted : Progress
  declared : Path
  tag : Tag
  content : List Node
  rest : List Node
  name? : Option String
  codes : List String
  compiled : Progress
  path_eq : findPath? (Tag.isNamed "body") doc = some path
  marked_eq : pageBody? (prepare (markPage path doc)) = some marked
  extracted_eq : extractBody { o with split := true } marked { doc := prepare (markPage path doc) }
    = .ok extracted
  declared_eq : pageBody? extracted.doc = some declared
  body_eq : siblingsAt declared (declarePage declared extracted.doc) = .element tag content :: rest
  codes_eq : (hoist (tag.directiveOf .declare) (innerLiteral { o with split := true }
    ((Site.ofDocument (declarePage declared extracted.doc)).mapPath (seenFrom declared)).first
    (.element tag content))).run [] = .ok (name?, codes)
  compiled_eq : compileAll { o with split := true }
    { doc := place codes (declarePage declared extracted.doc)
      generated := extracted.generated + codes.length } = .ok compiled
  function_eq : r.bodyFunction = name?.getD ""
  page_eq : (r.page.doc, r.bodyScript) = takeFunctions (name?.getD "") (markBody
    (appendToHtml (stubBody (stubAttributes { o with split := true } tag) url) compiled.doc))

theorem split_steps {o : Options} {url : String} {doc : Document} {r : SplitPage}
    (h : split o url doc = .ok r) : Nonempty (SplitSteps o url doc r) := by
  unfold split at h
  dsimp only at h
  obtain ⟨path, path_eq, h⟩ := bind_eq_ok h
  obtain ⟨marked, marked_eq, h⟩ := bind_eq_ok h
  obtain ⟨extracted, extracted_eq, h⟩ := bind_eq_ok h
  obtain ⟨declared, declared_eq, h⟩ := bind_eq_ok h
  split at h
  · rename_i tag content rest body_eq
    obtain ⟨⟨name?, codes⟩, codes_eq, h⟩ := bind_eq_ok h
    obtain ⟨compiled, compiled_eq, h⟩ := bind_eq_ok h
    cases h
    exact ⟨⟨path, marked, extracted, declared, tag, content, rest, name?, codes, compiled,
      elim_eq_ok path_eq, elim_eq_ok marked_eq, extracted_eq, elim_eq_ok declared_eq, body_eq,
      codes_eq, compiled_eq, rfl, rfl⟩⟩
  · cases h

/-- The functions of the body are harmless: the body is marked, so its id has no
bracket, and it keeps its mark when it is declared. -/
theorem SplitSteps.harmless {o : Options} {url : String} {doc : Document} {r : SplitPage}
    (steps : SplitSteps o url doc r)
    (sound : Sound (declarePage steps.declared steps.extracted.doc)) :
    ∀ c ∈ steps.codes, Harmless c := by
  obtain ⟨u, ds, rest, page, -, behind, -⟩ := replaced_found
    (f := fun n => [n.mapTag declareBody]) steps.extracted.doc steps.declared steps.declared_eq
  -- the element at the place of the body is the one that was declared
  have same := steps.body_eq.symm.trans behind
  have tag : steps.tag = declareBody u := by
    have first := (List.cons.inj same).1
    rw [Node.mapTag, Node.element.injEq] at first
    exact first.1
  have there := sound.siblingsAt steps.declared
  rw [steps.body_eq] at there
  have body := tidy_singleton.mp (tidy_cons.mp there).1
  have noBracket : '<' ∉ (steps.tag.value "id").toList := by
    refine noBracket_of_page (allTags_element.mp body.1).1 ?_
    rw [tag, page_declareBody]
    exact page
  have inside := innerLiteral_keeps { o with split := true }
    ((Site.ofDocument (declarePage steps.declared steps.extracted.doc)).mapPath
      (seenFrom steps.declared)).first _ body.1 body.2
  exact (hoist_keeps inside (fun name => functionName_noBracket noBracket) []
    (fun c hc => by cases hc) _ _ steps.codes_eq).2

/-- The page before its functions are moved out: what stood in the body is gone,
and what was created is harmless. -/
theorem split_adds {o : Options} {url : String} {doc : Document} {r : SplitPage}
    (h : split o url doc = .ok r) (id : ∀ t ∈ bodyTag? doc, '<' ∉ (t.value "id").toList) :
    ∃ page, (r.page.doc, r.bodyScript) = takeFunctions r.bodyFunction page ∧ Adds True doc page ∧
      findPath? isTarget page = none := by
  obtain ⟨steps⟩ := split_steps h
  refine ⟨_, by rw [steps.function_eq]; exact steps.page_eq, ?_, ?_⟩
  · have ready : Adds True doc (prepare (markPage steps.path doc)) :=
      (adds_markPage steps.path_eq id).trans (adds_prepare _)
    have declared : Adds True doc (declarePage steps.declared steps.extracted.doc) :=
      (ready.trans (extractBody_adds steps.marked_eq steps.extracted_eq)).trans
        (adds_declarePage steps.declared_eq)
    -- from here on the body is an element with a directive, compiled with the others
    refine declared.trans (.of_sound fun sound => ?_)
    have compiled : Adds True (declarePage steps.declared steps.extracted.doc) steps.compiled.doc :=
      (adds_place (steps.harmless sound) _).trans (compileTargets_adds steps.compiled_eq)
    exact (compiled.trans (adds_appendToHtml (quiet_stubBody _ _ url) _)).trans (adds_markBody _)
  · exact findPath?_markBody (findPath?_appendToHtml (findPath?_stubBody _ _ url)
      (compileAll_done steps.compiled_eq))

/-! ## Moving functions out -/

theorem scriptTexts_of_isText {cs : List Node} (h : cs.all Node.isText) : scriptTexts cs = [] := by
  induction cs with
  | nil => rfl
  | cons c cs ih =>
      rw [List.all_cons, Bool.and_eq_true] at h
      rw [scriptTexts, ih h.2]
      cases c with
      | text s => rfl
      | element _ _ | document _ | comment _ | doctype _ | markup _ => cases h.1

mutual

theorem Node.perm_pullOut : ∀ n : Node, Node.plainScripts n →
    (scriptTexts (n.pullOut isFunctionScript).1 ++ (n.pullOut isFunctionScript).2.map textOf).Perm
      (Node.scriptTexts n)
  | .element t cs, h => by
      rw [plainScripts_element] at h
      rw [pullOut_element]
      by_cases script : t.name = "script"
      · -- a script holds text, and all of it is moved or stays
        have text := h.1 script
        rw [pullOut_of_isText text]
        split <;> simp [scriptTexts, Node.scriptTexts, script, scriptTexts_of_isText text]
      · have other : isFunctionScript t = false := by simp [isFunctionScript, script]
        have plain : (t.name == "script") = false := by simpa using script
        rw [other, Node.scriptTexts, plain]
        simpa [scriptTexts, Node.scriptTexts, script] using perm_pullOut cs h.2
  | .document cs, h => by
      rw [pullOut_document]
      simpa [scriptTexts, Node.scriptTexts] using perm_pullOut cs h
  | .text _, _ | .comment _, _ | .doctype _, _ | .markup _, _ => .refl _

/-- The scripts that are moved out and those that stay are the scripts that there
were. -/
theorem perm_pullOut : ∀ ns : List Node, plainScripts ns →
    (scriptTexts (pullOut isFunctionScript ns).1
      ++ (pullOut isFunctionScript ns).2.map textOf).Perm (scriptTexts ns)
  | [], _ => .refl _
  | n :: ns, h => by
      rw [plainScripts_cons] at h
      have first := Node.perm_pullOut n h.1
      have rest := perm_pullOut ns h.2
      rw [pullOut_cons, scriptTexts, scriptTexts_append, List.map_append]
      rw [List.perm_iff_count] at first rest ⊢
      intro s
      have := first s
      have := rest s
      simp only [List.count_append] at *
      omega

end

/-! ## Documents that were read -/

theorem isSoundName_of_isReadName {name : String} (h : isReadName name) : isSoundName name := by
  simp only [isReadName, List.all_eq_true, Bool.and_eq_true, Bool.not_eq_true'] at h
  have lower : name.toList.map Char.toLower = name.toList := by
    rw [List.map_congr_left fun c hc => toLower_of_not_isUpper (h c hc).2]
    exact List.map_id _
  have chars : name.toList.all (!endsName ·) := by
    rw [List.all_eq_true]
    exact fun c hc => by rw [(h c hc).1]; rfl
  rw [isSoundName, lower, chars, Bool.true_and, Bool.or_eq_true, beq_iff_eq, bne_iff_ne]
  by_cases script : name = "script"
  · exact .inl script
  · exact .inr fun same => script (String.toList_inj.mp same)

mutual

theorem Node.allTags_mono {p q : Tag → Bool} (h : ∀ t, p t → q t) : ∀ n : Node,
    Node.allTags p n → Node.allTags q n
  | .element t cs, hn => by
      rw [allTags_element] at hn ⊢
      exact ⟨h t hn.1, allTags_mono h cs hn.2⟩
  | .document cs, hn => allTags_mono h cs hn
  | .text _, _ | .comment _, _ | .doctype _, _ | .markup _, _ => rfl

theorem allTags_mono {p q : Tag → Bool} (h : ∀ t, p t → q t) : ∀ ns : List Node,
    allTags p ns → allTags q ns
  | [], _ => rfl
  | n :: ns, hn => by
      rw [allTags_cons] at hn ⊢
      exact ⟨Node.allTags_mono h n hn.1, allTags_mono h ns hn.2⟩

end

/-- In a document that was read, only the ids of elements that are compiled to
functions can close a script. -/
theorem sound_of_isRead {doc : Document} (h : IsRead doc) (ids : allTags isSoundId doc) :
    Sound doc := by
  have both : allTags (fun t => isReadTag t && isSoundId t) doc := by
    rw [allTags_and, h.tags, ids]
    rfl
  refine ⟨allTags_mono (fun t ht => ?_) doc both, h.scripts⟩
  rw [Bool.and_eq_true, isReadTag_iff] at ht
  obtain ⟨⟨name, unmarked, -⟩, id⟩ := ht
  refine isSound_iff.mpr ⟨isSoundName_of_isReadName name, id, fun page => ?_⟩
  rw [unmarked] at page
  cases page

/-- Of a document that was read, in which the names of functions have no bracket,
compiling creates only scripts whose texts hold no end tag of a script. All other
scripts of the page are scripts of the document outside of its directives. This
holds of a page that keeps its body, and of one whose body is split off together
with the functions that are moved to its script. -/
theorem created_scripts_stay_open (o : Options) {text : String} {doc : Document}
    (read : Document.ofText text = .ok doc) (ids : allTags isSoundId doc) :
    (∀ r, inline o doc = .ok r → ∃ created : List String,
      (∀ code ∈ created, closesScript code.toList = false) ∧
      (scriptTexts r.doc).Perm (scriptTexts (strip doc) ++ created)) ∧
    ((∀ t ∈ bodyTag? doc, '<' ∉ (t.value "id").toList) → ∀ url r, split o url doc = .ok r →
      ∃ functions created gone : List String,
        r.bodyScript = String.join (functions.map fun s => "\n" ++ Text.strip s)
          ++ writeBody r.bodyFunction ∧
        (∀ code ∈ created, closesScript code.toList = false) ∧
        (scriptTexts r.page.doc ++ functions ++ gone).Perm
          (scriptTexts (strip doc) ++ created)) := by
  have sound := sound_of_isRead (ofText_isRead read) ids
  refine ⟨fun r hr => ?_, fun id url r hr => ?_⟩
  · have adds : Adds False doc r.doc ∧ _ := inline_adds hr
    obtain ⟨-, created, gone, harmless, kept, perm⟩ := adds.1 sound
    obtain rfl := kept.resolve_right id
    rw [keptScripts_eq_scriptTexts adds.2, List.append_nil] at perm
    exact ⟨created, harmless, perm⟩
  · obtain ⟨page, taken, adds, none⟩ := split_adds hr id
    obtain ⟨sound', created, gone, harmless, -, perm⟩ := adds sound
    rw [keptScripts_eq_scriptTexts none] at perm
    obtain ⟨stays, script⟩ := Prod.mk.inj taken
    refine ⟨(pullOut isFunctionScript page).2.reverse.map textOf, created, gone, ?_, harmless, ?_⟩
    · rw [script, List.map_map]
      rfl
    · have moved := perm_pullOut page sound'.scripts
      -- the functions leave the page with the last one first
      refine List.Perm.trans (.append_right gone ?_) perm
      rw [stays, List.map_reverse]
      exact (List.Perm.append_left _ (List.reverse_perm _)).trans moved

/-- A page with a script that ends early, and an element that holds such a script
and such text. -/
def endTagPage : String :=
  "<html><body id=b><script>'</script x>'</script><p yst=live id=f title='</script>'>" ++
    "&lt;/script><script>'</script y>'</script></p></body></html>"

theorem created_scripts_stay_open_endTagPage : closesScript "'</script x>'".toList ∧
    ∃ doc, Document.ofText endTagPage = .ok doc ∧ allTags isSoundId doc ∧
      (∀ t ∈ bodyTag? doc, '<' ∉ (t.value "id").toList) ∧
      (∃ r created, inline {} doc = .ok r ∧ (∀ code ∈ created, closesScript code.toList = false) ∧
        (scriptTexts r.doc).Perm ("'</script x>'" :: created)) ∧
      ∃ r functions created gone, split {} "b.js" doc = .ok r ∧
        r.bodyScript = String.join (functions.map fun s => "\n" ++ Text.strip s)
          ++ writeBody r.bodyFunction ∧
        (∀ code ∈ created, closesScript code.toList = false) ∧
        (scriptTexts r.page.doc ++ functions ++ gone).Perm ("'</script x>'" :: created) := by
  have computed : (Document.ofText endTagPage).toOption.any fun doc => allTags isSoundId doc &&
      (bodyTag? doc).all (fun t => !(t.value "id").toList.contains '<') &&
      scriptTexts (strip doc) == ["'</script x>'"] && (inline {} doc).isOk &&
      (split {} "b.js" doc).isOk := by decide +kernel
  refine ⟨by decide +kernel, ?_⟩
  cases read : Document.ofText endTagPage with
  | error e => rw [read] at computed; cases computed
  | ok doc =>
      rw [read] at computed
      simp only [Except.toOption, Option.any_some, Bool.and_eq_true, beq_iff_eq] at computed
      obtain ⟨⟨⟨⟨ids, id⟩, kept⟩, inlined⟩, splitOff⟩ := computed
      have body : ∀ t ∈ bodyTag? doc, '<' ∉ (t.value "id").toList := by
        intro t ht
        simpa [Option.mem_def.mp ht] using id
      have stay := created_scripts_stay_open {} read ids
      rw [kept] at stay
      refine ⟨doc, rfl, ids, body, ?_, ?_⟩
      · cases hr : inline {} doc with
        | error e => rw [hr] at inlined; cases inlined
        | ok r =>
            obtain ⟨created, harmless, perm⟩ := stay.1 r hr
            exact ⟨r, created, rfl, harmless, perm⟩
      · cases hr : split {} "b.js" doc with
        | error e => rw [hr] at splitOff; cases splitOff
        | ok r =>
            obtain ⟨functions, created, gone, script, harmless, perm⟩ := stay.2 body "b.js" r hr
            exact ⟨r, functions, created, gone, rfl, script, harmless, perm⟩

end PageTemplates.Compile
