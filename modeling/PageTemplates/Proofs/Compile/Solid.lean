import PageTemplates.Proofs.Compile.HeadFunctions
import PageTemplates.Proofs.Markup.Building
import PageTemplates.Proofs.Markup.Parsed

/-!
# Elements that hold what they may

Scripts hold only text and void elements nothing, so that all elements are printed. The
main facts:

* `isSolid`: the condition on an element and what it holds;
* `solid_ofText`: a document that was read satisfies it everywhere;
* `solid_of_changed`: a change keeps it, if it does where the element was that is changed;
* `SplitSteps.solid`: so does compiling a document whose body is split off.
-/

namespace PageTemplates.Compile

open Markup

/-- Whether an element holds only text if it is a script, and nothing if it is void. -/
def isSolid (t : Tag) (cs : List Node) : Bool :=
  (t.name != "script" || cs.all Node.isText) && (!isVoid t.name || cs.isEmpty)

section

variable {t u : Tag} {cs ds ns ms : List Node} {p : Tag → Bool} {f : Node → List Node}
  {doc : Document}

theorem isSolid_iff : isSolid t cs ↔
    (t.name = "script" → cs.all Node.isText) ∧ (isVoid t.name → cs = []) := by
  simp only [isSolid, Bool.and_eq_true, Bool.or_eq_true, bne_iff_ne, Bool.not_eq_true',
    List.isEmpty_iff, ← Decidable.imp_iff_not_or, ← Bool.not_eq_true]

theorem isSolid_congr (name : u.name = t.name) : isSolid u cs = isSolid t cs := by
  rw [isSolid, isSolid, name]

/-- An element that is neither a script nor void may hold anything. -/
theorem isSolid_of_name {name : String} (other : name ≠ "script") (holds : isVoid name = false)
    (named : t.name = name) (cs : List Node) : isSolid t cs := by
  rw [isSolid_iff, named, holds]
  exact ⟨fun script => absurd script other, fun void => absurd void Bool.false_ne_true⟩

/-- What an element holds may be changed if text alone is not. -/
theorem isSolid_of_same (same : cs.all Node.isText → ds = cs) (solid : isSolid t cs) :
    isSolid t ds := by
  rw [isSolid_iff] at solid ⊢
  refine ⟨fun script => ?_, fun void => ?_⟩
  · rw [same (solid.1 script)]
    exact solid.1 script
  · rw [same (by rw [solid.2 void]; rfl), solid.2 void]

/-- Where an element is changed there is one, so that this is neither in a script nor in a
void element. -/
theorem isSolid_of_changed (h : Changed p f cs ds) (solid : isSolid t cs) : isSolid t ds := by
  have holds := not_isText_of_changed h
  rw [isSolid_iff] at solid ⊢
  refine ⟨fun script => absurd (solid.1 script) holds, fun void => ?_⟩
  rw [solid.2 void] at holds
  exact absurd rfl holds

/-- A change keeps elements solid if what an element is replaced by is. -/
theorem solid_of_changed (h : Changed p f ns ms)
    (here : ∀ t cs, p t → isSolid t cs → everywhere isSolid cs →
      everywhere isSolid (f (.element t cs)))
    (solid : everywhere isSolid ns) : everywhere isSolid ms :=
  everywhere_of_changed h here (fun _ _ _ below own _ => isSolid_of_changed below own) solid

/-- What an element holds is changed that may hold anything. -/
theorem solid_mapChildren {g : List Node → List Node} {name : String} {path : Path}
    (found : findPath? (Tag.isNamed name) doc = some path) (other : name ≠ "script")
    (holds : isVoid name = false) (below : ∀ cs, everywhere isSolid cs → everywhere isSolid (g cs))
    (solid : everywhere isSolid doc) :
    everywhere isSolid (modifyAt (Node.mapChildren g) path doc) := by
  refine solid_of_changed (changed_replaceAt doc path found) (fun t cs named _ inner => ?_) solid
  exact everywhere_cons.mpr ⟨everywhere_element.mpr
    ⟨isSolid_of_name other holds (beq_iff_eq.mp named) _, below cs inner⟩, rfl⟩

/-- The tag of an element is changed but for its name. -/
theorem solid_mapTag {g : Tag → Tag} {path : Path} (found : findPath? p doc = some path)
    (name : ∀ t, (g t).name = t.name) (solid : everywhere isSolid doc) :
    everywhere isSolid (modifyAt (Node.mapTag g) path doc) := by
  refine solid_of_changed (changed_replaceAt doc path found) (fun t cs _ own inner => ?_) solid
  refine everywhere_cons.mpr ⟨everywhere_element.mpr ⟨?_, inner⟩, rfl⟩
  rwa [isSolid_congr (name t)]

theorem solid_script (attributes : List Attribute) (code : String) :
    Node.everywhere isSolid (.script attributes code) := by
  have holds : isVoid "script" = false := by decide
  refine everywhere_element.mpr ⟨isSolid_iff.mpr ⟨fun _ => rfl, fun void => ?_⟩, rfl⟩
  exact absurd (holds.symm.trans void) Bool.false_ne_true

end

/-! ## Documents that were read -/

mutual

theorem Node.everywhere_plainScripts : ∀ n : Node, Node.plainScripts n →
    Node.everywhere (fun t cs => t.name != "script" || cs.all Node.isText) n
  | .element t cs, h => by
      rw [Node.plainScripts, Bool.and_eq_true] at h
      exact everywhere_element.mpr ⟨h.1, everywhere_plainScripts cs h.2⟩
  | .document cs, h => everywhere_plainScripts cs h
  | .text _, _ | .comment _, _ | .doctype _, _ | .markup _, _ => rfl

theorem everywhere_plainScripts : ∀ ns : List Node, plainScripts ns →
    everywhere (fun t cs => t.name != "script" || cs.all Node.isText) ns
  | [], _ => rfl
  | n :: ns, h => by
      rw [plainScripts_cons] at h
      exact everywhere_cons.mpr
        ⟨Node.everywhere_plainScripts n h.1, everywhere_plainScripts ns h.2⟩

end

theorem solid_ofText {text : String} {doc : Document} (read : Document.ofText text = .ok doc) :
    everywhere isSolid doc := by
  have scripts := everywhere_plainScripts doc (ofText_isRead read).scripts
  obtain ⟨es, -, rfl⟩ := map_eq_ok read
  have made : WellMade (({} : Builder).run es) :=
    WellMade.run ⟨.nil, fun o ho => absurd ho List.not_mem_nil⟩ es
  refine everywhere_imp (fun t cs plain well => ?_) _ scripts made.finish.below
  rw [isWellMade, Bool.and_eq_true] at well
  rw [isSolid, Bool.and_eq_true]
  exact ⟨plain, well.1⟩

/-! ## Steps of compiling -/

section

variable {doc : Document}

theorem group_of_isText {cs : List Node} (h : cs.all Node.isText) : group false cs = cs := by
  induction cs with
  | nil => rfl
  | cons c cs ih =>
      rw [List.all_cons, Bool.and_eq_true] at h
      cases c with
      | text s =>
          rw [group_false_other (by simp [Node.isCompapply]), ih h.2]
          rfl
      | element _ _ | document _ | comment _ | doctype _ | markup _ => cases h.1

theorem solid_moveDirectives (name : String) (solid : everywhere isSolid doc) :
    everywhere isSolid (moveDirectives name doc) := by
  unfold Markup.moveDirectives moveToEndOfHead
  split
  · exact solid
  · rename_i path found
    refine solid_mapChildren found (by decide) (by decide) (fun cs below => ?_) solid
    refine everywhere_append.mpr (everywhere_pullOut (q := isSolid) (fun t cs => ?_) cs below)
    exact isSolid_of_same fun text => congrArg Prod.fst (pullOut_of_isText text)

theorem solid_prepare (solid : everywhere isSolid doc) : everywhere isSolid (prepare doc) := by
  refine everywhere_group (q := isSolid) (fun t cs => isSolid_of_same group_of_isText)
    (fun t cs _ own => ?_) false _
    (solid_moveDirectives "meta" (solid_moveDirectives "title" solid))
  rwa [isSolid_congr (name_join t)]

theorem solid_functions (codes : List String) :
    everywhere isSolid (codes.map functionScript) := by
  induction codes with
  | nil => rfl
  | cons code codes ih => exact everywhere_cons.mpr ⟨solid_script _ code, ih⟩

theorem solid_place (codes : List String) (solid : everywhere isSolid doc) :
    everywhere isSolid (place codes doc) := by
  have head : Node.everywhere isSolid (newHead (codes.map functionScript)) :=
    everywhere_element.mpr ⟨isSolid_of_name (by decide : "head" ≠ "script") (by decide) rfl _,
      solid_functions codes⟩
  refine place_cases codes doc ?nothing ?head ?html ?bare
  case nothing => exact fun _ => solid
  case head =>
    exact fun path found => solid_mapChildren found (by decide) (by decide)
      (fun cs below => everywhere_append.mpr ⟨below, solid_functions codes⟩) solid
  case html =>
    exact fun _ path found => solid_mapChildren found (by decide) (by decide)
      (fun cs => everywhere_insertBeforeElement head) solid
  case bare => exact fun _ => everywhere_insertBeforeElement head solid

theorem solid_replaceFirst (code? : Option String) {p : Progress}
    (solid : everywhere isSolid p.doc) : everywhere isSolid (replaceFirst code? p).doc := by
  unfold replaceFirst
  split
  · exact solid
  · rename_i path found
    refine solid_of_changed (changed_replaceAt p.doc path found) (fun _ _ _ _ _ => ?_) solid
    cases code? with
    | none => rfl
    | some code => exact everywhere_cons.mpr ⟨solid_script _ _, rfl⟩

theorem solid_compileTargets {o : Options} {n : Nat} {p p' : Progress}
    (h : compileTargets o n p = .ok p') (solid : everywhere isSolid p.doc) :
    everywhere isSolid p'.doc := by
  replace h := targetRun_of_ok h
  induction h with
  | stop p => exact solid
  | @step _ _ _ _ code? _ coded _ ih =>
      obtain ⟨codes, -, rfl⟩ := codeAt_eq_ok coded
      exact ih (solid_replaceFirst code? (solid_place codes solid))

/-- A part of the page is added to the end of an element that may hold it, or of the
document. -/
theorem solid_appendToHtml {n : Node} (new : Node.everywhere isSolid n)
    (solid : everywhere isSolid doc) : everywhere isSolid (appendToHtml n doc) := by
  unfold appendToHtml
  split
  · rename_i path found
    exact solid_mapChildren found (by decide) (by decide)
      (fun cs below => everywhere_append.mpr ⟨below, everywhere_cons.mpr ⟨new, rfl⟩⟩) solid
  · exact everywhere_append.mpr ⟨solid, everywhere_cons.mpr ⟨new, rfl⟩⟩

theorem solid_markBody (solid : everywhere isSolid doc) : everywhere isSolid (markBody doc) := by
  unfold markBody appendToBody
  split
  · rename_i path found
    exact solid_mapChildren found (by decide) (by decide)
      (fun cs below => everywhere_append.mpr
        ⟨below, everywhere_cons.mpr ⟨solid_script _ _, rfl⟩⟩) solid
  · exact solid

end

/-! ## Extracting functions -/

/-- A result satisfies `Q`, whatever was extracted before. -/
abbrev Results {α : Type} (g : Extract α) (Q : α → Prop) : Prop := Preserves (fun _ => True) g Q

theorem withId_results (t : Tag) : Results (withId t) fun u => u.name = t.name := by
  unfold withId
  split
  · exact .pure rfl
  · refine Preserves.get.bind fun x _ => ?_
    exact (Preserves.update fun _ _ => trivial).bind fun _ _ => .pure (name_set _ _ _)

/-- An element keeps its name and what it holds when its function is extracted. -/
theorem extractElement_results (o : Options) (site : Site) (t : Tag) (cs : List Node) :
    Results (extractElement o site t cs) fun n => ∃ u, u.name = t.name ∧ n = .element u cs := by
  unfold extractElement
  split
  · exact .pure ⟨t, rfl, rfl⟩
  refine Preserves.get.bind fun x _ => (Preserves.lift fun d _ => trivial).bind fun d _ => ?_
  split
  · exact .pure ⟨t, rfl, rfl⟩
  · refine (withId_results t).bind fun u name => ?_
    refine Preserves.bind (P := fun _ => True) (fun _ _ _ _ _ => ⟨trivial, trivial⟩) fun _ _ => ?_
    exact .pure ⟨u, name, rfl⟩

mutual

theorem extract_results (o : Options) (site : Site) : ∀ n, Node.everywhere isSolid n →
    Results (extract o site n) fun m => Node.everywhere isSolid m ∧ (Node.isText n → m = n)
  | .element t cs, solid => by
      obtain ⟨own, below⟩ := everywhere_element.mp solid
      rw [extract]
      split
      · exact .pure ⟨solid, fun _ => rfl⟩
      · refine (extractAll_results o site cs below).bind ?_
        rintro ds ⟨below', same⟩
        refine (extractElement_results o site t ds).mono ?_
        rintro _ ⟨u, name, rfl⟩
        refine ⟨everywhere_element.mpr ⟨?_, below'⟩, fun text => by cases text⟩
        rw [isSolid_congr name]
        exact isSolid_of_same same own
  | .document _, solid | .text _, solid | .comment _, solid | .doctype _, solid
  | .markup _, solid => by
      rw [extract]
      · exact .pure ⟨solid, fun _ => rfl⟩
      all_goals intros; contradiction

/-- Extracting functions keeps elements solid. -/
theorem extractAll_results (o : Options) (site : Site) : ∀ cs, everywhere isSolid cs →
    Results (extractAll o site cs)
      fun ds => everywhere isSolid ds ∧ (cs.all Node.isText → ds = cs)
  | [], _ => by
      rw [extractAll]
      exact .pure ⟨rfl, fun _ => rfl⟩
  | c :: cs, solid => by
      obtain ⟨first, behind⟩ := everywhere_cons.mp solid
      rw [extractAll]
      refine (extract_results o site.first c first).bind ?_
      rintro d ⟨here, same⟩
      refine (extractAll_results o site.rest cs behind).bind ?_
      rintro ds ⟨rest, same'⟩
      refine .pure ⟨everywhere_cons.mpr ⟨here, rest⟩, fun text => ?_⟩
      rw [List.all_cons, Bool.and_eq_true] at text
      rw [same text.1, same' text.2]

end

theorem solid_extractBody {o : Options} {path : Path} {p p' : Progress}
    (found : pageBody? p.doc = some path) (h : extractBody o path p = .ok p')
    (solid : everywhere isSolid p.doc) : everywhere isSolid p'.doc := by
  unfold extractBody at h
  obtain ⟨t, cs, rest, -, here, -⟩ := replaced_found (f := fun _ => []) p.doc path found
  rw [here] at h
  dsimp only at h
  have there := (isDeep_everywhere isSolid).siblingsAt path solid
  rw [here] at there
  obtain ⟨own, below⟩ := everywhere_element.mp (everywhere_cons.mp there).1
  obtain ⟨⟨ds, x⟩, extracted, h⟩ := bind_eq_ok h
  cases h
  obtain ⟨⟨below', same⟩, -⟩ := extractAll_results o _ cs below {} trivial ds x extracted
  refine solid_place x.codes ?_
  refine solid_of_changed (changed_replaceAt p.doc path found) (fun _ _ _ _ _ => ?_) solid
  exact everywhere_cons.mpr ⟨everywhere_element.mpr ⟨isSolid_of_same same own, below'⟩, rfl⟩

/-! ## Splitting the body off -/

/-- The page before the functions are moved out of it. -/
def SplitSteps.whole {o : Options} {url : String} {doc : Document} {r : SplitPage}
    (steps : SplitSteps o url doc r) : Document :=
  markBody (appendToHtml (stubBody (stubAttributes { o with split := true } steps.tag) url)
    steps.compiled.doc)

theorem solid_stubBody (attributes : List Attribute) (url : String) :
    Node.everywhere isSolid (stubBody attributes url) :=
  everywhere_element.mpr ⟨isSolid_of_name (by decide : "body" ≠ "script") (by decide) rfl _,
    everywhere_cons.mpr ⟨solid_script _ _, rfl⟩⟩

/-- All steps keep elements solid. -/
theorem SplitSteps.solid {o : Options} {url : String} {doc : Document} {r : SplitPage}
    (steps : SplitSteps o url doc r) (solid : everywhere isSolid doc) :
    everywhere isSolid steps.whole := by
  have marked : everywhere isSolid (markPage steps.path doc) :=
    solid_mapTag steps.path_eq (fun _ => rfl) solid
  have ready := solid_prepare marked
  have extracted := solid_extractBody steps.marked_eq steps.extracted_eq ready
  have declared := solid_mapTag steps.declared_eq name_declareBody extracted
  have compiled := solid_compileTargets steps.compiled_eq (solid_place steps.codes declared)
  exact solid_markBody (solid_appendToHtml (solid_stubBody _ url) compiled)

end PageTemplates.Compile
