import PageTemplates.Proofs.Compile.CleanPage
import PageTemplates.Proofs.Compile.Collecting

/-!
# Where the scripts of a page come from

When the body of a page is split off, scripts that define functions are moved to the script of
the body, and the others stay in the page. All of them are scripts of the template or were
created. The main facts:

* `isKnown defined others`: a script has one of the texts `defined` if it defines functions, and
  one of the texts `others` if it does not;
* `known_self`: where this holds of a template;
* `known_prepare`, `known_place`, `known_replaceFirst`, `known_withIds`: the steps of compiling
  keep it, as far as the texts of the scripts that they create are among these;
* `takeFunctions_known`: what it says of the page and of the script of the body.
-/

namespace PageTemplates.Compile

open Markup

/-- Whether the text of a script is among the texts `defined` if it is a script that defines
functions, and among the texts `others` if it is another one. -/
def isKnown (defined others : List String) (t : Tag) (cs : List Node) : Bool :=
  t.name != "script" ||
    (if isFunctionScript t then defined else others).contains (textOf (.element t cs))

section

variable {defined others : List String} {t : Tag} {cs ds ns ms : List Node} {p : Tag → Bool}
  {f : Node → List Node} {doc : Document}

theorem isKnown_iff : isKnown defined others t cs ↔ (t.name = "script" →
    textOf (.element t cs) ∈ if isFunctionScript t then defined else others) := by
  simp only [isKnown, Bool.or_eq_true, bne_iff_ne, List.contains_iff_mem]
  exact Decidable.imp_iff_not_or.symm

theorem isKnown_of_name (other : t.name ≠ "script") : isKnown defined others t cs :=
  isKnown_iff.mpr fun script => absurd script other

/-- Of what a script holds, only the text matters. -/
theorem isKnown_of_text (same : textOf (.element t ds) = textOf (.element t cs))
    (known : isKnown defined others t cs) : isKnown defined others t ds := by
  rw [isKnown_iff, same]
  exact isKnown_iff.mp known

/-! ## Changes -/

/-- The element that is changed is as every such element is. -/
theorem changed_of_everywhere {q : Tag → List Node → Bool} {r : Tag → Bool}
    (h : Changed p f ns ms) (such : ∀ t cs, q t cs → p t → r t) (all : everywhere q ns) :
    Changed (fun t => p t && r t) f ns ms := by
  induction h with
  | here hp =>
      rw [everywhere_cons, everywhere_element] at all
      exact .here (by rw [hp, such _ _ all.1.1 hp]; rfl)
  | inside hp _ ih =>
      rw [everywhere_cons, everywhere_element] at all
      exact .inside (by rw [hp]; rfl) (ih all.1.2)
  | document _ ih => exact .document (ih (everywhere_cons.mp all).1)
  | next _ ih => exact .next (ih (everywhere_cons.mp all).2)

/-- A change of elements keeps the texts around them. -/
theorem known_of_changed (h : Changed p f ns ms)
    (elements : ∀ t cs, p t → (f (.element t cs)).all Node.isElement)
    (here : ∀ t cs, p t → everywhere (isKnown defined others) cs →
      everywhere (isKnown defined others) (f (.element t cs)))
    (known : everywhere (isKnown defined others) ns) : everywhere (isKnown defined others) ms :=
  everywhere_of_changed h (fun t cs hp _ => here t cs hp)
    (fun _ _ _ below own _ => isKnown_of_text (textOf_of_changed elements below) own) known

/-- Elements are changed to elements that are no scripts. -/
theorem known_of_changed_element {g : Node → Node} (h : Changed p (fun n => [g n]) ns ms)
    (elements : ∀ t cs, p t → ∃ u ds, g (.element t cs) = .element u ds ∧ u.name ≠ "script" ∧
      (everywhere (isKnown defined others) cs → everywhere (isKnown defined others) ds))
    (known : everywhere (isKnown defined others) ns) : everywhere (isKnown defined others) ms := by
  refine known_of_changed h (fun t cs hp => ?_) (fun t cs hp below => ?_) known
  · obtain ⟨u, ds, same, -⟩ := elements t cs hp
    rw [same]
    rfl
  · obtain ⟨u, ds, same, other, inside⟩ := elements t cs hp
    rw [same]
    exact everywhere_cons.mpr ⟨everywhere_element.mpr ⟨isKnown_of_name other, inside below⟩, rfl⟩

theorem known_mapChildren {g : List Node → List Node} {name : String} {path : Path}
    (found : findPath? (Tag.isNamed name) doc = some path) (other : name ≠ "script")
    (below : ∀ cs, everywhere (isKnown defined others) cs →
      everywhere (isKnown defined others) (g cs))
    (known : everywhere (isKnown defined others) doc) :
    everywhere (isKnown defined others) (modifyAt (Node.mapChildren g) path doc) :=
  known_of_changed_element (changed_replaceAt doc path found)
    (fun t cs named => ⟨t, g cs, rfl, ne_of_isNamed other t named, below cs⟩) known

/-! ## Readying a document -/

theorem textOf_cons (n : Node) (ns : List Node) :
    textOf (.element t (n :: ns)) = textOf (.element t [n]) ++ textOf (.element t ns) :=
  textOf_append [n] ns

/-- Grouping leaves the text directly inside an element. -/
theorem textOf_group (opened : Bool) (cs : List Node) :
    textOf (.element t (group opened cs)) = textOf (.element t cs) := by
  induction cs generalizing opened with
  | nil => rfl
  | cons c cs ih =>
      obtain ⟨g, opened', hg, same⟩ := group_cons opened c cs
      have here : textOf (.element t [g (Node.group c)]) = textOf (.element t [c]) := by
        cases c with
        | element u ds =>
            rw [Node.group]
            rcases hg with rfl | ⟨rfl, -⟩ <;> split <;> rfl
        | document _ | text _ | comment _ | doctype _ | markup _ =>
            rcases hg with rfl | ⟨rfl, -⟩ <;> rfl
      rw [same, textOf_cons, here, ih, ← textOf_cons]

/-- A branch of a choice defines no functions, whether it is joined or not. -/
theorem isKnown_join (branch : t.isCompapply) (known : isKnown defined others t cs) :
    isKnown defined others (join t) cs := by
  have text : textOf (.element (join t) cs) = textOf (.element t cs) := rfl
  rw [isKnown_iff, isFunctionScript_of_isCompapply branch] at known
  rw [isKnown_iff, isFunctionScript_join, name_join, text]
  exact known

theorem known_moveDirectives (name : String)
    (known : everywhere (isKnown defined others) doc) :
    everywhere (isKnown defined others) (moveDirectives name doc) := by
  unfold Markup.moveDirectives moveToEndOfHead
  split
  · exact known
  · rename_i path found
    refine known_mapChildren found (by decide) (fun cs below => ?_) known
    exact everywhere_append.mpr (everywhere_pullOut
      (fun t cs own => isKnown_of_text (textOf_pullOut cs) own) cs below)

theorem known_prepare (known : everywhere (isKnown defined others) doc) :
    everywhere (isKnown defined others) (prepare doc) := by
  refine everywhere_group (q := isKnown defined others) (fun t cs own => ?_)
    (fun t cs branch own => isKnown_join branch own) false _
    (known_moveDirectives "meta" (known_moveDirectives "title" known))
  exact isKnown_of_text (textOf_group false cs) own

mutual

theorem Node.known_withIds (k : Nat) : ∀ n : Node, Node.everywhere (isKnown defined others) n →
      Node.everywhere (isKnown defined others) (Node.withIds k n).1
  | .element t cs, known => by
      rw [Node.withIds]
      split
      · exact known
      · rename_i script
        have other : t.name ≠ "script" := by simpa using script
        rw [everywhere_element] at known
        have below := known_withIds k cs known.2
        unfold elementWithId
        split
        · refine everywhere_element.mpr ⟨isKnown_of_name ?_, below⟩
          rwa [name_set]
        · exact everywhere_element.mpr ⟨isKnown_of_name other, below⟩
  | .document _, known => known
  | .text _, _ | .comment _, _ | .doctype _, _ | .markup _, _ => rfl

/-- Ids that are made up leave the scripts. -/
theorem known_withIds (k : Nat) : ∀ cs : List Node, everywhere (isKnown defined others) cs →
    everywhere (isKnown defined others) (withIds k cs).1
  | [], _ => rfl
  | c :: cs, known => by
      rw [everywhere_cons] at known
      rw [withIds]
      exact everywhere_cons.mpr ⟨Node.known_withIds k c known.1, known_withIds _ cs known.2⟩

end

/-! ## Scripts that are created -/

theorem known_script {attributes : List Attribute} {code : String}
    (h : code ∈ if isFunctionScript { name := "script", attributes } then defined else others) :
    Node.everywhere (isKnown defined others) (.script attributes code) := by
  have text : textOf (.element { name := "script", attributes } [.text code]) = code := by
    simp [textOf, Node.children]
  exact everywhere_element.mpr ⟨isKnown_iff.mpr fun _ => by rwa [text], rfl⟩

theorem known_functions {codes : List String} (h : codes ⊆ defined) :
    everywhere (isKnown defined others) (codes.map functionScript) := by
  induction codes with
  | nil => rfl
  | cons code codes ih =>
      rw [List.cons_subset] at h
      exact everywhere_cons.mpr ⟨known_script h.1, ih h.2⟩

theorem known_place {codes : List String} (h : codes ⊆ defined)
    (known : everywhere (isKnown defined others) doc) :
    everywhere (isKnown defined others) (place codes doc) := by
  have functions : everywhere (isKnown defined others) (codes.map functionScript) :=
    known_functions h
  have head : Node.everywhere (isKnown defined others) (newHead (codes.map functionScript)) :=
    everywhere_element.mpr ⟨isKnown_of_name (by decide), functions⟩
  refine place_cases codes doc ?nothing ?head ?html ?bare
  case nothing => exact fun _ => known
  case head =>
    exact fun path found => known_mapChildren found (by decide)
      (fun cs below => everywhere_append.mpr ⟨below, functions⟩) known
  case html =>
    exact fun _ path found => known_mapChildren found (by decide)
      (fun cs => everywhere_insertBeforeElement head) known
  case bare => exact fun _ => everywhere_insertBeforeElement head known

theorem known_replaceFirst {code? : Option String} {p : Progress}
    (h : ∀ code ∈ code?, writeText code ∈ others)
    (known : everywhere (isKnown defined others) p.doc) :
    everywhere (isKnown defined others) (replaceFirst code? p).doc := by
  unfold replaceFirst
  split
  · exact known
  · rename_i path found
    refine known_of_changed (changed_replaceAt p.doc path found) (fun _ _ _ => ?_)
      (fun _ _ _ _ => ?_) known
    · cases code? <;> rfl
    · cases code? with
      | none => rfl
      | some code => exact everywhere_cons.mpr ⟨known_script (h code rfl), rfl⟩

theorem known_markBody (h : startCode ∈ others) (known : everywhere (isKnown defined others) doc) :
    everywhere (isKnown defined others) (markBody doc) := by
  unfold markBody appendToBody
  split
  · rename_i path found
    refine known_mapChildren found (by decide) (fun cs below => ?_) known
    exact everywhere_append.mpr ⟨below, everywhere_cons.mpr ⟨known_script h, rfl⟩⟩
  · exact known

/-- The text of the script in a stub. -/
def loaderText : String := "// Move the .js file where it should be, and change src attribute "

theorem known_appendToHtml {attributes : List Attribute} {url : String} (h : loaderText ∈ others)
    (known : everywhere (isKnown defined others) doc) :
    everywhere (isKnown defined others) (appendToHtml (stubBody attributes url) doc) := by
  have stub : everywhere (isKnown defined others) [stubBody attributes url] :=
    everywhere_cons.mpr ⟨everywhere_element.mpr ⟨isKnown_of_name (by simp),
      everywhere_cons.mpr ⟨known_script h, rfl⟩⟩, rfl⟩
  unfold appendToHtml
  split
  · rename_i path found
    exact known_mapChildren found (by decide)
      (fun cs below => everywhere_append.mpr ⟨below, stub⟩) known
  · exact everywhere_append.mpr ⟨known, stub⟩

/-! ## Scripts of a template and of a page -/

mutual

theorem Node.known_self : ∀ n : Node, Node.functionTexts (fun _ => false) n ⊆ defined →
    Node.scriptTexts n ⊆ others → Node.everywhere (isKnown defined others) n
  | .element t cs, functions, scripts => by
      rw [Node.functionTexts, if_neg Bool.false_ne_true, List.append_subset] at functions
      rw [Node.scriptTexts, List.append_subset] at scripts
      refine everywhere_element.mpr
        ⟨isKnown_iff.mpr fun script => ?_, known_self cs functions.2 scripts.2⟩
      split
      · rename_i function
        rw [if_pos function] at functions
        exact functions.1 (List.mem_singleton_self _)
      · rw [if_pos (beq_iff_eq.mpr script)] at scripts
        exact scripts.1 (List.mem_singleton_self _)
  | .document cs, functions, scripts => known_self cs functions scripts
  | .text _, _, _ | .comment _, _, _ | .doctype _, _, _ | .markup _, _, _ => rfl

/-- The texts of its own scripts. -/
theorem known_self : ∀ ns : List Node, functionTexts (fun _ => false) ns ⊆ defined →
    scriptTexts ns ⊆ others → everywhere (isKnown defined others) ns
  | [], _, _ => rfl
  | n :: ns, functions, scripts => by
      rw [functionTexts, List.append_subset] at functions
      rw [scriptTexts, List.append_subset] at scripts
      exact everywhere_cons.mpr ⟨Node.known_self n functions.1 scripts.1,
        known_self ns functions.2 scripts.2⟩

end

mutual

theorem Node.scriptTexts_known : ∀ n : Node, Node.everywhere (isKnown defined others) n →
    Node.allTags (fun t => !isFunctionScript t) n → Node.scriptTexts n ⊆ others
  | .element t cs, known, unwritten => by
      rw [everywhere_element] at known
      rw [allTags_element, Bool.not_eq_true'] at unwritten
      rw [Node.scriptTexts, List.append_subset]
      refine ⟨?_, scriptTexts_known cs known.2 unwritten.2⟩
      split
      · rename_i script
        have text := isKnown_iff.mp known.1 (beq_iff_eq.mp script)
        rw [unwritten.1, if_neg Bool.false_ne_true] at text
        exact List.cons_subset.mpr ⟨text, List.nil_subset _⟩
      · exact List.nil_subset _
  | .document cs, known, unwritten => scriptTexts_known cs known unwritten
  | .text _, _, _ | .comment _, _, _ | .doctype _, _, _ | .markup _, _, _ => List.nil_subset _

/-- Where no script defines functions, all scripts are other ones. -/
theorem scriptTexts_known : ∀ ns : List Node, everywhere (isKnown defined others) ns →
    allTags (fun t => !isFunctionScript t) ns → scriptTexts ns ⊆ others
  | [], _, _ => List.nil_subset _
  | n :: ns, known, unwritten => by
      rw [everywhere_cons] at known
      rw [allTags_cons] at unwritten
      rw [scriptTexts, List.append_subset]
      exact ⟨Node.scriptTexts_known n known.1 unwritten.1, scriptTexts_known ns known.2 unwritten.2⟩

end

mutual

theorem Node.allTags_kept : ∀ n : Node, allTags (fun t => !p t) (n.pullOut p).1
  | .element t cs => by
      rw [pullOut_element]
      split
      · rfl
      · rename_i stays
        exact allTags_cons.mpr ⟨allTags_element.mpr ⟨by simpa using stays, allTags_kept cs⟩, rfl⟩
  | .document cs => by
      rw [pullOut_document]
      exact allTags_cons.mpr ⟨allTags_kept cs, rfl⟩
  | .text _ | .comment _ | .doctype _ | .markup _ => rfl

/-- What is pulled out is not left. -/
theorem allTags_kept : ∀ ns : List Node, allTags (fun t => !p t) (pullOut p ns).1
  | [] => rfl
  | n :: ns => by
      rw [pullOut_cons, allTags_append, Node.allTags_kept n, allTags_kept ns]
      rfl

end

/-- When the functions are moved out of a document, the page has other scripts, and the script
of the body is made of scripts that define functions. -/
theorem takeFunctions_known (function : String)
    (known : everywhere (isKnown defined others) doc) :
    scriptTexts (takeFunctions function doc).1 ⊆ others ∧
      functionTexts (fun _ => false) doc ⊆ defined ∧
      (takeFunctions function doc).2
        = bodyFunctions (functionTexts (fun _ => false) doc).reverse ++ writeBody function := by
  obtain ⟨kept, pulled⟩ := everywhere_pullOut (p := isFunctionScript)
    (fun t cs own => isKnown_of_text (textOf_pullOut cs) own) doc known
  refine ⟨scriptTexts_known _ kept (allTags_kept doc), ?_, ?_⟩
  · rw [functionTexts_eq_pullOut]
    intro s hs
    obtain ⟨n, hn, rfl⟩ := List.mem_map.mp hs
    obtain ⟨t, cs, rfl, script⟩ := exists_of_pulled _ n hn
    have own := ((isDeep_everywhere (isKnown defined others)).forall_iff _).mp pulled _ hn
    have text := isKnown_iff.mp (everywhere_element.mp own).1
      (beq_iff_eq.mp ((Bool.and_eq_true _ _).mp script).1)
    rwa [if_pos script] at text
  · rw [functionTexts_eq_pullOut, bodyFunctions, ← List.map_reverse, List.map_map]
    rfl

end

end PageTemplates.Compile
