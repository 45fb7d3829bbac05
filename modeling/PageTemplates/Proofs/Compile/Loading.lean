import PageTemplates.Proofs.Compile.Compiled
import PageTemplates.Proofs.Compile.Solid
import PageTemplates.Proofs.Markup.TagReread

/-!
# Pages that load the scripts of their bodies

A page whose body was split off has a stub in its place, with a script that is loaded from
an address. The main facts:

* `loader`: the start tag of such a script;
* `split_loads`: the page of a split document has the tag of its address;
* `Loads text url`: a script of an address is read in a text;
* `compileAs_loads`: it is in the text of the page, if the address is read back from what
  is printed of it.
-/

namespace PageTemplates.Compile

open Markup Reference

/-- The start tag of a script that is loaded from an address. -/
def loader (url : String) : Tag :=
  { name := "script", attributes := [("type", some "text/javascript"), ("src", some url)] }

/-- Whether a tag is that of a script that is loaded from an address. -/
def isLoader (url : String) (t : Tag) : Bool := t == loader url

/-! ## The tag in the page -/

section

variable {p q : Tag → Bool} {f : Node → List Node} {ns ms : List Node} {url : String}

/-- Where nothing is found after a change, nothing is found in what the changed element
was replaced by, and nothing was found before unless it was in that element. -/
theorem findPath?_of_changed_none (h : Changed p f ns ms) (none : findPath? q ms = none) :
    ∃ t cs, p t ∧ findPath? q (f (.element t cs)) = .none ∧
      ((Node.element t cs).findPath? q = .none → findPath? q ns = .none) := by
  induction h with
  | @here t cs ns ht =>
      rw [findPath?_append_eq_none] at none
      exact ⟨t, cs, ht, none.1, fun own => findPath?_cons_eq_none.mpr ⟨own, none.2⟩⟩
  | inside _ _ ih =>
      rw [findPath?_cons_eq_none, findPath?_element_eq_none] at none
      obtain ⟨t, cs, ht, new, before⟩ := ih none.1.2
      exact ⟨t, cs, ht, new, fun own => findPath?_cons_eq_none.mpr
        ⟨findPath?_element_eq_none.mpr ⟨none.1.1, before own⟩, none.2⟩⟩
  | document _ ih =>
      rw [findPath?_cons_eq_none, Node.findPath?] at none
      obtain ⟨t, cs, ht, new, before⟩ := ih none.1
      exact ⟨t, cs, ht, new, fun own => findPath?_cons_eq_none.mpr ⟨before own, none.2⟩⟩
  | next _ ih =>
      rw [findPath?_cons_eq_none] at none
      obtain ⟨t, cs, ht, new, before⟩ := ih none.2
      exact ⟨t, cs, ht, new, fun own => findPath?_cons_eq_none.mpr ⟨none.1, before own⟩⟩

/-- What is added to the end of an element is found. -/
theorem findPath?_appendToHtml_ne_none {n : Node} (found : n.findPath? q ≠ none)
    (doc : Document) : findPath? q (appendToHtml n doc) ≠ none := by
  have last (cs : List Node) : findPath? q (cs ++ [n]) ≠ none := fun none =>
    found (findPath?_cons_eq_none.mp (findPath?_append_eq_none.mp none).2).1
  unfold appendToHtml
  split
  · rename_i path html
    intro none
    obtain ⟨t, cs, -, new, -⟩ := findPath?_of_changed_none (changed_replaceAt doc path html) none
    rw [Node.mapChildren, findPath?_cons_eq_none, findPath?_element_eq_none] at new
    exact last cs new.1.2
  · exact last doc

/-- The script that starts the processing takes nothing away. -/
theorem findPath?_markBody_ne_none {doc : Document} (found : findPath? q doc ≠ none) :
    findPath? q (markBody doc) ≠ none := by
  unfold markBody appendToBody
  split
  · rename_i path body
    intro none
    obtain ⟨t, cs, -, new, before⟩ :=
      findPath?_of_changed_none (changed_replaceAt doc path body) none
    rw [Node.mapChildren, findPath?_cons_eq_none, findPath?_element_eq_none,
      findPath?_append_eq_none] at new
    exact found (before (findPath?_element_eq_none.mpr ⟨new.1.1, new.1.2.1⟩))
  · exact found

theorem findPath?_of_isText {cs : List Node} (h : cs.all Node.isText) : findPath? q cs = none := by
  induction cs with
  | nil => rfl
  | cons c cs ih =>
      rw [List.all_cons, Bool.and_eq_true] at h
      refine findPath?_cons_eq_none.mpr ⟨?_, ih h.2⟩
      cases c with
      | text s => rfl
      | element _ _ | document _ | comment _ | doctype _ | markup _ => cases h.1

/-- A script that defines a function is loaded from nowhere. -/
theorem isLoader_of_isFunctionScript {t : Tag} (function : isFunctionScript t) :
    isLoader url t = false := by
  refine beq_eq_false_iff_ne.mpr ?_
  rintro rfl
  have none : (loader url).get? "yst" = none := rfl
  rw [isFunctionScript, none] at function
  simp at function

mutual

theorem Node.isLoader_pullOut : ∀ n : Node, Node.everywhere isSolid n →
    findPath? (isLoader url) (n.pullOut isFunctionScript).1 = none →
      n.findPath? (isLoader url) = none
  | .element t cs, solid, absent => by
      obtain ⟨own, below⟩ := everywhere_element.mp solid
      rw [findPath?_element_eq_none]
      rw [pullOut_element] at absent
      by_cases function : isFunctionScript t
      · -- a function that goes holds nothing but text
        have script : t.name = "script" := by
          simp only [isFunctionScript, Bool.and_eq_true, beq_iff_eq] at function
          exact function.1
        exact ⟨isLoader_of_isFunctionScript function,
          findPath?_of_isText ((isSolid_iff.mp own).1 script)⟩
      · rw [if_neg function, findPath?_cons_eq_none, findPath?_element_eq_none] at absent
        exact ⟨absent.1.1, isLoader_pullOut cs below absent.1.2⟩
  | .document cs, solid, absent => by
      rw [pullOut_document, findPath?_cons_eq_none] at absent
      exact isLoader_pullOut cs solid absent.1
  | .text _, _, _ | .comment _, _, _ | .doctype _, _, _ | .markup _, _, _ => rfl

/-- No script that is loaded goes with the functions that are moved out. -/
theorem isLoader_pullOut : ∀ ns : List Node, everywhere isSolid ns →
    findPath? (isLoader url) (pullOut isFunctionScript ns).1 = none →
      findPath? (isLoader url) ns = none
  | [], _, _ => rfl
  | n :: ns, solid, absent => by
      rw [everywhere_cons] at solid
      rw [pullOut_cons, findPath?_append_eq_none] at absent
      exact findPath?_cons_eq_none.mpr
        ⟨Node.isLoader_pullOut n solid.1 absent.1, isLoader_pullOut ns solid.2 absent.2⟩

end

end

/-- The page of a split document loads the script of its body. -/
theorem split_loads {o : Options} {url : String} {doc : Document} {r : SplitPage}
    (h : split o url doc = .ok r) (solid : everywhere isSolid doc) :
    findPath? (isLoader url) r.page.doc ≠ none ∧ everywhere isSolid r.page.doc := by
  obtain ⟨steps⟩ := split_steps h
  have solid := steps.solid solid
  have taken : r.page.doc = (pullOut isFunctionScript steps.whole).1 :=
    congrArg Prod.fst steps.page_eq
  have stub (attributes : List Attribute) :
      (stubBody attributes url).findPath? (isLoader url) ≠ none := by
    intro none
    rw [stubBody, findPath?_element_eq_none, findPath?_cons_eq_none, Node.script,
      findPath?_element_eq_none] at none
    exact absurd none.2.1.1 (by simp [isLoader, loader])
  rw [taken]
  refine ⟨fun none => ?_, (everywhere_pullOut (q := isSolid) (fun t cs own => ?_) _ solid).1⟩
  · exact findPath?_markBody_ne_none (findPath?_appendToHtml_ne_none (stub _) _)
      (isLoader_pullOut steps.whole solid none)
  · exact isSolid_of_same (fun text => congrArg Prod.fst (pullOut_of_isText text)) own

/-! ## The tag in the text -/

section

variable {family : Family} {url : String}

mutual

theorem Node.print_loader : ∀ (n : Node) (raw : Bool), Node.everywhere isSolid n →
    n.findPath? (isLoader url) ≠ none →
      ∃ before behind, n.print family raw = before ++ ((loader url).print family ++ behind)
  | .element t cs, raw, solid, found => by
      obtain ⟨own, below⟩ := everywhere_element.mp solid
      rw [Node.print]
      by_cases here : isLoader url t
      · obtain rfl : t = loader url := beq_iff_eq.mp here
        exact ⟨"", _, (String.empty_append).symm⟩
      · have inner : findPath? (isLoader url) cs ≠ none := fun none =>
          found (findPath?_element_eq_none.mpr ⟨by simpa using here, none⟩)
        -- a void element would hold nothing
        have holds : isVoid t.name = false := Bool.eq_false_iff.mpr fun void =>
          inner (by rw [(isSolid_iff.mp own).2 void]; rfl)
        obtain ⟨before, behind, printed⟩ := print_loader cs (isRawText t.name) below inner
        refine ⟨t.print family ++ before, behind ++ ("</" ++ t.name ++ ">"), ?_⟩
        rw [holds, if_neg Bool.false_ne_true, printed]
        simp only [String.append_assoc]
  | .document cs, _, solid, found => print_loader cs false solid found
  | .text _, _, _, found | .comment _, _, _, found | .doctype _, _, _, found
  | .markup _, _, _, found => absurd rfl found

/-- A script of a document that is loaded is printed. -/
theorem print_loader : ∀ (ns : List Node) (raw : Bool), everywhere isSolid ns →
    findPath? (isLoader url) ns ≠ none →
      ∃ before behind, printAll family raw ns = before ++ ((loader url).print family ++ behind)
  | [], _, _, found => absurd rfl found
  | n :: ns, raw, solid, found => by
      rw [everywhere_cons] at solid
      rw [printAll]
      by_cases here : n.findPath? (isLoader url) = none
      · have later : findPath? (isLoader url) ns ≠ none := fun none =>
          found (findPath?_cons_eq_none.mpr ⟨here, none⟩)
        obtain ⟨before, behind, printed⟩ := print_loader ns raw solid.2 later
        exact ⟨n.print family raw ++ before, behind, by rw [printed, String.append_assoc]⟩
      · obtain ⟨before, behind, printed⟩ := Node.print_loader n raw solid.1 here
        refine ⟨before, behind ++ printAll family raw ns, ?_⟩
        rw [printed]
        simp only [String.append_assoc]

end

end

/-- In a text a script is read that is loaded from an address. -/
def Loads (text : String) (url : String) : Prop :=
  ∃ before behind length, text.toList = before ++ '<' :: behind ∧
    startTag behind = .tag "script" (loader url).attributes false length

/-- The tag of a script is read back if the address is. -/
theorem startTag_loader {family : Family} {url : String} (line : '\n' ∉ url.toList)
    (back : url.toList.all (isReadBack family)) (behind : List Char) : ∃ body length,
    ((loader url).print family).toList = '<' :: body ∧
      startTag (body ++ behind) = .tag "script" (loader url).attributes false length := by
  have type : "text/javascript".toList.all (isReadBack family) := by cases family <;> decide
  have values : ∀ a ∈ (loader url).attributes, ∀ s ∈ a.2,
      ReadsAs (printedValue family s).toList s.toList := by
    rw [loader, List.forall_mem_cons, List.forall_mem_singleton]
    constructor <;> rintro _ ⟨⟩
    · exact readsAs_printedValue (by decide) type
    · exact readsAs_printedValue line back
  have names : ∀ a ∈ (loader url).attributes, a.1.toList ≠ [] ∧ a.1.toList.all isNamePart := by
    rw [loader, List.forall_mem_cons, List.forall_mem_singleton]
    refine ⟨⟨?_, ?_⟩, ?_, ?_⟩ <;> dsimp only <;> decide
  have read := startTag_printed (by decide : isElementName "script") names values behind
  refine ⟨_, _, toList_print_eq family (loader url), Eq.trans (congrArg startTag ?_) read⟩
  rw [List.append_assoc, List.append_assoc]
  rfl

/-- A document whose scripts and void elements hold what they may is printed with all the
scripts that it loads. -/
theorem loads_printAll {family : Family} {url : String} {doc : Document}
    (solid : everywhere isSolid doc) (found : findPath? (isLoader url) doc ≠ none)
    (line : '\n' ∉ url.toList) (back : url.toList.all (isReadBack family)) :
    Loads (printAll family false doc) url := by
  obtain ⟨before, behind, printed⟩ :
      ∃ before behind, printAll family false doc = before ++ ((loader url).print family ++ behind) :=
    print_loader doc false solid found
  obtain ⟨body, length, tag, read⟩ := startTag_loader line back behind.toList
  refine ⟨before.toList, body ++ behind.toList, length, ?_, read⟩
  rw [printed, String.toList_append, String.toList_append, tag, List.cons_append]

/-- The page of a template whose body is split off is written in the charset of the
template, and loads the script of the body from its address if that is read back. -/
theorem compileAs_loads {s : Settings} {charset : String} {source : Bytes} {p : Compilation}
    (mode : s.mode = .cacheSplit) (h : compileAs s charset source = .ok p) :
    ∃ family text, Family.ofName (outputCharset (some p.charset)) = .ok family ∧
      Charset.encode (outputCharset (some p.charset)) text = .ok p.artifact.content ∧
      ('\n' ∉ s.bodyUrl.toList → s.bodyUrl.toList.all (isReadBack family) →
        Loads text s.bodyUrl) := by
  unfold compileAs compileAsWith at h
  obtain ⟨text, -, h⟩ := bind_eq_ok h
  obtain ⟨doc, read, h⟩ := bind_eq_ok h
  obtain ⟨family, known, h⟩ := bind_eq_ok h
  obtain ⟨⟨page, script?⟩, compiled, h⟩ := bind_eq_ok h
  obtain ⟨content, written, h⟩ := bind_eq_ok h
  obtain ⟨bodyScript, -, h⟩ := bind_eq_ok h
  cases h
  have read := mapError_eq_ok read
  have known := mapError_eq_ok known
  have compiled := mapError_eq_ok compiled
  have written := mapError_eq_ok written
  unfold compileDocument at compiled
  rw [mode] at compiled
  obtain ⟨r, split, compiled⟩ := bind_eq_ok compiled
  cases compiled
  obtain ⟨found, solid⟩ := split_loads split (solid_ofText read)
  unfold Document.encode at written
  rw [known] at written
  have content : (Artifact.ofContent content).content = content := by
    cases found : Model.locate? content <;> simp [Artifact.ofContent, found]
  exact ⟨family, _, known, written.trans (congrArg Except.ok content.symm),
    loads_printAll solid found⟩

end PageTemplates.Compile
