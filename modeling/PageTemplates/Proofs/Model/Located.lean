import PageTemplates.Proofs.Compile.Plain
import PageTemplates.Proofs.Markup.Change
import PageTemplates.Proofs.Model.Passed

/-!
# The model section of a printed page

The bytes of a printed page are searched for the model section without regard to
what they were printed from. Still the section that is found is the first script
of the page with the mark. The main facts:

* `isModelTag`: the tags of model scripts;
* `Searchable`: the pages this is said of;
* `printedBefore`, `extent`: where the element at a place is printed;
* `printAll_extent`: what is printed there is the element;
* `locateFrom_printAll`: what the search finds in printed siblings;
* `locate?_encode`: what it finds in a page.
-/

namespace PageTemplates.Model

open Markup
open Compile (allTags plainScripts emptyVoids)
open Text (Free)

/-! ## Pages that can be searched -/

/-- Whether a tag is that of a model script. -/
def isModelTag (t : Tag) : Bool := t.name == "script" && t.attributes.any isModelAttribute

mutual

/-- The text and the markup that a node begins with, as they are printed; `behind`
stands directly behind the node. -/
def Node.lead (raw : Bool) (behind : String) : Node → String
  | .text s => (Node.text s).print .utf raw ++ behind
  | .markup s => s ++ behind
  | .document cs => lead false behind cs
  | .element _ _ => ""
  | .comment _ => ""
  | .doctype _ => ""

/-- The text and the markup that siblings begin with. -/
def lead (raw : Bool) (behind : String) : List Node → String
  | [] => behind
  | c :: cs => Node.lead raw (lead raw behind cs) c

end

mutual

/-- Whether no script tag is written at or below a node in a comment, in a doctype,
or in text or markup with the text and markup that directly follow it. -/
def Node.hidesNoScript (raw : Bool) (behind : String) : Node → Bool
  | .element t cs => hidesNoScript (isRawText t.name) "" cs
  | .document cs => hidesNoScript false behind cs
  | .text s => !hasScriptTag ((Node.text s).print .utf raw ++ behind)
  | .markup s => !hasScriptTag (s ++ behind)
  | .comment s => !hasScriptTag s
  | .doctype s => !hasScriptTag s

/-- Whether no script tag is written in this way among siblings, or below. -/
def hidesNoScript (raw : Bool) (behind : String) : List Node → Bool
  | [] => true
  | c :: cs => Node.hidesNoScript raw (lead raw behind cs) c && hidesNoScript raw behind cs

end

/-- Siblings that can be searched once they are printed: with plain tags, scripts
that hold only text, void elements that hold nothing, and no script tag that is
written as text or markup. -/
structure Searchable (raw : Bool) (behind : String) (ns : List Node) : Prop where
  tags : allTags isPlainTag ns
  scripts : plainScripts ns
  voids : emptyVoids ns
  texts : hidesNoScript raw behind ns

/-! ## Where an element is printed -/

/-- What is printed before the node at a place. -/
def printedBefore (raw : Bool) : Path → List Node → String
  | [], _ => ""
  | i :: path, ns =>
      printAll .utf raw (ns.take i) ++
        match ns[i]? with
        | some (.element t cs) =>
            if path.isEmpty then ""
            else t.print .utf ++ printedBefore (isRawText t.name) path cs
        | some (.document cs) => printedBefore false path cs
        | _ => ""

def size (s : String) : Nat := (Utf8.encode s.toList).length

/-- From where to where the element at a place is printed, in bytes. -/
def extent (raw : Bool) (ns : List Node) (path : Path) : Nat × Nat :=
  let start := size (printedBefore raw path ns)
  (start, start + size (printAll .utf false ((siblingsAt path ns).take 1)))

theorem length_searched (s : String) : (searched s).length = size s := length_lowered _

theorem size_append (s t : String) : size (s ++ t) = size s + size t := by
  simp [size, Utf8.encode]

@[simp] theorem size_empty : size "" = 0 := rfl

theorem printedBefore_shift (raw : Bool) (n : Node) (ns : List Node) {path : Path} (h : path ≠ []) :
    printedBefore raw path.shift (n :: ns) = n.print .utf raw ++ printedBefore raw path ns := by
  cases path with
  | nil => exact absurd rfl h
  | cons i path =>
      rw [Path.shift, printedBefore, printedBefore, List.take_succ_cons, List.getElem?_cons_succ,
        printAll, String.append_assoc]

theorem printedBefore_first (raw : Bool) (n : Node) (ns : List Node) (path : Path) :
    printedBefore raw (0 :: path) (n :: ns) = printedBefore raw (0 :: path) [n] := by
  simp [printedBefore]

theorem printedBefore_element (raw : Bool) (t : Tag) (cs : List Node) {path : Path}
    (h : path ≠ []) :
    printedBefore raw (0 :: path) [.element t cs]
      = t.print .utf ++ printedBefore (isRawText t.name) path cs := by
  have nonempty : path.isEmpty = false := by simpa using h
  simp [printedBefore, printAll, nonempty]

theorem printedBefore_document (raw : Bool) (cs : List Node) (path : Path) :
    printedBefore raw (0 :: path) [.document cs] = printedBefore false path cs := by
  simp [printedBefore, printAll]

theorem take_siblingsAt_first (n : Node) (ns : List Node) (path : Path) :
    (siblingsAt (0 :: path) (n :: ns)).take 1 = (siblingsAt (0 :: path) [n]).take 1 := by
  cases path with
  | nil => rfl
  | cons i path => rw [siblingsAt_first _ _ (by simp), siblingsAt_first _ _ (by simp)]

mutual

theorem Node.printed_found {p : Tag → Bool} : ∀ (n : Node) (raw : Bool) (path : Path),
    Compile.Node.emptyVoids n → n.findPath? p = some path → ∃ t cs behind, p t ∧
      (siblingsAt (0 :: path) [n]).take 1 = [.element t cs] ∧
      n.print .utf raw = printedBefore raw (0 :: path) [n] ++
        ((Node.element t cs).print .utf false ++ behind)
  | .element t cs, raw, path, voids, h => by
      simp only [Compile.Node.emptyVoids, Bool.and_eq_true, Bool.or_eq_true,
        Bool.not_eq_true', List.isEmpty_iff] at voids
      rw [Node.findPath?] at h
      split at h
      · rename_i ht
        cases h
        exact ⟨t, cs, "", ht, rfl, by simp [printedBefore, printAll, Node.print]⟩
      · have inner := findPath?_ne_nil h
        obtain ⟨u, ds, behind, hu, target, printed⟩ :=
          printed_found cs (isRawText t.name) path voids.2 h
        -- a void element holds nothing, so nothing was found in one
        have open' : isVoid t.name = false := by
          refine voids.1.resolve_right ?_
          rintro rfl
          cases h
        refine ⟨u, ds, behind ++ "</" ++ t.name ++ ">", hu, ?_, ?_⟩
        · rw [siblingsAt_first _ _ inner]
          exact target
        · rw [printedBefore_element raw t cs inner, Node.print, open', printed]
          simp [String.append_assoc]
  | .document cs, raw, path, voids, h => by
      have inner := findPath?_ne_nil h
      obtain ⟨u, ds, behind, hu, target, printed⟩ := printed_found cs false path voids h
      refine ⟨u, ds, behind, hu, ?_, ?_⟩
      · rw [siblingsAt_first _ _ inner]
        exact target
      · rw [printedBefore_document, Node.print, printed]
  | .text _, _, _, _, h | .comment _, _, _, _, h | .doctype _, _, _, _, h
  | .markup _, _, _, _, h => by cases h

/-- The element that was found is printed behind what is printed before it. -/
theorem printed_found {p : Tag → Bool} : ∀ (ns : List Node) (raw : Bool) (path : Path),
    emptyVoids ns → findPath? p ns = some path → ∃ t cs behind, p t ∧
      (siblingsAt path ns).take 1 = [.element t cs] ∧
      printAll .utf raw ns = printedBefore raw path ns ++
        ((Node.element t cs).print .utf false ++ behind)
  | [], _, _, _, h => by cases h
  | n :: ns, raw, path, voids, h => by
      rw [emptyVoids, Bool.and_eq_true] at voids
      rw [findPath?] at h
      split at h
      · rename_i path' hn
        cases h
        obtain ⟨u, ds, behind, hu, target, printed⟩ := Node.printed_found n raw path' voids.1 hn
        refine ⟨u, ds, behind ++ printAll .utf raw ns, hu, ?_, ?_⟩
        · rw [take_siblingsAt_first, target]
        · rw [printAll, printed, printedBefore_first raw n ns path']
          simp [String.append_assoc]
      · obtain ⟨path', hpath, rfl⟩ := Option.map_eq_some_iff.mp h
        have inner := findPath?_ne_nil hpath
        obtain ⟨u, ds, behind, hu, target, printed⟩ := printed_found ns raw path' voids.2 hpath
        refine ⟨u, ds, behind, hu, ?_, ?_⟩
        · rw [siblingsAt_shift n ns inner, target]
        · rw [printedBefore_shift raw n ns inner, printAll, printed]
          simp [String.append_assoc]

end

/-- What is printed from where to where an element is printed is the element. -/
theorem encode_extent {p : Tag → Bool} {doc : Document} {path : Path} (voids : emptyVoids doc)
    (h : findPath? p doc = some path) : ∃ t cs, p t ∧
      (siblingsAt path doc).take 1 = [.element t cs] ∧
      ((Utf8.encode (printAll .utf false doc).toList).take (extent false doc path).2).drop
          (extent false doc path).1
        = Utf8.encode ((Node.element t cs).print .utf false).toList := by
  obtain ⟨t, cs, behind, ht, target, printed⟩ := printed_found doc false path voids h
  refine ⟨t, cs, ht, target, ?_⟩
  have bytes : Utf8.encode (printAll .utf false doc).toList
      = Utf8.encode (printedBefore false path doc).toList ++
        (Utf8.encode ((Node.element t cs).print .utf false).toList ++
          Utf8.encode behind.toList) := by
    rw [printed]
    simp [Utf8.encode]
  have one : printAll .utf false [Node.element t cs] = (Node.element t cs).print .utf false := by
    rw [printAll, printAll, String.append_empty]
  rw [extent, target, one, bytes, ← List.append_assoc, List.take_left' (by simp [size])]
  exact List.drop_left

/-! ## What the search finds -/

/-- The search of printed siblings finds the first model script among them, where
it is printed, and goes on behind them if there is none. -/
def Finds (raw : Bool) (ns : List Node) (rest : Bytes) : Prop :=
  ∀ pos, locateFrom pos (searched (printAll .utf raw ns) ++ rest) =
    match findPath? isModelTag ns with
    | some path => some (pos + (extent raw ns path).1, pos + (extent raw ns path).2)
    | none => locateFrom (pos + size (printAll .utf raw ns)) rest

variable {raw : Bool} {ns : List Node} {rest : Bytes}

theorem printAll_singleton (raw : Bool) (n : Node) : printAll .utf raw [n] = n.print .utf raw := by
  rw [printAll, printAll, String.append_empty]

theorem findPath?_singleton (n : Node) :
    findPath? isModelTag [n] = (n.findPath? isModelTag).map (0 :: ·) := by
  rw [findPath?]
  cases n.findPath? isModelTag <;> rfl

theorem finds_nil : Finds raw [] rest := fun _ => rfl

/-- Siblings are searched one after the other. -/
theorem finds_cons {n : Node} (first : Finds raw [n] (searched (printAll .utf raw ns) ++ rest))
    (later : Finds raw ns rest) : Finds raw (n :: ns) rest := by
  intro pos
  have here := first pos
  rw [findPath?_singleton, printAll_singleton] at here
  rw [printAll, searched_append, List.append_assoc, here, findPath?]
  cases n.findPath? isModelTag with
  | some path =>
      simp only [Option.map_some, extent, take_siblingsAt_first n ns path,
        printedBefore_first raw n ns path]
  | none =>
      simp only [Option.map_none]
      rw [later, size_append]
      cases found : findPath? isModelTag ns with
      | none => simp [Nat.add_assoc]
      | some path =>
          have inner := findPath?_ne_nil found
          simp only [Option.map_some, extent, printedBefore_shift raw n ns inner,
            siblingsAt_shift n ns inner, size_append, Nat.add_assoc]

/-- A node without elements that opens no script is passed over. -/
theorem finds_leaf {n : Node} (none : n.findPath? isModelTag = none)
    (free : Free scriptOpen (searched (n.print .utf raw)) rest) : Finds raw [n] rest := by
  intro pos
  rw [findPath?_singleton, none, printAll_singleton, locateFrom_append_of_free free,
    length_searched]
  rfl

theorem finds_document {cs : List Node} (inside : Finds false cs rest) :
    Finds raw [.document cs] rest := by
  intro pos
  rw [findPath?_singleton, printAll_singleton, Node.print, inside, Node.findPath?]
  cases found : findPath? isModelTag cs with
  | none => rfl
  | some path =>
      have inner := findPath?_ne_nil found
      simp only [Option.map_some, extent, printedBefore_document, siblingsAt_first _ _ inner,
        Node.children]

/-- An element that is no script is passed over up to what it holds. -/
theorem finds_element {t : Tag} {cs : List Node} (h : isPlainTag t) (other : t.name ≠ "script")
    (void : isVoid t.name → cs = [])
    (inside : Finds (isRawText t.name) cs (searched ("</" ++ t.name ++ ">") ++ rest)) :
    Finds raw [.element t cs] rest := by
  have start := fun rest => free_startTag h other rest
  have parts : t.name.toList.all isNamePart := by
    simp only [isPlainTag, Bool.and_eq_true] at h
    exact h.1.1
  have unmarked : isModelTag t = false := by simp [isModelTag, other]
  cases hvoid : isVoid t.name with
  | true =>
      refine finds_leaf ?_ ?_
      · rw [Node.findPath?, unmarked, void hvoid]
        rfl
      · rw [Node.print, hvoid, if_pos rfl, String.append_empty]
        exact start rest
  | false =>
      intro pos
      -- no section begins in the start tag, so the search goes on in what the element holds
      have whole : printAll .utf raw [.element t cs] = t.print .utf ++
          (printAll .utf (isRawText t.name) cs ++ ("</" ++ t.name ++ ">")) := by
        rw [printAll_singleton, Node.print, hvoid]
        simp [String.append_assoc]
      rw [whole, searched_append, searched_append, List.append_assoc, List.append_assoc,
        locateFrom_append_of_free (start _), inside, findPath?_singleton, Node.findPath?, unmarked,
        length_searched, if_neg (by simp)]
      cases found : findPath? isModelTag cs with
      | none =>
          simp only [Option.map_none]
          rw [locateFrom_append_of_free (free_endTag parts rest), length_searched]
          simp only [size_append, Nat.add_assoc]
      | some path =>
          have inner := findPath?_ne_nil found
          simp only [Option.map_some, extent, printedBefore_element raw t cs inner,
            siblingsAt_first _ _ inner, Node.children, size_append, Nat.add_assoc]

/-- A script is found just when its tag has the mark. -/
theorem finds_script {t : Tag} {cs : List Node} (h : isPlainTag t) (script : t.name = "script")
    (text : cs.all Compile.Node.isText) (plain : hasScriptTag (printAll .utf true cs) = false) :
    Finds raw [.element t cs] rest := by
  intro pos
  have whole : ∀ raw, printAll .utf raw [.element t cs]
      = t.print .utf ++ (printAll .utf true cs ++ "</" ++ t.name ++ ">") := by
    have kinds : isVoid "script" = false ∧ isRawText "script" = true := by decide
    intro raw
    rw [printAll_singleton, Node.print, script, kinds.1, kinds.2]
    rfl
  -- text holds no elements, so the script itself is the only candidate
  have below : findPath? isModelTag cs = none := by
    clear plain whole
    induction cs with
    | nil => rfl
    | cons c cs ih =>
        rw [List.all_cons, Bool.and_eq_true] at text
        refine findPath?_cons_eq_none.mpr ⟨?_, ih text.2⟩
        cases c with
        | text s => rfl
        | element t cs => cases text.1
        | document cs => cases text.1
        | comment s => cases text.1
        | doctype s => cases text.1
        | markup s => cases text.1
  have mark : isModelTag t = t.attributes.any isModelAttribute := by simp [isModelTag, script]
  rw [whole raw, locateFrom_script h script plain, findPath?_singleton, Node.findPath?, mark, below,
    length_searched]
  cases t.attributes.any isModelAttribute with
  | true =>
      have here : extent raw [.element t cs] [0]
          = (0, size (t.print .utf ++ (printAll .utf true cs ++ "</" ++ t.name ++ ">"))) := by
        simp [extent, printedBefore, siblingsAt, whole, printAll]
      simp [here]
  | false => rfl

/-! ## Trees -/

theorem searched_comment (s : String) : searched ("<!--" ++ s ++ "-->")
    = 0x3C :: 0x21 :: [0x2D, 0x2D] ++ (searched s ++ 0x2D :: [0x2D, 0x3E]) := by
  have front : searched "<!--" = [0x3C, 0x21, 0x2D, 0x2D] := by decide
  have back : searched "-->" = [0x2D, 0x2D, 0x3E] := by decide
  rw [searched_append, searched_append, front, back, List.append_assoc]

theorem searched_doctype (s : String) : searched ("<!DOCTYPE " ++ s ++ ">")
    = 0x3C :: 0x21 :: Bytes.ofAscii "doctype " ++ (searched s ++ [0x3E]) := by
  have front : searched "<!DOCTYPE " = 0x3C :: 0x21 :: Bytes.ofAscii "doctype " := by decide
  have back : searched ">" = [0x3E] := by decide
  rw [searched_append, searched_append, front, back, List.append_assoc]

mutual

/-- What is printed of a node goes on with the text and the markup it begins with,
then with a tag. -/
theorem Node.searched_lead : ∀ (n : Node) (raw : Bool) (behind : String) (rest : Bytes),
    StopsWord rest → ∃ rest', searched (n.print .utf raw) ++ (searched behind ++ rest)
      = searched (Node.lead raw behind n) ++ rest' ∧ StopsWord rest'
  | .element t cs, raw, behind, rest, _ => by
      refine ⟨_, by rw [Node.lead, searched_empty, List.nil_append], fun b hb => ?_⟩
      rw [Node.print, searched_append, searched_startTag] at hb
      exact (Option.some.inj hb).symm
  | .document cs, raw, behind, rest, h => searched_lead cs false behind rest h
  | .text s, raw, behind, rest, h => ⟨rest, by simp [Node.lead], h⟩
  | .markup s, raw, behind, rest, h => ⟨rest, by simp [Node.lead, Node.print], h⟩
  | .comment s, raw, behind, rest, _ => by
      refine ⟨_, by rw [Node.lead, searched_empty, List.nil_append], fun b hb => ?_⟩
      rw [Node.print, searched_comment] at hb
      exact (Option.some.inj hb).symm
  | .doctype s, raw, behind, rest, _ => by
      refine ⟨_, by rw [Node.lead, searched_empty, List.nil_append], fun b hb => ?_⟩
      rw [Node.print, searched_doctype] at hb
      exact (Option.some.inj hb).symm

/-- What is printed of siblings goes on in the same way. -/
theorem searched_lead : ∀ (ns : List Node) (raw : Bool) (behind : String) (rest : Bytes),
    StopsWord rest → ∃ rest', searched (printAll .utf raw ns) ++ (searched behind ++ rest)
      = searched (lead raw behind ns) ++ rest' ∧ StopsWord rest'
  | [], raw, behind, rest, h => ⟨rest, by simp [printAll, lead], h⟩
  | n :: ns, raw, behind, rest, h => by
      obtain ⟨rest', same, h'⟩ := searched_lead ns raw behind rest h
      obtain ⟨rest'', same', h''⟩ := Node.searched_lead n raw (lead raw behind ns) rest' h'
      refine ⟨rest'', ?_, h''⟩
      rw [printAll, searched_append, List.append_assoc, same, same', lead]

end

/-- The text of a script is looked at as a whole. -/
theorem hasScriptTag_text {cs : List Node} (text : cs.all Compile.Node.isText)
    (h : hidesNoScript true "" cs) : hasScriptTag (printAll .utf true cs) = false := by
  -- nothing but text follows, so all of it is printed in the lead
  have whole : ∀ cs : List Node, cs.all Compile.Node.isText →
      lead true "" cs = printAll .utf true cs := by
    intro cs
    induction cs with
    | nil => exact fun _ => rfl
    | cons c cs ih =>
        intro text
        rw [List.all_cons, Bool.and_eq_true] at text
        cases c with
        | text s => rw [lead, Node.lead, ih text.2, printAll]
        | element t cs => cases text.1
        | document cs => cases text.1
        | comment s => cases text.1
        | doctype s => cases text.1
        | markup s => cases text.1
  cases cs with
  | nil => decide
  | cons c cs =>
      rw [List.all_cons, Bool.and_eq_true] at text
      rw [hidesNoScript, Bool.and_eq_true] at h
      cases c with
      | text s =>
          rw [Node.hidesNoScript, whole cs text.2] at h
          rw [printAll]
          simpa using h.1
      | element t cs => cases text.1
      | document cs => cases text.1
      | comment s => cases text.1
      | doctype s => cases text.1
      | markup s => cases text.1

theorem Searchable.cons {behind : String} {n : Node} (h : Searchable raw behind (n :: ns)) :
    Searchable raw (lead raw behind ns) [n] ∧ Searchable raw behind ns := by
  obtain ⟨tags, scripts, voids, texts⟩ := h
  simp only [allTags, plainScripts, emptyVoids, hidesNoScript, Bool.and_eq_true]
    at tags scripts voids texts
  constructor
  · constructor <;> simp [allTags, plainScripts, emptyVoids, hidesNoScript, lead, *]
  · exact ⟨tags.2, scripts.2, voids.2, texts.2⟩

theorem Searchable.document {behind : String} {cs : List Node}
    (h : Searchable raw behind [.document cs]) : Searchable false behind cs := by
  obtain ⟨tags, scripts, voids, texts⟩ := h
  constructor
  · simpa [allTags, Compile.Node.allTags] using tags
  · simpa [plainScripts, Compile.Node.plainScripts] using scripts
  · simpa [emptyVoids, Compile.Node.emptyVoids] using voids
  · simpa [hidesNoScript, Node.hidesNoScript, lead] using texts

theorem Searchable.element {behind : String} {t : Tag} {cs : List Node}
    (h : Searchable raw behind [.element t cs]) :
    isPlainTag t ∧ (t.name = "script" → cs.all Compile.Node.isText) ∧
      (isVoid t.name → cs = []) ∧ Searchable (isRawText t.name) "" cs := by
  obtain ⟨tags, scripts, voids, texts⟩ := h
  simp only [allTags, Compile.Node.allTags, Bool.and_eq_true, and_true] at tags
  rw [Compile.plainScripts_cons, Compile.plainScripts_element] at scripts
  simp only [emptyVoids, Compile.Node.emptyVoids, Bool.and_eq_true, Bool.or_eq_true,
    Bool.not_eq_true', List.isEmpty_iff, and_true] at voids
  simp only [hidesNoScript, Node.hidesNoScript, Bool.and_true] at texts
  refine ⟨tags.1, scripts.1.1, fun void => ?_, tags.2, scripts.1.2, voids.2, texts⟩
  exact voids.1.resolve_left (by simp [void])

mutual

theorem Node.finds_print : ∀ (n : Node) (raw : Bool) (behind : String) (rest : Bytes),
    Searchable raw behind [n] → StopsWord rest → Finds raw [n] (searched behind ++ rest)
  | .element t cs, raw, behind, rest, h, hr => by
      obtain ⟨plain, text, void, inside⟩ := h.element
      by_cases script : t.name = "script"
      · have kind : isRawText t.name = true := by simp [isRawText, script]
        exact finds_script plain script (text script)
          (hasScriptTag_text (text script) (kind ▸ inside.texts))
      -- the end tag begins with a bracket, so no word goes on across it
      · have stops : StopsWord (searched ("</" ++ t.name ++ ">") ++ (searched behind ++ rest)) := by
          intro b hb
          rw [searched_endTag] at hb
          exact (Option.some.inj hb).symm
        have below := finds_printAll cs (isRawText t.name) "" _ inside stops
        rw [searched_empty, List.nil_append] at below
        exact finds_element plain script void below
  | .document cs, raw, behind, rest, h, hr =>
      finds_document (finds_printAll cs false behind rest h.document hr)
  | .text s, raw, behind, rest, h, hr => by
      refine finds_leaf rfl (free_text ?_ hr)
      simpa [hidesNoScript, Node.hidesNoScript, lead] using h.texts
  | .markup s, raw, behind, rest, h, hr => by
      refine finds_leaf rfl (free_text ?_ hr)
      simpa [hidesNoScript, Node.hidesNoScript, lead, Node.print] using h.texts
  | .comment s, raw, behind, rest, h, hr => by
      have plain : hasScriptTag s = false := by
        simpa [hidesNoScript, Node.hidesNoScript] using h.texts
      refine finds_leaf rfl ?_
      rw [Node.print, searched_comment]
      exact free_declared plain (by decide) (by decide) (by decide) _
  | .doctype s, raw, behind, rest, h, hr => by
      have plain : hasScriptTag s = false := by
        simpa [hidesNoScript, Node.hidesNoScript] using h.texts
      refine finds_leaf rfl ?_
      rw [Node.print, searched_doctype]
      exact free_declared plain (by decide) (by decide) (by decide) _

/-- The search of printed siblings finds the first model script among them. -/
theorem finds_printAll : ∀ (ns : List Node) (raw : Bool) (behind : String) (rest : Bytes),
    Searchable raw behind ns → StopsWord rest → Finds raw ns (searched behind ++ rest)
  | [], raw, behind, rest, h, hr => finds_nil
  | n :: ns, raw, behind, rest, h, hr => by
      obtain ⟨first, later⟩ := h.cons
      obtain ⟨rest', same, hr'⟩ := searched_lead ns raw behind rest hr
      have here := Node.finds_print n raw (lead raw behind ns) rest' first hr'
      rw [← same] at here
      exact finds_cons here (finds_printAll ns raw behind rest later hr)

end

/-- In the bytes of a page the model section is found where its first model script
is printed, and none is found in a page without one. -/
theorem locate?_encode {doc : Document} (h : Searchable false "" doc) :
    ∃ bytes, Document.encode "utf-8" doc = .ok bytes ∧
      locate? bytes = (findPath? isModelTag doc).map (extent false doc) ∧
      ∀ path s e, findPath? isModelTag doc = some path → locate? bytes = some (s, e) →
        ∃ t cs, isModelTag t ∧ (siblingsAt path doc).take 1 = [.element t cs] ∧
          (bytes.take e).drop s = Utf8.encode ((Node.element t cs).print .utf false).toList := by
  have found := finds_printAll doc false "" [] h (by simp [StopsWord]) 0
  rw [searched_empty, List.append_nil, List.append_nil] at found
  have located : locate? (Utf8.encode (printAll .utf false doc).toList)
      = (findPath? isModelTag doc).map (extent false doc) := by
    rw [locate?, show Bytes.lower _ = searched (printAll .utf false doc) from rfl, found]
    cases findPath? isModelTag doc with
    | none => rfl
    | some path => simp
  refine ⟨_, encode_utf8 doc, located, fun path s e hpath here => ?_⟩
  rw [located, hpath, Option.map_some, Option.some.injEq] at here
  obtain ⟨t, cs, ht, target, printed⟩ := encode_extent h.voids hpath
  rw [here] at printed
  exact ⟨t, cs, ht, target, printed⟩

/-- A page with script tags in a value and in text, a script without the mark, and
one with it behind characters of several bytes. -/
def markedPage : Document :=
  [.doctype "html", .comment "yst=model",
   .element { name := "p", attributes := [("title", some "<script yst=model>")] }
     [.text "é <script yst=model></script>"],
   .element { name := "script", attributes := [("yst", none), ("type", some "model")] }
     [.text "a </scr"],
   .element { name := "div" }
     [.element { name := "script", attributes := [("yst", some ""), ("yst", some "MoDel")] }
       [.text "1 < 2", .text " > <b>"]],
   .markup "<?x?>", .text "script"]

theorem locate?_encode_markedPage : Searchable false "" markedPage ∧
    ∃ bytes, Document.encode "utf-8" markedPage = .ok bytes ∧ locate? bytes = some (159, 206) := by
  have searchable : Searchable false "" markedPage :=
    ⟨by decide +kernel, by decide +kernel, by decide +kernel, by decide +kernel⟩
  obtain ⟨bytes, encoded, located, -⟩ := locate?_encode searchable
  refine ⟨searchable, bytes, encoded, ?_⟩
  rw [located]
  decide +kernel

mutual

/-- Whether no script tag is written at or below a node in a single comment,
doctype, markup or text of a script or a style. -/
def Node.writesNoScript (raw : Bool) : Node → Bool
  | .element t cs => writesNoScript (isRawText t.name) cs
  | .document cs => writesNoScript false cs
  | .text s => !raw || !hasScriptTag s
  | .comment s | .doctype s | .markup s => !hasScriptTag s

/-- Whether no script tag is written in this way among siblings, or below. -/
def writesNoScript (raw : Bool) : List Node → Bool
  | [] => true
  | c :: cs => Node.writesNoScript raw c && writesNoScript raw cs

end

/-- A script tag that is made up of markup side by side. -/
def splitMarkup : Document := [.markup "<scr", .markup "ipt yst=model></scr", .markup "ipt>"]

/-- A model script that holds a script tag made up of text side by side. -/
def splitText : Document :=
  [.element { name := "script", attributes := [("yst", some "model")] }
    [.text "<scr", .text "ipt"]]

/-- A script with the value `model` under no name. -/
def unnamedValue : Document :=
  [.element { name := "script", attributes := [("yst", none), ("", some "model")] } []]

/-- Looking at nodes one by one, and allowing for empty names, is not enough: a
section is found in pages without a model script, and none in a page with one. -/
theorem locate?_encode_sideBySide :
    (allTags isPlainTag splitMarkup ∧ plainScripts splitMarkup ∧ emptyVoids splitMarkup ∧
      writesNoScript false splitMarkup ∧ findPath? isModelTag splitMarkup = none ∧
      ∃ bytes, Document.encode "utf-8" splitMarkup = .ok bytes ∧ locate? bytes = some (0, 27)) ∧
    (allTags isPlainTag splitText ∧ plainScripts splitText ∧ emptyVoids splitText ∧
      writesNoScript false splitText ∧
      (findPath? isModelTag splitText).map (extent false splitText) = some (0, 36) ∧
      ∃ bytes, Document.encode "utf-8" splitText = .ok bytes ∧ locate? bytes = none) ∧
    (plainScripts unnamedValue ∧ emptyVoids unnamedValue ∧ writesNoScript false unnamedValue ∧
      findPath? isModelTag unnamedValue = none ∧
      ∃ bytes, Document.encode "utf-8" unnamedValue = .ok bytes ∧
        locate? bytes = some (0, 30)) := by
  refine ⟨⟨by decide, by decide, by decide, by decide +kernel, rfl, ?_⟩,
    ⟨by decide, by decide, by decide, by decide +kernel, by decide +kernel, ?_⟩,
    by decide, by decide, by decide, rfl, ?_⟩
  · exact ⟨_, encode_utf8 splitMarkup, by decide +kernel⟩
  · exact ⟨_, encode_utf8 splitText, by decide +kernel⟩
  · exact ⟨_, encode_utf8 unnamedValue, by decide +kernel⟩

end PageTemplates.Model
