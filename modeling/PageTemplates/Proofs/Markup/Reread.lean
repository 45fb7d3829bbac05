import PageTemplates.Markup.Build
import PageTemplates.Proofs.Compile.Grouping
import PageTemplates.Proofs.Markup.TagReread

/-!
# Reading printed documents

A document that is printed and read again is the same document. The main facts:

* `isReprintable`: the documents this is said of;
* `eventsFrom_printAll`: printed siblings are read as the events that spell them;
* `run_spelled`: from these events the siblings are built;
* `ofText_printAll`: both together.
-/

namespace PageTemplates.Markup

open Text (isBlank find?)
open Compile.Node (isText)

/-! ## Documents that can be read back -/

mutual

/-- Whether a node is an element, a text that is not empty, or a comment without
hyphens. -/
def Node.isReprintable : Node → Bool
  | .element t cs => isReprintableTag t && (!isVoid t.name || cs.isEmpty) && isReprintable cs
  | .text s => !s.toList.isEmpty
  | .comment s => !s.toList.contains '-'
  | _ => false

/-- Whether siblings can be read back: no two texts among them stand side by
side. -/
def isReprintable : List Node → Bool
  | [] => true
  | c :: cs => c.isReprintable && !(isText c && cs.head?.any isText) && isReprintable cs

end

mutual

/-- The events that spell a node. -/
def Node.spelled : Node → List Event
  | .element t cs =>
      .start t.name t.attributes ::
        if isVoid t.name then [] else spelled cs ++ [.endTag t.name]
  | .text s => [.data s]
  | .comment s => [.comment s]
  | _ => []

/-- The events that spell siblings. -/
def spelled : List Node → List Event
  | [] => []
  | c :: cs => c.spelled ++ spelled cs

end

/-! ## One step of reading -/

/-- What belongs to what was read is skipped. -/
theorem eventsFrom_drop (raw? : Option String) (skip : Nat) (cs : List Char) :
    eventsFrom raw? skip cs = eventsFrom raw? 0 (cs.drop skip) := by
  induction cs generalizing skip with
  | nil => rw [List.drop_nil, eventsFrom, eventsFrom]
  | cons c cs ih =>
      cases skip with
      | zero => rfl
      | succ skip => rw [eventsFrom, ih, List.drop_succ_cons]

theorem eventsFrom_append (raw? : Option String) (xs cs : List Char) :
    eventsFrom raw? xs.length (xs ++ cs) = eventsFrom raw? 0 cs := by
  rw [eventsFrom_drop, List.drop_left]

/-- Markup that is no start tag of a raw text is read, then what is behind it. -/
theorem eventsFrom_of_tagStep {xs cs : List Char} {es : List Event}
    (h : tagStep (xs ++ cs) = .events es (xs.length + 1)) (markup : rawTextAfter es = none) :
    eventsFrom none 0 ('<' :: (xs ++ cs)) = (eventsFrom none 0 cs).map (es ++ ·) := by
  rw [eventsFrom, h, beq_self_eq_true, if_pos rfl]
  simp only [markup, Nat.add_sub_cancel, eventsFrom_append]

theorem find?_bracket {xs : List Char} (h : '>' ∉ xs) (rest : List Char) :
    find? ['>'] (xs ++ '>' :: rest) = some xs.length := by
  induction xs with
  | nil => simp [find?]
  | cons x xs ih =>
      rw [List.mem_cons, not_or] at h
      simp [find?, ih h.2, h.1]

theorem tagStep_letter {c : Char} (h : isLetter c) (cs : List Char) :
    tagStep (c :: cs) = startTagStep (c :: cs) := by
  unfold tagStep
  split
  · rename_i eq; obtain ⟨rfl, -⟩ := List.cons.inj eq; exact absurd h (by decide)
  · rename_i eq; obtain ⟨rfl, -⟩ := List.cons.inj eq; exact absurd h (by decide)
  · rename_i eq; obtain ⟨rfl, -⟩ := List.cons.inj eq; exact absurd h (by decide)
  · rename_i eq
    obtain ⟨rfl, -⟩ := List.cons.inj eq
    rw [if_pos h]
  · rename_i eq; cases eq

/-- A start tag is read as its event. -/
theorem eventsFrom_startTag {t : Tag} (h : isReprintableTag t) (rest : List Char) :
    eventsFrom none 0 ((t.print .utf).toList ++ rest)
      = (eventsFrom none 0 rest).map ([.start t.name t.attributes] ++ ·) := by
  have read := startTag_print h rest
  simp only [isReprintableTag, Bool.and_eq_true, Bool.not_eq_true'] at h
  obtain ⟨⟨⟨⟨hname, raw⟩, -⟩, -⟩, -⟩ := h
  obtain ⟨c, cs, hn, letter, -⟩ := of_isElementName hname
  have step : tagStep ((t.name.toList ++ (t.attributes.flatMap attributeChars ++ ['>'])) ++ rest)
      = .events [.start t.name t.attributes]
          ((t.name.toList ++ (t.attributes.flatMap attributeChars ++ ['>'])).length + 1) := by
    have chars : (t.name.toList ++ (t.attributes.flatMap attributeChars ++ ['>'])) ++ rest
        = t.name.toList ++ (t.attributes.flatMap attributeChars ++ '>' :: rest) := by simp
    rw [chars, hn, List.cons_append, tagStep_letter letter, ← List.cons_append, ← hn,
      startTagStep, read]
    simp
    omega
  rw [toList_print]
  exact eventsFrom_of_tagStep step (by simp [rawTextAfter, raw])

theorem endName?_name {name : String} (h : isElementName name) :
    endName? name.toList = some name := by
  obtain ⟨c, cs, hn, letter, parts⟩ := of_isElementName h
  have chars : name.toList.all isEndNameChar := by
    refine List.all_eq_true.mpr fun x hx => ?_
    exact of_isNamePart (by decide +kernel) (List.all_eq_true.mp parts x hx)
  have first : isBlank c = false := by
    refine (ne_of_isNamePart (List.all_eq_true.mp parts c ?_)).2.2.2.2.2
    simp [hn]
  have noBlank : name.toList.dropWhile isBlank = name.toList := by
    rw [hn, List.dropWhile_cons_of_neg (by simp [first])]
  have taken : name.toList.takeWhile isEndNameChar = name.toList := by
    conv => lhs; rw [← List.append_nil name.toList]
    exact takeWhile_stop chars (by simp)
  have head : name.toList.head?.any isLetter = true := by simp [hn, letter]
  simp [endName?, noBlank, taken, head, lower_eq_self parts]

/-- An end tag is read as its event. -/
theorem eventsFrom_endTag {name : String} (h : isElementName name) (rest : List Char) :
    eventsFrom none 0 ('<' :: (('/' :: (name.toList ++ ['>'])) ++ rest))
      = (eventsFrom none 0 rest).map ([.endTag name] ++ ·) := by
  obtain ⟨-, -, -, -, parts⟩ := of_isElementName h
  have noBracket : '>' ∉ name.toList := by
    intro hc
    exact (ne_of_isNamePart (List.all_eq_true.mp parts _ hc)).2.1 rfl
  refine eventsFrom_of_tagStep ?_ rfl
  have chars : ('/' :: (name.toList ++ ['>'])) ++ rest = '/' :: (name.toList ++ '>' :: rest) := by
    simp
  rw [chars, tagStep, upToBracket, find?_bracket noBracket]
  simp only [List.take_left, endTagEvents, endName?_name h]
  simp
  omega

/-- A search goes over what its first character is missing from. -/
theorem search?_append {at? : List Char → Option Nat} {first : Char}
    (begins : ∀ c cs, c ≠ first → at? (c :: cs) = none) {xs : List Char} (h : first ∉ xs)
    (rest : List Char) : search? at? (xs ++ rest)
      = (search? at? rest).map fun found => (xs.length + found.1, found.2) := by
  induction xs with
  | nil => simp
  | cons x xs ih =>
      rw [List.mem_cons, not_or] at h
      rw [List.cons_append, search?, begins x _ (Ne.symm h.1)]
      dsimp only
      rw [ih h.2, Option.map_map]
      refine congrArg (Option.map · _) (funext fun found => ?_)
      simp only [Function.comp_apply, List.length_cons, Nat.add_right_comm]

theorem closingBracket?_cons (rest : List Char) : closingBracket? ('>' :: rest) = some 1 := by
  have bracket : isBlank '>' = false := by decide
  simp [closingBracket?, bracket]

theorem search?_commentEnd? {xs : List Char} (h : '-' ∉ xs) (rest : List Char) :
    search? commentEnd? (xs ++ '-' :: '-' :: '>' :: rest) = some (xs.length, 3) := by
  have begins (c : Char) (cs : List Char) (other : c ≠ '-') : commentEnd? (c :: cs) = none := by
    unfold commentEnd?
    split
    · rename_i eq
      exact absurd (List.cons.inj eq).1 other
    · rfl
  have here : commentEnd? ('-' :: '-' :: '>' :: rest) = some 3 := by
    rw [commentEnd?, closingBracket?_cons]
    rfl
  rw [search?_append begins h, search?, here]
  rfl

/-- A comment is read as its event. -/
theorem eventsFrom_comment {s : String} (h : '-' ∉ s.toList) (rest : List Char) :
    eventsFrom none 0 ('<' :: (('!' :: '-' :: '-' :: (s.toList ++ ['-', '-', '>'])) ++ rest))
      = (eventsFrom none 0 rest).map ([.comment s] ++ ·) := by
  refine eventsFrom_of_tagStep ?_ rfl
  have chars : ('!' :: '-' :: '-' :: (s.toList ++ ['-', '-', '>'])) ++ rest
      = '!' :: '-' :: '-' :: (s.toList ++ '-' :: '-' :: '>' :: rest) := by simp
  rw [chars, tagStep, declarationStep, search?_commentEnd? h]
  simp
  omega

/-- Text is read as its event when markup or nothing follows it. -/
theorem eventsFrom_text {s : String} (h : s.toList ≠ []) {rest : List Char}
    (hr : ∀ c ∈ rest.head?, c = '<') :
    eventsFrom none 0 ((printText .utf s).toList ++ rest)
      = (eventsFrom none 0 rest).map ([.data s] ++ ·) := by
  have read := readsAs_printText s
  have noBracket : ∀ c ∈ (printText .utf s).toList, (c != '<') = true := by
    intro c hc
    simpa using (mem_printText hc).1
  have taken : ((printText .utf s).toList ++ rest).takeWhile (· != '<')
      = (printText .utf s).toList :=
    takeWhile_stop (List.all_eq_true.mpr noBracket) (by simpa using hr)
  cases hs : (printText .utf s).toList with
  | nil =>
      -- nothing printed would be read as nothing
      have empty := read.decode_eq
      rw [hs] at empty
      exact absurd empty.symm h
  | cons c cs =>
      rw [hs] at taken read
      have notTag : (c == '<') = false := by
        have := noBracket c (by simp [hs])
        simpa using this
      rw [List.cons_append] at taken ⊢
      rw [eventsFrom, notTag]
      simp only [taken, textEvent, read.overlong?_eq, read.decode_eq]
      simp [eventsFrom_append, Except.bind]

/-! ## A document as events -/

theorem map_map_append {α : Type} (x : Except MarkupError (List α)) (xs ys : List α) :
    (x.map (xs ++ ·)).map (ys ++ ·) = x.map (ys ++ xs ++ ·) := by
  cases x with
  | error e => rfl
  | ok zs => simp [Except.map]

/-- Markup begins with a bracket. -/
theorem head?_print {n : Node} (h : n.isReprintable) (markup : isText n = false) :
    (n.print .utf false).toList.head? = some '<' := by
  cases n with
  | element t cs => simp [Node.print, toList_print]
  | comment s => simp [Node.print]
  | text s => cases markup
  | document cs => simp [Node.isReprintable] at h
  | doctype s => simp [Node.isReprintable] at h
  | markup s => simp [Node.isReprintable] at h

mutual

theorem Node.eventsFrom_print : ∀ (n : Node) (rest : List Char), n.isReprintable →
    (isText n → ∀ c ∈ rest.head?, c = '<') →
    eventsFrom none 0 ((n.print .utf false).toList ++ rest)
      = (eventsFrom none 0 rest).map (n.spelled ++ ·)
  | .element t cs, rest, h, _ => by
      simp only [Node.isReprintable, Bool.and_eq_true] at h
      obtain ⟨⟨ht, hvoid⟩, hcs⟩ := h
      have start := eventsFrom_startTag ht
      simp only [isReprintableTag, Bool.and_eq_true, Bool.not_eq_true'] at ht
      obtain ⟨⟨⟨⟨hname, raw⟩, -⟩, -⟩, -⟩ := ht
      cases void : isVoid t.name with
      | true =>
          simp [Node.print, Node.spelled, void, start]
      | false =>
          -- the start tag, what is inside, the end tag
          have inside := eventsFrom_printAll cs ('<' :: (('/' :: (t.name.toList ++ ['>'])) ++ rest))
            hcs (by simp)
          have whole : ((Node.element t cs).print .utf false).toList ++ rest
              = (t.print .utf).toList ++ ((printAll .utf false cs).toList ++
                  '<' :: (('/' :: (t.name.toList ++ ['>'])) ++ rest)) := by
            simp [Node.print, void, raw]
          rw [whole, start, inside, eventsFrom_endTag hname, map_map_append, map_map_append]
          simp [Node.spelled, void]
  | .text s, rest, h, hr => by
      have nonempty : s.toList ≠ [] := by simpa [Node.isReprintable] using h
      exact eventsFrom_text nonempty (hr rfl)
  | .comment s, rest, h, _ => by
      have plain : '-' ∉ s.toList := by simpa [Node.isReprintable] using h
      have whole : ((Node.comment s).print .utf false).toList ++ rest
          = '<' :: (('!' :: '-' :: '-' :: (s.toList ++ ['-', '-', '>'])) ++ rest) := by
        simp [Node.print]
      rw [whole]
      exact eventsFrom_comment plain rest
  | .document cs, rest, h, _ => by simp [Node.isReprintable] at h
  | .doctype s, rest, h, _ => by simp [Node.isReprintable] at h
  | .markup s, rest, h, _ => by simp [Node.isReprintable] at h

/-- Printed siblings are read as the events that spell them when markup or
nothing follows them. -/
theorem eventsFrom_printAll : ∀ (ns : List Node) (rest : List Char), isReprintable ns →
    (∀ c ∈ rest.head?, c = '<') →
    eventsFrom none 0 ((printAll .utf false ns).toList ++ rest)
      = (eventsFrom none 0 rest).map (spelled ns ++ ·)
  | [], rest, _, _ => by
      cases h : eventsFrom none 0 rest <;> simp [printAll, spelled, Except.map, h]
  | n :: ns, rest, h, hr => by
      simp only [isReprintable, Bool.and_eq_true, Bool.not_eq_true'] at h
      obtain ⟨⟨hn, apart⟩, hns⟩ := h
      have follows : isText n → ∀ c ∈ ((printAll .utf false ns).toList ++ rest).head?, c = '<' := by
        intro text c hc
        cases ns with
        | nil => exact hr c (by simpa [printAll] using hc)
        | cons m ms =>
            have markup : isText m = false := by simpa [text] using apart
            have hm := (Bool.and_eq_true_iff.mp (Bool.and_eq_true_iff.mp hns).1).1
            have bracket := head?_print hm markup
            have first : ((printAll .utf false (m :: ms)).toList ++ rest).head? = some '<' := by
              simp [printAll, bracket]
            rw [first] at hc
            exact (Option.some.inj hc).symm
      rw [printAll, String.toList_append, List.append_assoc, Node.eventsFrom_print n _ hn follows,
        eventsFrom_printAll ns rest hns hr, map_map_append, spelled]

end

/-! ## A document from events -/

namespace Builder

/-- What the innermost open element holds, last node first. -/
def innermost (b : Builder) : List Node :=
  match b.opened with
  | [] => b.content
  | o :: _ => o.content

theorem run_append (b : Builder) (es es' : List Event) :
    b.run (es ++ es') = (b.run es).run es' := List.foldl_append

theorem mapContent_mapContent (b : Builder) (f g : List Node → List Node) :
    (b.mapContent f).mapContent g = b.mapContent (g ∘ f) := by
  obtain ⟨opened, content⟩ := b
  cases opened <;> rfl

theorem innermost_mapContent (b : Builder) (f : List Node → List Node) :
    (b.mapContent f).innermost = f b.innermost := by
  obtain ⟨opened, content⟩ := b
  cases opened <;> rfl

theorem mapContent_congr {b : Builder} {f g : List Node → List Node}
    (h : f b.innermost = g b.innermost) : b.mapContent f = b.mapContent g := by
  obtain ⟨opened, content⟩ := b
  cases opened with
  | nil => exact congrArg (Builder.mk []) h
  | cons o os => exact congrArg (fun c => Builder.mk (⟨o.tag, c⟩ :: os) content) h

/-- Text that follows no text becomes a node of its own. -/
theorem addText_apart {b : Builder} (s : String) (h : b.innermost.head?.any isText = false) :
    b.addText s = b.add (.text s) := by
  refine mapContent_congr ?_
  split
  · rename_i eq
    rw [eq] at h
    cases h
  · rfl

/-- An end tag closes the element that was opened last when it has its name. -/
theorem closeNamed_innermost (tag : Tag) (content : List Node) (b : Builder) :
    ({ b with opened := ⟨tag, content⟩ :: b.opened } : Builder).closeNamed tag.name
      = b.add (.element tag content.reverse) := by
  have found : (⟨tag, content⟩ :: b.opened).findIdx? (·.tag.name == tag.name) = some 0 := by
    simp [List.findIdx?_cons]
  rw [closeNamed, found]
  rfl

end Builder

mutual

theorem Node.run_spelled : ∀ (n : Node) (b : Builder), n.isReprintable →
    (isText n → b.innermost.head?.any isText = false) → b.run n.spelled = b.add n
  | .element t cs, b, h, _ => by
      simp only [Node.isReprintable, Bool.and_eq_true] at h
      obtain ⟨⟨ht, hvoid⟩, hcs⟩ := h
      have tag : ({ name := t.name, attributes := t.attributes } : Tag) = t := by
        obtain ⟨name, attributes, joined, page⟩ := t
        simp only [isReprintableTag, Bool.and_eq_true, Bool.not_eq_true'] at ht
        simp [ht.1.2, ht.2]
      cases void : isVoid t.name with
      | true =>
          have empty : cs = [] := by simpa [void] using hvoid
          simp [Node.spelled, void, Builder.run, Builder.step, tag, empty]
      | false =>
          -- the end tag closes this element: all inside it was closed when it was spelled
          have inside := run_spelled cs { b with opened := ⟨t, []⟩ :: b.opened } hcs
            (by simp [Builder.innermost])
          have opened : b.step (.start t.name t.attributes)
              = { b with opened := ⟨t, []⟩ :: b.opened } := by
            simp [Builder.step, void, tag]
          have run : b.run (Node.element t cs).spelled
              = (({ b with opened := ⟨t, []⟩ :: b.opened } : Builder).run (spelled cs)).step
                  (.endTag t.name) := by
            simp [Node.spelled, void, Builder.run, opened]
          rw [run, inside]
          simp [Builder.step, void, Builder.mapContent, Builder.closeNamed_innermost]
  | .text s, b, h, hb => Builder.addText_apart s (hb rfl)
  | .comment s, b, h, _ => rfl
  | .document cs, b, h, _ => by simp [Node.isReprintable] at h
  | .doctype s, b, h, _ => by simp [Node.isReprintable] at h
  | .markup s, b, h, _ => by simp [Node.isReprintable] at h

/-- From the events that spell siblings the siblings are built. -/
theorem run_spelled : ∀ (ns : List Node) (b : Builder), isReprintable ns →
    (ns.head?.any isText → b.innermost.head?.any isText = false) →
    b.run (spelled ns) = b.mapContent (ns.reverse ++ ·)
  | [], b, _, _ => by
      obtain ⟨opened, content⟩ := b
      cases opened <;> rfl
  | n :: ns, b, h, hb => by
      simp only [isReprintable, Bool.and_eq_true, Bool.not_eq_true'] at h
      obtain ⟨⟨hn, apart⟩, hns⟩ := h
      have first := Node.run_spelled n b hn (fun text => hb (by simpa using text))
      have rest := run_spelled ns (b.add n) hns (by
        intro text
        rw [Builder.add, Builder.innermost_mapContent]
        simpa [text] using apart)
      rw [spelled, Builder.run_append, first, rest, Builder.add, Builder.mapContent_mapContent]
      refine Builder.mapContent_congr ?_
      simp

end

/-- A document that is printed and read again is the same document. -/
theorem ofText_printAll {doc : Document} (h : isReprintable doc) :
    Family.ofName "utf-8" = .ok .utf ∧
      Document.ofText (printAll .utf false doc) = .ok doc := by
  refine ⟨ofName_utf8, ?_⟩
  have read := eventsFrom_printAll doc [] h (by simp)
  rw [List.append_nil] at read
  have built := run_spelled doc {} h (by simp [Builder.innermost])
  rw [Document.ofText, events, read]
  simp [eventsFrom, Except.map, Document.ofEvents, built, Builder.mapContent, Builder.finish,
    Builder.closeMany]

/-- Markup inside text and values, elements inside elements of their name, an
attribute without a value and one that repeats. -/
def hardPage : Document :=
  [.comment "[if IE]> <p>",
   .element { name := "p",
              attributes := [("title", some "a \"b\" <c> &lt; 'd'"), ("hidden", none)] }
     [.text "&lt;p title=\"x\"> </p> &amp;\u00a0&#60",
      .element { name := "p" } [.element { name := "br" } [], .text "<!-- é -->"],
      .element { name := "h1", attributes := [("data-x", some ""), ("data-x", some "&quot")] } []],
   .text "\r\n"]

theorem ofText_printAll_hardPage : isReprintable hardPage ∧
    Document.ofText (printAll .utf false hardPage) = .ok hardPage :=
  have reprintable : isReprintable hardPage := by decide +kernel
  ⟨reprintable, (ofText_printAll reprintable).2⟩

end PageTemplates.Markup
