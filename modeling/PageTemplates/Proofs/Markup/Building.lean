import Mathlib.Data.List.Chain
import PageTemplates.Proofs.Compile.Arranged
import PageTemplates.Proofs.Markup.Reread

/-!
# Trees from any events

Whatever markup is made of, matched or not, the tree that is built holds every
piece of it, once and in order. The main facts:

* `stack b`: the document and the elements that are open, each the last thing in
  the one before;
* `heeded`, `merged`: the events that do something, with texts in a row made one;
* `preorder_run`: the nodes of the tree, one before what it holds, are what these
  events stand for;
* `WellMade`: elements that hold nothing are empty, and no two texts stand side
  by side;
* `ofEvents_loses_none`: all of this together.
-/

namespace PageTemplates.Markup

open Compile (everywhere everywhere_append everywhere_cons everywhere_element isDeep_everywhere)
open Compile.Node (isText)

/-! ## The stack -/

namespace Builder

/-- The open elements and the document, innermost first, as nodes with all that
they hold so far. The innermost of them has `inside` at its end. -/
def spine (inside content : List Node) : List Opened → List Node
  | [] => [.document (inside ++ content).reverse]
  | o :: os =>
      .element o.tag (inside ++ o.content).reverse ::
        spine [.element o.tag (inside ++ o.content).reverse] content os

/-- The document and the elements that are open, outermost first. -/
def stack (b : Builder) : List Node := (spine [] b.content b.opened).reverse

theorem name_spine (inside content : List Node) (os : List Opened) :
    (spine inside content os).map Node.name = os.map (·.tag.name) ++ ["#document"] := by
  induction os generalizing inside with
  | nil => rfl
  | cons o os ih =>
      rw [spine, List.map_cons, ih]
      rfl

theorem children_head_spine (n : Node) (content : List Node) (os : List Opened) :
    ∀ p ∈ (spine [n] content os).head?, p.children.getLast? = some n := by
  intro p hp
  cases os with
  | nil =>
      obtain rfl : Node.document ([n] ++ content).reverse = p := Option.some.inj hp
      simp [Node.children]
  | cons o os =>
      obtain rfl : Node.element o.tag ([n] ++ o.content).reverse = p := Option.some.inj hp
      simp [Node.children]

theorem isChain_spine (inside content : List Node) (os : List Opened) :
    (spine inside content os).IsChain fun n p => p.children.getLast? = some n := by
  induction os generalizing inside with
  | nil => exact .singleton _
  | cons o os ih =>
      rw [spine, List.isChain_cons]
      exact ⟨children_head_spine _ content os, ih _⟩

theorem length_opened_mapContent (b : Builder) (f : List Node → List Node) :
    (b.mapContent f).opened.length = b.opened.length := by
  obtain ⟨opened, content⟩ := b
  cases opened <;> rfl

/-- Closing an element makes no difference to the document. -/
theorem finish_close (b : Builder) : b.close.finish = b.finish := by
  obtain ⟨opened, content⟩ := b
  cases opened with
  | nil => rfl
  | cons o os =>
      have same : (close ⟨o :: os, content⟩).opened.length = os.length :=
        length_opened_mapContent _ _
      rw [finish, same]
      rfl

theorem finish_closeMany (n : Nat) (b : Builder) : (closeMany n b).finish = b.finish := by
  induction n generalizing b with
  | zero => rfl
  | succ n ih => rw [closeMany, ih, finish_close]

theorem getLast?_spine (inside content : List Node) (os : List Opened) :
    (spine inside content os).getLast?
      = some (.document (({ opened := os, content } : Builder).mapContent (inside ++ ·)).finish) := by
  induction os generalizing inside with
  | nil => rfl
  | cons o os ih =>
      rw [spine, List.getLast?_cons, ih, Option.getD_some,
        ← finish_close (mapContent (inside ++ ·) ⟨o :: os, content⟩)]
      rfl

/-- The document is never lost. -/
theorem head?_stack (b : Builder) : b.stack.head? = some (.document b.finish) := by
  obtain ⟨opened, content⟩ := b
  rw [stack, List.head?_reverse, getLast?_spine]
  cases opened <;> rfl

/-- Each node on the stack is the last child of the one before. -/
theorem isChain_stack (b : Builder) :
    b.stack.IsChain fun p n => p.children.getLast? = some n :=
  List.isChain_reverse.mpr (isChain_spine [] b.content b.opened)

theorem name_stack (b : Builder) :
    b.stack.map Node.name = "#document" :: (b.opened.map (·.tag.name)).reverse := by
  rw [stack, List.map_reverse, name_spine]
  simp

end Builder

/-! ## Nodes in order -/

mutual

/-- A node and the nodes below it, each on its own and before what it holds. -/
def Node.preorder : Node → List Node
  | .document cs => .document [] :: preorder cs
  | .element t cs => .element t [] :: preorder cs
  | n => [n]

/-- The nodes of a list of siblings, and those below them. -/
def preorder : List Node → List Node
  | [] => []
  | n :: ns => n.preorder ++ preorder ns

end

theorem preorder_append (ns ms : List Node) : preorder (ns ++ ms) = preorder ns ++ preorder ms := by
  induction ns with
  | nil => rfl
  | cons n ns ih => rw [List.cons_append, preorder, ih, preorder, List.append_assoc]

theorem preorder_singleton (n : Node) : preorder [n] = n.preorder := by
  rw [preorder, preorder, List.append_nil]

namespace Builder

/-- What goes into the innermost element comes behind all nodes so far. -/
theorem preorder_mapContent_append (b : Builder) (ns : List Node) :
    preorder (b.mapContent (ns.reverse ++ ·)).finish = preorder b.finish ++ preorder ns := by
  obtain ⟨opened, content⟩ := b
  induction opened generalizing ns with
  | nil => simp [mapContent, finish, closeMany, preorder_append]
  | cons o os ih =>
      -- closed, the innermost element is what the next one gets
      have closed : ∀ cs : List Node,
          (⟨⟨o.tag, cs⟩ :: os, content⟩ : Builder).finish
            = ((⟨os, content⟩ : Builder).mapContent
                ([Node.element o.tag cs.reverse].reverse ++ ·)).finish := by
        intro cs
        rw [← finish_close]
        rfl
      have before := closed o.content
      have after := closed (ns.reverse ++ o.content)
      rw [mapContent, after, ih, before, ih]
      simp [preorder_singleton, Node.preorder, preorder_append]

theorem preorder_add (b : Builder) (n : Node) :
    preorder (b.add n).finish = preorder b.finish ++ n.preorder := by
  rw [← preorder_singleton]
  exact preorder_mapContent_append b [n]

/-- An element that is opened comes behind all nodes so far. -/
theorem preorder_open (b : Builder) (t : Tag) :
    preorder ({ b with opened := ⟨t, []⟩ :: b.opened } : Builder).finish
      = preorder b.finish ++ [.element t []] := by
  rw [← finish_close]
  exact preorder_add b (.element t [])

theorem finish_closeNamed (b : Builder) (name : String) :
    (b.closeNamed name).finish = b.finish := by
  unfold closeNamed
  split
  · exact finish_closeMany _ b
  · rfl

end Builder

/-! ## Events that do something -/

/-- The node that an event puts into the tree, without what it will hold. -/
def Event.node? : Event → Option Node
  | .start name attributes | .startEnd name attributes => some (.element { name, attributes } [])
  | .endTag _ => none
  | .data s => some (.text s)
  | .comment s => some (.comment s)
  | .declaration s => some (Builder.declared s)
  | .instruction s => some (.markup ("<?" ++ s ++ ">"))
  | .bracketed s => some (.markup ("<![" ++ s ++ "]]>"))

/-- Whether an event is an end tag without an element to close, where elements of
these names are open, innermost first. -/
def Event.isStray (names : List String) : Event → Bool
  | .endTag name => isVoid name || !names.contains name
  | _ => false

/-- The names of the elements that are open behind an event. -/
def Event.opens (names : List String) : Event → List String
  | .start name _ => if isVoid name then names else name :: names
  | .endTag name => names.drop (names.idxOf name + 1)
  | _ => names

/-- The events without stray end tags. -/
def heeded (names : List String) : List Event → List Event
  | [] => []
  | e :: es => if e.isStray names then heeded names es else e :: heeded (e.opens names) es

/-- Events with texts in a row made one. -/
def merged : List Event → List Event
  | [] => []
  | .data s :: es =>
      match merged es with
      | .data t :: es => .data (s ++ t) :: es
      | es => .data s :: es
  | e :: es => e :: merged es

/-- The nodes that events stand for. -/
def listed (names : List String) (es : List Event) : List Node :=
  (merged (heeded names es)).filterMap Event.node?

namespace Builder

/-- The names of the open elements, innermost first. -/
def names (b : Builder) : List String := b.opened.map (·.tag.name)

/-- Whether what comes next would follow a text. -/
def endsInText (b : Builder) : Bool := b.innermost.head?.any isText

theorem names_mapContent (b : Builder) (f : List Node → List Node) :
    (b.mapContent f).names = b.names := by
  obtain ⟨opened, content⟩ := b
  cases opened <;> rfl

theorem names_close (b : Builder) : b.close.names = b.names.tail := by
  obtain ⟨opened, content⟩ := b
  cases opened with
  | nil => rfl
  | cons o os => exact names_mapContent _ _

theorem names_closeMany (n : Nat) (b : Builder) : (closeMany n b).names = b.names.drop n := by
  induction n generalizing b with
  | zero => rfl
  | succ n ih => rw [closeMany, ih, names_close, List.drop_tail]

/-- Which element an end tag closes depends on the names alone. -/
theorem findIdx?_opened (b : Builder) (name : String) :
    b.opened.findIdx? (·.tag.name == name) = b.names.idxOf? name := by
  rw [List.idxOf?, names, List.findIdx?_map]
  rfl

theorem step_of_isStray {b : Builder} {e : Event} (h : e.isStray b.names) : b.step e = b := by
  cases e with
  | endTag name =>
      simp only [step]
      split
      · rfl
      · rename_i void
        have missing : name ∉ b.names := by simpa [Event.isStray, void] using h
        rw [closeNamed, findIdx?_opened, List.idxOf?_eq_none_iff.mpr missing]
  | _ => cases h

theorem idxOf?_of_mem {name : String} {ns : List String} (h : name ∈ ns) :
    ns.idxOf? name = some (ns.idxOf name) := by
  rw [List.idxOf?, List.findIdx?_eq_some_iff_findIdx_eq]
  exact ⟨List.idxOf_lt_length_of_mem h, rfl⟩

/-- An end tag that closes something closes the nearest element of its name. -/
theorem step_endTag {b : Builder} {name : String} (h : (Event.endTag name).isStray b.names = false) :
    name ∈ b.names ∧ b.step (.endTag name) = closeMany (b.names.idxOf name + 1) b := by
  simp only [Event.isStray, Bool.or_eq_false_iff, Bool.not_eq_false', List.contains_iff_mem] at h
  obtain ⟨void, found⟩ := h
  refine ⟨found, ?_⟩
  simp only [step, void, closeNamed, findIdx?_opened, idxOf?_of_mem found]
  rfl

theorem names_step {b : Builder} {e : Event} (h : e.isStray b.names = false) :
    (b.step e).names = e.opens b.names := by
  cases e with
  | start name attributes =>
      simp only [step, Event.opens]
      split
      · exact names_mapContent b _
      · rfl
  | endTag name =>
      rw [(step_endTag h).2, names_closeMany]
      rfl
  | _ => exact names_mapContent b _

theorem endsInText_add (b : Builder) {n : Node} (h : isText n = false) :
    (b.add n).endsInText = false := by
  rw [endsInText, add, innermost_mapContent]
  exact h

theorem closeMany_close (n : Nat) (b : Builder) : closeMany n b.close = (closeMany n b).close := by
  induction n generalizing b with
  | zero => rfl
  | succ n ih => rw [closeMany, ih, closeMany]

theorem endsInText_close {b : Builder} (h : b.names ≠ []) : b.close.endsInText = false := by
  obtain ⟨opened, content⟩ := b
  cases opened with
  | nil => exact absurd rfl h
  | cons o os => exact endsInText_add _ rfl

theorem isText_declared (s : String) : isText (declared s) = false := by
  unfold declared
  split <;> rfl

/-- Only text leaves text at the end. -/
theorem endsInText_step {b : Builder} {e : Event} (h : e.isStray b.names = false)
    (data : ∀ s, e ≠ .data s) : (b.step e).endsInText = false := by
  cases e with
  | start name attributes =>
      simp only [step]
      split
      · exact endsInText_add b rfl
      · rfl
  | endTag name =>
      obtain ⟨found, closed⟩ := step_endTag h
      rw [closed, closeMany, closeMany_close]
      refine endsInText_close ?_
      rw [names_closeMany, ne_eq, List.drop_eq_nil_iff, Nat.not_le]
      exact List.idxOf_lt_length_of_mem found
  | data s => exact absurd rfl (data s)
  | declaration s => exact endsInText_add b (isText_declared s)
  | _ => exact endsInText_add b rfl

theorem preorder_declared (s : String) : (declared s).preorder = [declared s] := by
  unfold declared
  split <;> rfl

/-- An event puts its node behind all nodes so far, unless it is text that is
joined to the text before. -/
theorem preorder_step {b : Builder} {e : Event}
    (apart : b.endsInText = false ∨ ∀ s, e ≠ .data s) :
    preorder (b.step e).finish = preorder b.finish ++ e.node?.toList := by
  cases e with
  | start name attributes =>
      simp only [step]
      split
      · exact preorder_add b _
      · exact preorder_open b _
  | endTag name =>
      simp only [step, Event.node?, Option.toList_none, List.append_nil]
      split
      · rfl
      · rw [finish_closeNamed]
  | data s =>
      have notText : b.endsInText = false := apart.resolve_right fun other => other s rfl
      rw [step, addText_apart s notText]
      exact preorder_add b _
  | declaration s =>
      rw [step, preorder_add, preorder_declared]
      rfl
  | _ => exact preorder_add b _

/-- Text behind text is one text. -/
theorem addText_addText (b : Builder) (s t : String) (h : b.endsInText = false) :
    (b.addText s).addText t = b.addText (s ++ t) := by
  rw [addText_apart s h, addText_apart (s ++ t) h, add, addText, mapContent_mapContent]
  rfl

end Builder

/-! ## The nodes of a document -/

theorem heeded_cons_of_isStray {names : List String} {e : Event} (es : List Event)
    (h : e.isStray names) : heeded names (e :: es) = heeded names es := by
  rw [heeded, if_pos h]

theorem heeded_cons {names : List String} {e : Event} (es : List Event)
    (h : e.isStray names = false) :
    heeded names (e :: es) = e :: heeded (e.opens names) es := by
  rw [heeded, h]
  rfl

theorem heeded_data (names : List String) (s : String) (es : List Event) :
    heeded names (.data s :: es) = .data s :: heeded names es := heeded_cons es rfl

theorem merged_data_data (s t : String) (es : List Event) :
    merged (.data s :: .data t :: es) = merged (.data (s ++ t) :: es) := by
  simp only [merged]
  cases merged es with
  | nil => rfl
  | cons e es => cases e <;> simp [String.append_assoc]

theorem merged_cons {e : Event} (es : List Event) (h : ∀ s, e ≠ .data s) :
    merged (e :: es) = e :: merged es := by
  cases e with
  | data s => exact absurd rfl (h s)
  | _ => rfl

theorem merged_data_cons (s : String) {e : Event} (es : List Event) (h : ∀ s, e ≠ .data s) :
    merged (.data s :: e :: es) = .data s :: e :: merged es := by
  rw [merged, merged_cons es h]
  cases e with
  | data s => exact absurd rfl (h s)
  | _ => rfl

theorem filterMap_cons_toList (e : Event) (es : List Event) :
    (e :: es).filterMap Event.node? = e.node?.toList ++ es.filterMap Event.node? := by
  rw [List.filterMap_cons]
  cases e.node? <;> rfl

theorem listed_cons {names : List String} {e : Event} (es : List Event)
    (h : e.isStray names = false) (data : ∀ s, e ≠ .data s) :
    listed names (e :: es) = e.node?.toList ++ listed (e.opens names) es := by
  rw [listed, heeded_cons es h, merged_cons _ data, filterMap_cons_toList]
  rfl

theorem listed_data_cons {names : List String} (s : String) {e : Event} (es : List Event)
    (h : e.isStray names = false) (data : ∀ s, e ≠ .data s) :
    listed names (.data s :: e :: es)
      = .text s :: (e.node?.toList ++ listed (e.opens names) es) := by
  rw [listed, heeded_data, heeded_cons es h, merged_data_cons s _ data,
    filterMap_cons_toList, filterMap_cons_toList]
  rfl

/-- The nodes of the document are those of the events, in the same order. Text is
followed on its own, since what comes behind it may still be joined to it. -/
theorem preorder_run_apart (es : List Event) (b : Builder) (apart : b.endsInText = false) :
    preorder (b.run es).finish = preorder b.finish ++ listed b.names es ∧
      ∀ s, preorder (b.run (.data s :: es)).finish
        = preorder b.finish ++ listed b.names (.data s :: es) := by
  induction es generalizing b with
  | nil =>
      refine ⟨(List.append_nil _).symm, fun s => ?_⟩
      exact Builder.preorder_step (e := .data s) (.inl apart)
  | cons e es ih =>
      have withText : ∀ s, (b.addText s).names = b.names := fun s => b.names_mapContent _
      have run_cons : ∀ b' : Builder, b'.run (e :: es) = (b'.step e).run es := fun _ => rfl
      have run_data : ∀ s, b.run (.data s :: e :: es) = (b.addText s).run (e :: es) := fun _ => rfl
      cases stray : e.isStray b.names with
      | true =>
          -- a stray end tag is passed over, before text and behind it
          refine ⟨?_, fun s => ?_⟩
          · rw [run_cons, Builder.step_of_isStray stray, listed, heeded_cons_of_isStray es stray]
            exact (ih b apart).1
          · rw [run_data, run_cons, Builder.step_of_isStray ((withText s).symm ▸ stray), listed,
              heeded_data, heeded_cons_of_isStray es stray]
            exact (ih b apart).2 s
      | false =>
          by_cases data : ∃ t, e = .data t
          · obtain ⟨t, rfl⟩ := data
            refine ⟨(ih b apart).2 t, fun s => ?_⟩
            have joined : b.run (.data s :: .data t :: es) = b.run (.data (s ++ t) :: es) :=
              congrArg (Builder.run · es) (b.addText_addText s t apart)
            rw [joined, (ih b apart).2 (s ++ t)]
            simp only [listed, heeded_data, merged_data_data]
          · have other : ∀ s, e ≠ .data s := fun s he => data ⟨s, he⟩
            refine ⟨?_, fun s => ?_⟩
            · rw [run_cons, (ih _ (Builder.endsInText_step stray other)).1,
                Builder.preorder_step (.inr other), Builder.names_step stray,
                listed_cons es stray other, List.append_assoc]
            · have text : preorder (b.addText s).finish = preorder b.finish ++ [.text s] :=
                Builder.preorder_step (e := .data s) (.inl apart)
              rw [← withText s] at stray
              rw [run_data, run_cons, (ih _ (Builder.endsInText_step stray other)).1,
                Builder.preorder_step (.inr other), text, Builder.names_step stray, withText s,
                listed_data_cons s es (withText s ▸ stray) other]
              simp

/-- The nodes of the tree, one before what it holds, are one for each event that
is no end tag, and one for each run of texts, in the order of the events. -/
theorem preorder_run (es : List Event) :
    preorder (({} : Builder).run es).finish = listed [] es :=
  (preorder_run_apart es {} rfl).1

/-! ## Well-made trees -/

/-- No two texts stand side by side. -/
abbrev TextsApart (cs : List Node) : Prop := cs.IsChain fun a b => ¬ (isText a ∧ isText b)

/-- Whether an element holds nothing if it must not, and no two texts side by
side. -/
def isWellMade (t : Tag) (cs : List Node) : Bool :=
  (!isVoid t.name || cs.isEmpty) && decide (TextsApart cs)

/-- Siblings that are well made, with all below them. -/
structure SiblingsMade (cs : List Node) : Prop where
  apart : TextsApart cs
  below : everywhere isWellMade cs

namespace SiblingsMade

variable {cs : List Node}

theorem nil : SiblingsMade [] := ⟨.nil, rfl⟩

theorem reverse (h : SiblingsMade cs) : SiblingsMade cs.reverse := by
  refine ⟨?_, ?_⟩
  · rw [TextsApart, List.isChain_reverse]
    exact h.apart.imp fun a b hab hba => hab hba.symm
  · have each := ((isDeep_everywhere isWellMade).forall_iff cs).mp h.below
    refine ((isDeep_everywhere isWellMade).forall_iff _).mpr fun c hc => ?_
    exact each c (List.mem_reverse.mp hc)

theorem cons (h : SiblingsMade cs) {n : Node} (made : everywhere isWellMade [n])
    (apart : isText n = false ∨ cs.head?.any isText = false) : SiblingsMade (n :: cs) := by
  refine ⟨List.isChain_cons.mpr ⟨fun m hm both => ?_, h.apart⟩,
    everywhere_append.mpr ⟨made, h.below⟩⟩
  rcases apart with notText | notText
  · rw [notText] at both
    exact absurd both.1 Bool.false_ne_true
  · rw [Option.mem_def.mp hm] at notText
    exact absurd both.2 (Bool.eq_false_iff.mp notText)

/-- Joining text to the text at the end. -/
theorem joined {t : String} (h : SiblingsMade (.text t :: cs)) (s : String) :
    SiblingsMade (.text (t ++ s) :: cs) := by
  have rest := List.isChain_cons.mp h.apart
  exact ⟨List.isChain_cons.mpr ⟨fun m hm both => rest.1 m hm ⟨rfl, both.2⟩, rest.2⟩, h.below⟩

theorem element (h : SiblingsMade cs) {t : Tag} (notVoid : isVoid t.name = false) :
    everywhere isWellMade [.element t cs] := by
  refine everywhere_cons.mpr ⟨everywhere_element.mpr ⟨?_, h.below⟩, rfl⟩
  rw [isWellMade, notVoid, decide_eq_true h.apart]
  rfl

end SiblingsMade

/-- An element that holds nothing is well made whatever its name. -/
theorem everywhere_empty (t : Tag) : everywhere isWellMade [.element t []] := by
  refine everywhere_cons.mpr ⟨everywhere_element.mpr ⟨?_, rfl⟩, rfl⟩
  rw [isWellMade, List.isEmpty_nil, Bool.or_true, decide_eq_true List.IsChain.nil]
  rfl

/-- A tree in the making that is well made so far. No open element is one that
must hold nothing. -/
structure WellMade (b : Builder) : Prop where
  content : SiblingsMade b.content
  opened : ∀ o ∈ b.opened, isVoid o.tag.name = false ∧ SiblingsMade o.content

namespace WellMade

variable {b : Builder}

theorem mapContent (h : WellMade b) {f : List Node → List Node}
    (made : SiblingsMade b.innermost → SiblingsMade (f b.innermost)) :
    WellMade (b.mapContent f) := by
  obtain ⟨opened, content⟩ := b
  obtain ⟨hcontent, hopened⟩ := h
  cases opened with
  | nil => exact ⟨made hcontent, hopened⟩
  | cons o os =>
      rw [List.forall_mem_cons] at hopened
      obtain ⟨⟨notVoid, inner⟩, outer⟩ := hopened
      exact ⟨hcontent, List.forall_mem_cons.mpr ⟨⟨notVoid, made inner⟩, outer⟩⟩

theorem add (h : WellMade b) {n : Node} (made : everywhere isWellMade [n])
    (notText : isText n = false) : WellMade (b.add n) :=
  h.mapContent fun inner => inner.cons made (.inl notText)

theorem addText (h : WellMade b) (s : String) : WellMade (b.addText s) := by
  refine h.mapContent fun inner => ?_
  split
  · rename_i t rest same
    rw [same] at inner
    exact inner.joined s
  · rename_i other
    refine inner.cons rfl (.inr ?_)
    cases same : b.innermost with
    | nil => rfl
    | cons m ms =>
        cases m with
        | text t => exact absurd same (other t ms)
        | _ => rfl

theorem close (h : WellMade b) : WellMade b.close := by
  obtain ⟨opened, content⟩ := b
  cases opened with
  | nil => exact h
  | cons o os =>
      obtain ⟨hcontent, hopened⟩ := h
      rw [List.forall_mem_cons] at hopened
      obtain ⟨⟨notVoid, inner⟩, outer⟩ := hopened
      have rest : WellMade ⟨os, content⟩ := ⟨hcontent, outer⟩
      exact rest.add (inner.reverse.element notVoid) rfl

theorem closeMany (n : Nat) (h : WellMade b) : WellMade (Builder.closeMany n b) := by
  induction n generalizing b with
  | zero => exact h
  | succ n ih => exact ih h.close

theorem everywhere_declared (s : String) : everywhere isWellMade [Builder.declared s] := by
  unfold Builder.declared
  split <;> rfl

theorem step (h : WellMade b) (e : Event) : WellMade (b.step e) := by
  cases e with
  | start name attributes =>
      simp only [Builder.step]
      split
      · exact h.add (everywhere_empty _) rfl
      · rename_i notVoid
        exact ⟨h.content, List.forall_mem_cons.mpr
          ⟨⟨Bool.eq_false_iff.mpr notVoid, .nil⟩, h.opened⟩⟩
  | startEnd name attributes => exact h.add (everywhere_empty _) rfl
  | endTag name =>
      simp only [Builder.step]
      split
      · exact h
      · unfold Builder.closeNamed
        split
        · exact h.closeMany _
        · exact h
  | data s => exact h.addText s
  | declaration s => exact h.add (everywhere_declared s) (Builder.isText_declared s)
  | _ => exact h.add rfl rfl

theorem run (h : WellMade b) (es : List Event) : WellMade (b.run es) := by
  induction es generalizing b with
  | nil => exact h
  | cons e es ih => exact ih (h.step e)

theorem finish (h : WellMade b) : SiblingsMade b.finish := (h.closeMany _).content.reverse

end WellMade

/-- Whatever the events are: the stack is the document, followed by the open
elements, each the last child of the one before, and none of them one that must
hold nothing. The tree has a node for each event that is no end tag and for each
run of texts, in the order of the events. Elements that must hold nothing do, and
no two texts are siblings side by side. -/
theorem ofEvents_loses_none (es : List Event) :
    ((({} : Builder).run es).stack.head? = some (.document (Document.ofEvents es)) ∧
      (({} : Builder).run es).stack.map Node.name
        = "#document" :: (({} : Builder).run es).names.reverse ∧
      (({} : Builder).run es).stack.IsChain (fun p n => p.children.getLast? = some n) ∧
      ∀ n ∈ (({} : Builder).run es).stack, isVoid n.name = false) ∧
    preorder (Document.ofEvents es) = listed [] es ∧
    TextsApart (Document.ofEvents es) ∧ everywhere isWellMade (Document.ofEvents es) := by
  have made : WellMade (({} : Builder).run es) :=
    WellMade.run ⟨.nil, fun o ho => absurd ho List.not_mem_nil⟩ es
  refine ⟨⟨Builder.head?_stack _, Builder.name_stack _, Builder.isChain_stack _, ?_⟩,
    preorder_run es, made.finish.apart, made.finish.below⟩
  intro n hn
  have named := List.mem_map_of_mem (f := Node.name) hn
  rw [Builder.name_stack, List.mem_cons, List.mem_reverse, List.mem_map] at named
  rcases named with named | ⟨o, ho, named⟩
  · rw [named]
    rfl
  · rw [← named]
    exact (made.opened o ho).1

/-- Text goes on behind an end tag that closes nothing, and an end tag closes what
is open inside its element. -/
example : Document.ofEvents [.start "p" [], .data "a", .endTag "i", .data "b", .start "i" [],
    .startEnd "br" [], .endTag "p", .data "c"]
    = [.element { name := "p" } [.text "ab", .element { name := "i" } [.element { name := "br" } []]],
       .text "c"] := by rfl

end PageTemplates.Markup
