import PageTemplates.Markup.Build
import PageTemplates.Proofs.Compile.Grouping
import PageTemplates.Proofs.Script.EndTag

/-!
# What a document looks like that was read

Names of elements are read up to a character that ends them and are put in lower
case. A script takes in everything up to its end tag as text, so a script holds
text only. The main facts:

* `isReadName`: a name in lower case without a character that would end it;
* `Reading raw? b`: what holds of the tree in the making `b` while the raw text
  element `raw?` is open, kept by every step of reading;
* `ofText_isRead`: what holds of a document that was read.
-/

namespace PageTemplates.Markup

open Compile (Tidy tidy_cons tidy_element)
open Script (endsName)

/-! ## Names -/

/-- A name as it is read: no character in it ends a name, and no ASCII letter is
a capital. -/
def isReadName (name : String) : Bool := name.toList.all fun c => !endsName c && !c.isUpper

theorem isUpper_iff {c : Char} : c.isUpper ↔ 65 ≤ c.toNat ∧ c.toNat ≤ 90 :=
  decide_eq_true_iff.trans (and_congr UInt32.le_iff_toNat_le UInt32.le_iff_toNat_le)

theorem toLower_of_not_isUpper {c : Char} (h : c.isUpper = false) : c.toLower = c := by
  unfold Char.toLower
  exact dif_neg (of_decide_eq_false h)

theorem toNat_toLower_of_isUpper {c : Char} (h : c.isUpper) : c.toLower.toNat = c.toNat + 32 := by
  have bounds := isUpper_iff.mp h
  unfold Char.toLower
  rw [dif_pos (of_decide_eq_true h)]
  have sum : (c.val + ('a'.val - 'A'.val)).toNat = c.val.toNat + 32 := by
    rw [UInt32.toNat_add]
    have : c.val.toNat = c.toNat := rfl
    have : ('a'.val - 'A'.val).toNat = 32 := rfl
    omega
  exact sum

theorem toNat_ofNat (n : Nat) : (Char.ofNat n).toNat = n ∨ (Char.ofNat n).toNat = 0 := by
  by_cases valid : n.isValidChar
  · have : Char.ofNat n = Char.ofNatAux n valid := dif_pos valid
    rw [this]
    exact .inl rfl
  · have : (Char.ofNat n).toNat = _ := congrArg Char.toNat (dif_neg valid)
    exact .inr this

theorem endsName_of_toNat {c : Char} (h : 90 < c.toNat ∨ c.toNat = 0) : endsName c = false := by
  refine Bool.eq_false_iff.mpr fun he => ?_
  simp only [endsName, Bool.or_eq_true, beq_iff_eq] at he
  rcases he with (((((rfl | rfl) | rfl) | rfl) | rfl) | rfl) | rfl <;>
    exact absurd h (by decide)

/-- No capital outside ASCII becomes a character below the small letters. -/
theorem caseRanges_above : ∀ r ∈ Text.caseRanges, 90 < r.first + r.delta := by
  decide +kernel

/-- A character that letters are put in lower case with is no capital, and ends a
name only if it was there before. -/
theorem mem_lowerChar {c x : Char} (h : x ∈ Text.lowerChar c) :
    x.isUpper = false ∧ (endsName x → x = c) := by
  -- characters behind the capitals are neither
  have high : 90 < x.toNat ∨ x.toNat = 0 → x.isUpper = false ∧ (endsName x → x = c) := by
    intro hx
    refine ⟨?_, fun he => ?_⟩
    · rw [Bool.eq_false_iff, ne_eq, isUpper_iff]
      omega
    · rw [endsName_of_toNat hx] at he
      cases he
  unfold Text.lowerChar at h
  split at h
  · rw [List.mem_singleton] at h
    subst h
    cases upper : c.isUpper with
    | true =>
        apply high
        have bounds := isUpper_iff.mp upper
        rw [toNat_toLower_of_isUpper upper]
        omega
    | false =>
        rw [toLower_of_not_isUpper upper]
        exact ⟨upper, fun _ => rfl⟩
  · rename_i ascii
    split at h
    · apply high
      simp only [List.mem_cons, List.not_mem_nil, or_false] at h
      rcases h with rfl | rfl <;> decide
    · split at h
      · rename_i r hr
        rw [List.mem_singleton] at h
        subst h
        apply high
        have covered := List.find?_some hr
        have above := caseRanges_above r (List.mem_of_find?_eq_some hr)
        simp only [Text.CaseRange.covers, Bool.and_eq_true, decide_eq_true_eq] at covered
        have := toNat_ofNat (c.toNat + r.delta).toNat
        omega
      · rw [List.mem_singleton] at h
        subst h
        exact high (.inl (by omega))

theorem mem_lowerFrom {before cs : List Char} {x : Char} (h : x ∈ Text.lowerFrom before cs) :
    x.isUpper = false ∧ (endsName x → x ∈ cs) := by
  induction cs generalizing before with
  | nil => cases h
  | cons c cs ih =>
      rw [Text.lowerFrom] at h
      rcases List.mem_append.mp h with h | h
      · split at h
        · rw [List.mem_singleton] at h
          subst h
          exact ⟨by decide, fun he => absurd he (by decide)⟩
        · obtain ⟨upper, ends⟩ := mem_lowerChar h
          exact ⟨upper, fun he => ends he ▸ List.mem_cons_self⟩
      · obtain ⟨upper, ends⟩ := ih h
        exact ⟨upper, fun he => List.mem_cons_of_mem _ (ends he)⟩

/-- A name is read up to a character that ends it. -/
theorem isReadName_lower (cs : List Char) :
    isReadName (Text.lower (String.ofList (cs.takeWhile isTagNameChar))) := by
  rw [isReadName, List.all_eq_true]
  intro x hx
  rw [Text.lower, String.toList_ofList, String.toList_ofList] at hx
  obtain ⟨upper, ends⟩ := mem_lowerFrom hx
  have inName : endsName x = false := by
    refine Bool.eq_false_iff.mpr fun he => ?_
    have tag := List.all_eq_true.mp List.all_takeWhile x (ends he)
    simp only [isTagNameChar, Bool.and_eq_true, bne_iff_ne] at tag
    simp only [endsName, Bool.or_eq_true, beq_iff_eq] at he
    simp_all
  rw [upper, inName]
  rfl

theorem orOverlong_eq_tag {written attributes : List Attribute} {t : StartTag} {name : String}
    {closed : Bool} {n : Nat}
    (h : StartTag.orOverlong written t = .tag name attributes closed n) :
    t = .tag name attributes closed n := by
  unfold StartTag.orOverlong at h
  split at h
  · cases h
  · exact h

theorem startTag_name {cs : List Char} {name : String} {attributes : List Attribute}
    {closed : Bool} {n : Nat} (h : startTag cs = .tag name attributes closed n) :
    isReadName name := by
  unfold startTag at h
  dsimp only at h
  split at h
  · cases h
  · cases orOverlong_eq_tag h
    exact isReadName_lower cs
  · cases orOverlong_eq_tag h
    exact isReadName_lower cs
  · split at h
    · cases h
    · cases orOverlong_eq_tag h

/-! ## Trees in the making -/

/-- Whether a tag is as it was read: its name is, and it has no marks. -/
def isReadTag (t : Tag) : Bool := isReadName t.name && !t.page && !t.joined

theorem isReadTag_iff {t : Tag} :
    isReadTag t ↔ isReadName t.name ∧ t.page = false ∧ t.joined = false := by
  rw [isReadTag, Bool.and_eq_true, Bool.and_eq_true, Bool.not_eq_true', Bool.not_eq_true',
    and_assoc]

theorem isReadTag_new {name : String} (h : isReadName name) (attributes : List Attribute) :
    isReadTag { name, attributes } := isReadTag_iff.mpr ⟨h, rfl, rfl⟩

/-- What holds of siblings that were read: the tags are as they were read, and
scripts hold nothing but text. -/
abbrev IsRead (ns : List Node) : Prop := Tidy isReadTag ns

theorem isRead_leaf {n : Node} (h : n.children = [] ∧ n.isElement = false) : IsRead [n] := by
  cases n with
  | element _ _ => cases h.2
  | document cs =>
      obtain rfl : cs = [] := h.1
      exact ⟨rfl, rfl⟩
  | text _ | comment _ | doctype _ | markup _ => exact ⟨rfl, rfl⟩

/-- What holds of a tree in the making while the raw text element `raw?` is open.
Only the innermost element may be a script, and it holds text then. -/
structure Reading (raw? : Option String) (b : Builder) : Prop where
  content : IsRead b.content
  opened : ∀ o ∈ b.opened, isReadTag o.tag ∧ IsRead o.content
  outer : ∀ o ∈ b.opened.tail, o.tag.name ≠ "script"
  inner : ∀ o ∈ b.opened.head?, o.tag.name = "script" →
    raw? = some "script" ∧ o.content.all Compile.Node.isText

namespace Reading

variable {raw? : Option String} {b : Builder}

theorem empty : Reading none {} :=
  ⟨.nil, fun o ho => by (cases ho), fun o ho => by (cases ho), fun o ho => by (cases ho)⟩

/-- Something is added to what the innermost element holds, in a script only
text. -/
theorem mapContent (h : Reading raw? b) {f : List Node → List Node}
    (read : ∀ cs, IsRead cs → IsRead (f cs))
    (text : raw? = some "script" → ∀ cs : List Node, cs.all Compile.Node.isText →
      (f cs).all Compile.Node.isText) : Reading raw? (b.mapContent f) := by
  obtain ⟨opened, content⟩ := b
  obtain ⟨hcontent, hopened, outer, inner⟩ := h
  cases opened with
  | nil => exact ⟨read _ hcontent, hopened, outer, inner⟩
  | cons o os =>
      refine ⟨hcontent, ?_, outer, ?_⟩
      · rw [List.forall_mem_cons] at hopened
        refine List.forall_mem_cons.mpr ⟨?_, hopened.2⟩
        exact ⟨hopened.1.1, read _ hopened.1.2⟩
      · rintro o' ⟨⟩ script
        obtain ⟨raw, all⟩ := inner o rfl script
        exact ⟨raw, text raw _ all⟩

theorem addText (h : Reading raw? b) (s : String) : Reading raw? (b.addText s) := by
  refine h.mapContent (fun cs hcs => ?_) fun _ cs hcs => ?_
  · split
    · exact tidy_cons.mpr ⟨isRead_leaf ⟨rfl, rfl⟩, (tidy_cons.mp hcs).2⟩
    · exact tidy_cons.mpr ⟨isRead_leaf ⟨rfl, rfl⟩, hcs⟩
  · split
    · rw [List.all_cons] at hcs ⊢
      exact hcs
    · rw [List.all_cons, hcs]
      rfl

theorem add (h : Reading none b) {n : Node} (hn : IsRead [n]) : Reading none (b.add n) :=
  h.mapContent (fun _ hcs => tidy_cons.mpr ⟨hn, hcs⟩) fun raw => by cases raw

/-- Behind a closed element no script is open. -/
theorem close (h : Reading raw? b) : Reading none b.close := by
  obtain ⟨opened, content⟩ := b
  obtain ⟨hcontent, hopened, outer, inner⟩ := h
  cases opened with
  | nil => exact ⟨hcontent, hopened, outer, fun o ho => by (cases ho)⟩
  | cons o os =>
      rw [List.forall_mem_cons] at hopened
      have rest : Reading none { opened := os, content := content } := by
        refine ⟨hcontent, hopened.2, fun o' ho' => outer o' (List.mem_of_mem_tail ho'), ?_⟩
        intro o' ho' script
        exact absurd script (outer o' (List.mem_of_head? ho'))
      refine rest.add (tidy_element.mpr ⟨hopened.1.1, fun script => ?_, hopened.1.2.reverse⟩)
      rw [List.all_reverse]
      exact (inner o rfl script).2

theorem closeMany (n : Nat) (h : Reading none b) : Reading none (Builder.closeMany n b) := by
  induction n generalizing b with
  | zero => exact h
  | succ n ih => exact ih h.close

/-- The end tag of the raw text element that is open, or any other end tag. -/
theorem closeNamed (h : Reading raw? b) {name : String} (hraw : raw? = none ∨ raw? = some name) :
    Reading none (b.closeNamed name) := by
  unfold Builder.closeNamed
  split
  · exact h.close.closeMany _
  · rename_i notFound
    rw [List.findIdx?_eq_none_iff] at notFound
    refine ⟨h.content, h.opened, h.outer, fun o ho script => ?_⟩
    obtain ⟨raw, -⟩ := h.inner o ho script
    rw [raw] at hraw
    obtain rfl : "script" = name := by simpa using hraw
    have := notFound o (List.mem_of_head? ho)
    simp [script] at this

theorem isRead_finish (h : Reading raw? b) : IsRead b.finish := by
  have all : IsRead (Builder.closeMany b.opened.length b).content := by
    cases b.opened.length with
    | zero => exact h.content
    | succ n => exact (h.close.closeMany n).content
  exact all.reverse

/-- An element is opened where no script is open. -/
theorem start (h : Reading none b) {name : String} (hn : isReadName name)
    (attributes : List Attribute) :
    Reading (if isRawText name then some name else none) (b.step (.start name attributes)) := by
  unfold Builder.step
  by_cases void : isVoid name
  · have plain : isRawText name = false := by
      refine Bool.eq_false_iff.mpr fun raw => ?_
      simp only [isRawText, Bool.or_eq_true, beq_iff_eq] at raw
      rcases raw with rfl | rfl <;> exact absurd void (by decide)
    simp only [void, plain, if_true]
    exact h.add (tidy_element.mpr ⟨isReadTag_new hn attributes, fun _ => rfl, .nil⟩)
  · simp only [void]
    refine ⟨h.content, ?_, ?_, ?_⟩
    · exact List.forall_mem_cons.mpr ⟨⟨isReadTag_new hn attributes, .nil⟩, h.opened⟩
    · -- no script is open around the element
      intro o ho script
      change o ∈ b.opened at ho
      cases hb : b.opened with
      | nil => rw [hb] at ho; cases ho
      | cons o' os =>
          rw [hb, List.mem_cons] at ho
          rcases ho with rfl | ho
          · exact absurd (h.inner o (by rw [hb]; rfl) script).1 (by simp)
          · exact h.outer o (by rw [hb]; exact ho) script
    · rintro o ⟨⟩ script
      obtain rfl : name = "script" := script
      exact ⟨rfl, rfl⟩

end Reading

/-! ## Events -/

/-- Whether the name in an event that opens an element is as names are read. -/
def Event.isRead : Event → Bool
  | .start name _ | .startEnd name _ => isReadName name
  | _ => true

theorem isRead_declared (s : String) : IsRead [Builder.declared s] := by
  unfold Builder.declared
  split <;> exact isRead_leaf ⟨rfl, rfl⟩

theorem Reading.step {b : Builder} (h : Reading none b) {e : Event} (he : e.isRead) :
    Reading (rawTextAfter [e]) (b.step e) := by
  cases e with
  | start name attributes => exact h.start he attributes
  | startEnd name attributes =>
      exact h.add (tidy_element.mpr ⟨isReadTag_new he attributes, fun _ => rfl, .nil⟩)
  | endTag name =>
      change Reading none (if isVoid name then b else b.closeNamed name)
      split
      · exact h
      · exact h.closeNamed (.inl rfl)
  | data s => exact h.addText s
  | comment s => exact h.add (isRead_leaf ⟨rfl, rfl⟩)
  | declaration s => exact h.add (isRead_declared s)
  | instruction s => exact h.add (isRead_leaf ⟨rfl, rfl⟩)
  | bracketed s => exact h.add (isRead_leaf ⟨rfl, rfl⟩)

/-- What begins with a bracket is one event at most. -/
def IsOneEvent (es : List Event) : Prop := ∀ e ∈ es, es = [e] ∧ e.isRead

theorem upToBracket_events {event : List Char → List Event} {extra n : Nat} {cs : List Char}
    {es : List Event} (one : ∀ s, IsOneEvent (event s))
    (h : upToBracket event extra cs = .events es n) : IsOneEvent es := by
  unfold upToBracket at h
  split at h
  · cases h
    exact one _
  · cases h

theorem isOneEvent_singleton {e : Event} (he : e.isRead) : IsOneEvent [e] := by
  intro e' h
  obtain rfl := List.mem_singleton.mp h
  exact ⟨rfl, he⟩

theorem isOneEvent_endTagEvents (cs : List Char) : IsOneEvent (endTagEvents cs) := by
  unfold endTagEvents
  split
  · exact isOneEvent_singleton rfl
  split
  · exact isOneEvent_singleton rfl
  split
  · intro e he
    cases he
  · exact isOneEvent_singleton rfl

theorem bracketedStep_events {cs : List Char} {es : List Event} {n : Nat}
    (h : bracketedStep cs = .events es n) : IsOneEvent es := by
  unfold bracketedStep at h
  dsimp only at h
  split at h
  · cases h
  split at h
  · cases h
  split at h
  · cases h
  split at h
  · split at h
    · cases h
      exact isOneEvent_singleton rfl
    · cases h
  split at h
  · split at h
    · cases h
      exact isOneEvent_singleton rfl
    · cases h
  · cases h

theorem declarationStep_events {cs : List Char} {es : List Event} {n : Nat}
    (h : declarationStep cs = .events es n) : IsOneEvent es := by
  unfold declarationStep at h
  split at h
  · split at h
    · cases h
      exact isOneEvent_singleton rfl
    · cases h
  · exact bracketedStep_events h
  · split at h
    · exact upToBracket_events (fun _ => isOneEvent_singleton rfl) h
    · exact upToBracket_events (fun _ => isOneEvent_singleton rfl) h

theorem startTagStep_events {cs : List Char} {es : List Event} {n : Nat}
    (h : startTagStep cs = .events es n) : IsOneEvent es := by
  unfold startTagStep at h
  split at h
  · rename_i tag
    cases h
    exact isOneEvent_singleton (startTag_name tag)
  · rename_i tag
    cases h
    exact isOneEvent_singleton (startTag_name tag)
  · cases h
  · cases h
    exact isOneEvent_singleton rfl
  · cases h

theorem tagStep_events {cs : List Char} {es : List Event} {n : Nat}
    (h : tagStep cs = .events es n) : IsOneEvent es := by
  unfold tagStep at h
  split at h
  · exact upToBracket_events isOneEvent_endTagEvents h
  · exact upToBracket_events (fun _ => isOneEvent_singleton rfl) h
  · exact declarationStep_events h
  · split at h
    · exact startTagStep_events h
    · cases h
      exact isOneEvent_singleton rfl
  · cases h
    exact isOneEvent_singleton rfl

/-! ## Reading -/

theorem Reading.run_one {b : Builder} (h : Reading none b) {es : List Event}
    (one : IsOneEvent es) : Reading (rawTextAfter es) (b.run es) := by
  cases es with
  | nil => exact h
  | cons e es =>
      obtain ⟨single, he⟩ := one e List.mem_cons_self
      rw [single]
      exact h.step he

/-- Inside a raw text element there is text, up to the end tag of the element. -/
theorem Reading.run_rawText {b : Builder} {name : String} (h : Reading (some name) b)
    {cs : List Char} {es : List Event} {n : Nat} {stays : Bool}
    (step : rawTextStep name cs = some (es, n, stays)) :
    Reading (if stays then some name else none) (b.run es) := by
  unfold rawTextStep at step
  split at step
  · cases step
  · rename_i i k found
    dsimp only at step
    have front : Reading (some name)
        (b.run (if i == 0 then [] else [Event.data (String.ofList (cs.take i))])) := by
      split
      · exact h
      · exact h.addText _
    split at step
    · cases step
      rw [Builder.run, List.foldl_append]
      change Reading none (if isVoid name then _ else Builder.closeNamed name _)
      split
      · rename_i void
        refine ⟨front.content, front.opened, front.outer, fun o ho script => ?_⟩
        obtain rfl : name = "script" := by simpa using (front.inner o ho script).1
        exact absurd void (by decide)
      · exact front.closeNamed (.inr rfl)
    · cases step
      rw [Builder.run, List.foldl_append]
      exact front.addText _

theorem map_eq_ok {α β ε : Type} {x : Except ε α} {f : α → β} {b : β} (h : x.map f = .ok b) :
    ∃ a, x = .ok a ∧ f a = b := by
  cases x with
  | error e => cases h
  | ok a =>
      cases h
      exact ⟨a, rfl, rfl⟩

/-- Text in front is one event. -/
theorem textEvent_bind_eq_ok {cs : List Char} {rest : Except MarkupError (List Event)}
    {es : List Event} (h : ((textEvent cs).bind fun e => rest.map (e :: ·)) = .ok es) :
    ∃ s es', rest = .ok es' ∧ es = .data s :: es' := by
  unfold textEvent at h
  split at h
  · cases h
  · obtain ⟨es', hes, rfl⟩ := map_eq_ok h
    exact ⟨_, es', hes, rfl⟩

/-- Whatever was read before, what is read from here on makes up a document. -/
theorem isRead_run_eventsFrom {raw? : Option String} {skip : Nat} {cs : List Char} {b : Builder}
    {es : List Event} (h : eventsFrom raw? skip cs = .ok es) (hb : Reading raw? b) :
    IsRead (b.run es).finish := by
  fun_induction eventsFrom raw? skip cs generalizing b es with
  | case1 raw? skip =>
      cases h
      exact hb.isRead_finish
  | case2 raw? skip c cs ih => exact ih h hb
  | case3 name c cs none =>
      cases h
      exact hb.isRead_finish
  | case4 name c cs es' n stays step ih =>
      obtain ⟨rest, hrest, rfl⟩ := map_eq_ok h
      rw [Builder.run, List.foldl_append]
      exact ih hrest (hb.run_rawText step)
  | case5 c cs bracket e step => cases h
  | case6 c cs bracket es' n step ih =>
      obtain ⟨rest, hrest, rfl⟩ := map_eq_ok h
      rw [Builder.run, List.foldl_append]
      exact ih hrest (hb.run_one (tagStep_events step))
  | case7 c cs bracket step n =>
      rename_i ih
      obtain ⟨s, rest, hrest, rfl⟩ := textEvent_bind_eq_ok h
      rw [Builder.run, List.foldl_cons]
      exact ih hrest (hb.addText s)
  | case8 c cs bracket text =>
      rename_i ih
      obtain ⟨s, rest, hrest, rfl⟩ := textEvent_bind_eq_ok h
      rw [Builder.run, List.foldl_cons]
      exact ih hrest (hb.addText s)

/-- A document that was read has names in lower case that nothing in them ends,
no marks, and scripts that hold nothing but text. -/
theorem ofText_isRead {s : String} {doc : Document} (h : Document.ofText s = .ok doc) :
    IsRead doc := by
  obtain ⟨es, hes, rfl⟩ := map_eq_ok h
  exact isRead_run_eventsFrom hes .empty

end PageTemplates.Markup
