import PageTemplates.Proofs.Compile.Plain
import PageTemplates.Proofs.Markup.Building
import PageTemplates.Proofs.Markup.Faults
import PageTemplates.Proofs.Markup.Parsed

/-!
# Bracketed declarations

What stands between `<![` and the end of a declaration is kept, the end is not: all of them are
printed with the end of a marked section. The main facts:

* `printAll_ofEvents`: events that open and close no element are printed one after the other;
* `eventsFrom_textRun`: plain text is read by itself if nothing or a bracket follows it;
* `bracketedStep_closed`: how a declaration is read depends on its first word;
* `reprinted_bracketed`: a declaration between texts is printed as it was written only if it is
  a marked section with its own end; a condition gets one bracket more.
-/

namespace PageTemplates.Markup

open Text (isBlank find?)
open Compile (printAll_append printAll_singleton)

/-! ## Events that are nodes by themselves -/

/-- Whether an event neither opens nor closes an element. -/
def Event.isFlat : Event → Bool
  | .start _ _ | .endTag _ => false
  | _ => true

theorem Event.exists_node? {e : Event} (h : e.isFlat) : ∃ n, e.node? = some n := by
  cases e with
  | start _ _ | endTag _ => cases h
  | startEnd _ _ | data _ | comment _ | declaration _ | instruction _ | bracketed _ =>
      exact ⟨_, rfl⟩

/-- What is printed of events that are nodes by themselves. -/
def printedAlone (family : Family) (es : List Event) : String :=
  printAll family false (es.filterMap Event.node?)

theorem printedAlone_cons {family : Family} {e : Event} {n : Node} (made : e.node? = some n)
    (es : List Event) :
    printedAlone family (e :: es) = n.print family false ++ printedAlone family es := by
  rw [printedAlone, List.filterMap_cons_some made, printAll]
  rfl

theorem printedAlone_append (family : Family) (es es' : List Event) :
    printedAlone family (es ++ es') = printedAlone family es ++ printedAlone family es' := by
  rw [printedAlone, List.filterMap_append, printAll_append]
  rfl

theorem printText_append (family : Family) (s t : String) :
    printText family (s ++ t) = printText family s ++ printText family t := by
  rw [← String.toList_inj, String.toList_append, printText, printText, printText,
    String.toList_ofList, String.toList_ofList, String.toList_ofList, String.toList_append,
    List.flatMap_append]

namespace Builder

/-- No element is open, and all that there is is printed as `s`. -/
structure Prints (family : Family) (b : Builder) (s : String) : Prop where
  outside : b.opened = []
  printed : printAll family false b.content.reverse = s

variable {family : Family} {b : Builder} {s : String}

/-- Text is printed behind all that there is, whether it is joined to the last text or not. -/
theorem Prints.addText (h : Prints family b s) (t : String) :
    Prints family (b.addText t) (s ++ printText family t) := by
  obtain ⟨opened, content⟩ := b
  obtain ⟨outside, printed⟩ := h
  cases outside
  dsimp only at printed
  refine ⟨rfl, ?_⟩
  dsimp only [Builder.addText, mapContent]
  split
  · rename_i before rest
    rw [List.reverse_cons, printAll_append, printAll_singleton] at printed ⊢
    rw [← printed, String.append_assoc]
    exact congrArg _ (printText_append family before t)
  · rw [List.reverse_cons, printAll_append, printAll_singleton, printed]
    rfl

theorem Prints.add (h : Prints family b s) (n : Node) :
    Prints family (b.add n) (s ++ n.print family false) := by
  obtain ⟨opened, content⟩ := b
  obtain ⟨outside, printed⟩ := h
  cases outside
  dsimp only at printed
  refine ⟨rfl, ?_⟩
  dsimp only [Builder.add, mapContent]
  rw [List.reverse_cons, printAll_append, printAll_singleton, printed]

/-- What an event makes by itself is printed behind all that there is. -/
theorem Prints.step (h : Prints family b s) {e : Event} (flat : e.isFlat) {n : Node}
    (made : e.node? = some n) : Prints family (b.step e) (s ++ n.print family false) := by
  cases e with
  | start _ _ | endTag _ => cases flat
  | data t =>
      obtain rfl := Option.some.inj made
      exact h.addText t
  | startEnd _ _ | comment _ | declaration _ | instruction _ | bracketed _ =>
      obtain rfl := Option.some.inj made
      exact h.add _

theorem Prints.run (h : Prints family b s) {es : List Event} (flat : ∀ e ∈ es, e.isFlat) :
    Prints family (b.run es) (s ++ printedAlone family es) := by
  induction es generalizing b s with
  | nil => rwa [printedAlone, List.filterMap_nil, printAll, String.append_empty]
  | cons e es ih =>
      rw [List.forall_mem_cons] at flat
      obtain ⟨n, made⟩ := Event.exists_node? flat.1
      have later := ih (h.step flat.1 made) flat.2
      rwa [String.append_assoc, ← printedAlone_cons made] at later

end Builder

/-- Events that open and close no element are printed one after the other. -/
theorem printAll_ofEvents {es : List Event} (flat : ∀ e ∈ es, e.isFlat) (family : Family) :
    printAll family false (Document.ofEvents es) = printedAlone family es := by
  have start : Builder.Prints family {} "" := ⟨rfl, rfl⟩
  obtain ⟨outside, printed⟩ := start.run flat
  rw [Document.ofEvents, Builder.finish, outside]
  exact printed.trans String.empty_append

/-! ## Plain text -/

/-- Whether a character behind `<` makes it the beginning of markup. -/
def opensMarkup (c : Char) : Bool := isLetter c || c == '/' || c == '!' || c == '?'

/-- Whether there is no markup in some text. -/
def isTextRun : List Char → Bool
  | [] => true
  | c :: cs => (c != '<' || !cs.head?.any opensMarkup) && isTextRun cs

def Event.isData : Event → Bool
  | .data _ => true
  | _ => false

theorem isFlat_of_isData {es : List Event} (data : ∀ e ∈ es, e.isData) : ∀ e ∈ es, e.isFlat := by
  intro e he
  have text := data e he
  cases e <;> first | rfl | cases text

theorem isTextRun_drop {cs : List Char} (h : isTextRun cs) (n : Nat) : isTextRun (cs.drop n) := by
  induction cs generalizing n with
  | nil => rwa [List.drop_nil]
  | cons c cs ih =>
      cases n with
      | zero => exact h
      | succ n =>
          rw [isTextRun, Bool.and_eq_true] at h
          exact ih h.2 n

theorem tagStep_text {cs : List Char} (h : cs.head?.any opensMarkup = false) :
    tagStep cs = .events [.data "<"] 1 := by
  cases cs with
  | nil => rfl
  | cons c cs =>
      have other : opensMarkup c = false := h
      simp only [opensMarkup, Bool.or_eq_false_iff, beq_eq_false_iff_ne] at other
      unfold tagStep
      split
      · rename_i eq; exact absurd (List.cons.inj eq).1 other.1.1.2
      · rename_i eq; exact absurd (List.cons.inj eq).1 other.2
      · rename_i eq; exact absurd (List.cons.inj eq).1 other.1.2
      · rename_i eq
        obtain ⟨rfl, -⟩ := List.cons.inj eq
        rw [other.1.1.1, if_neg Bool.false_ne_true]
      · rfl

/-- A bracket that opens no markup is read as text. -/
theorem eventsFrom_sign {cs : List Char} (h : cs.head?.any opensMarkup = false) :
    eventsFrom none 0 ('<' :: cs) = (eventsFrom none 0 cs).map ([.data "<"] ++ ·) := by
  have step : tagStep ([] ++ cs) = .events [.data "<"] (([] : List Char).length + 1) :=
    tagStep_text h
  exact eventsFrom_of_tagStep step rfl

/-- Other text is read up to the next bracket. -/
theorem eventsFrom_word {c : Char} (h : c ≠ '<') (cs : List Char) :
    eventsFrom none 0 (c :: cs)
      = (textEvent ((c :: cs).takeWhile (· != '<'))).bind fun e =>
          (eventsFrom none (((c :: cs).takeWhile (· != '<')).length - 1) cs).map ([e] ++ ·) := by
  have other : (c == '<') = false := beq_eq_false_iff_ne.mpr h
  rw [eventsFrom, other, if_neg Bool.false_ne_true]
  rfl

theorem isData_of_textEvent {cs : List Char} {e : Event} (h : textEvent cs = .ok e) : e.isData := by
  unfold textEvent at h
  split at h <;> cases h
  rfl

/-- Plain text is read as text, and apart from what follows it if that is a bracket. -/
theorem eventsFrom_textRun {skip : Nat} {cs : List Char} {es : List Event}
    (h : eventsFrom none skip cs = .ok es) (plain : isTextRun cs) (short : skip ≤ cs.length) :
    (∀ e ∈ es, e.isData) ∧ ∀ rest : List Char, (∀ c ∈ rest.head?, c = '<') →
      eventsFrom none skip (cs ++ rest) = (eventsFrom none 0 rest).map (es ++ ·) := by
  induction cs generalizing skip es with
  | nil =>
      obtain rfl : skip = 0 := Nat.le_zero.mp short
      cases h
      refine ⟨nofun, fun rest _ => ?_⟩
      cases read : eventsFrom none 0 rest <;> simp [Except.map, read]
  | cons c cs ih =>
      rw [isTextRun, Bool.and_eq_true] at plain
      cases skip with
      | succ skip => exact ih h plain.2 (Nat.le_of_succ_le_succ short)
      | zero =>
          by_cases opening : c = '<'
          · subst opening
            have alone : cs.head?.any opensMarkup = false := by simpa using plain.1
            rw [eventsFrom_sign alone] at h
            obtain ⟨later, read, rfl⟩ := map_eq_ok h
            obtain ⟨data, apart⟩ := ih read plain.2 (Nat.zero_le _)
            refine ⟨List.forall_mem_cons.mpr ⟨rfl, data⟩, fun rest bracket => ?_⟩
            -- a bracket behind a bracket opens nothing either
            have still : (cs ++ rest).head?.any opensMarkup = false := by
              rw [Option.any_eq_false] at alone ⊢
              intro d hd
              rw [List.head?_append, Option.or_eq_some_iff] at hd
              rcases hd with own | ⟨-, behind⟩
              · exact alone d own
              · rw [bracket d behind]
                decide
            rw [List.cons_append, eventsFrom_sign still, apart rest bracket, map_map_append]
          · rw [eventsFrom_word opening] at h
            cases said : textEvent ((c :: cs).takeWhile (· != '<')) with
            | error e =>
                rw [said] at h
                cases h
            | ok e =>
                rw [said] at h
                obtain ⟨later, read, rfl⟩ := map_eq_ok h
                have part := (List.takeWhile_sublist (l := c :: cs) (· != '<')).length_le
                rw [List.length_cons] at part
                obtain ⟨data, apart⟩ := ih read plain.2 (by omega)
                refine ⟨List.forall_mem_cons.mpr ⟨isData_of_textEvent said, data⟩,
                  fun rest bracket => ?_⟩
                have taken : (c :: (cs ++ rest)).takeWhile (· != '<')
                    = (c :: cs).takeWhile (· != '<') := by
                  rw [← List.cons_append]
                  exact takeWhile_append _ (by simpa using bracket)
                rw [List.cons_append, eventsFrom_word opening, taken, said]
                exact (congrArg _ (apart rest bracket)).trans (map_map_append _ _ _)

/-! ## Declarations -/

/-- The words that a marked section begins with. -/
def markedWords : List String := ["temp", "cdata", "ignore", "include", "rcdata"]

/-- The words that a condition begins with. -/
def conditionWords : List String := ["if", "else", "endif"]

/-- The first word of a declaration, case aside. -/
def firstWord (d : List Char) : String := Text.lower (String.ofList (d.takeWhile isSectionChar))

/-- The first word of a declaration with the blanks behind it. -/
def shownWord (d : List Char) : String :=
  let word := d.takeWhile isSectionChar
  String.ofList (word ++ (d.drop word.length).takeWhile isBlank)

/-- What is read of a declaration up to where `at?` finds its end. -/
def closedBy (at? : List Char → Option Nat) (cs : List Char) : Step :=
  match search? at? cs with
  | some (i, n) => .events [.bracketed (String.ofList (cs.take i))] (3 + i + n)
  | none => .cutOff

/-- A declaration that has a bracket is read up to the end that goes with its first word. -/
theorem bracketedStep_closed {d : List Char} (letter : d.head?.any isLetter) (tail : List Char) :
    bracketedStep (d ++ ']' :: tail) =
      if firstWord d ∈ markedWords then closedBy sectionEnd? (d ++ ']' :: tail)
      else if firstWord d ∈ conditionWords then closedBy conditionEnd? (d ++ ']' :: tail)
      else .error (.unknownSection (shownWord d)) := by
  have word : (d ++ ']' :: tail).takeWhile isSectionChar = d.takeWhile isSectionChar :=
    takeWhile_append d (by simp; decide)
  have blanks : ((d ++ ']' :: tail).drop (d.takeWhile isSectionChar).length).takeWhile isBlank
      = (d.drop (d.takeWhile isSectionChar).length).takeWhile isBlank := by
    rw [List.drop_append_of_le_length (List.takeWhile_sublist _).length_le]
    exact takeWhile_append _ (by simp; decide)
  have shown := take_word (d ++ ']' :: tail)
  dsimp only at shown
  rw [word, blanks] at shown
  have head : (d ++ ']' :: tail).head?.any isLetter := by
    cases d with
    | nil => cases letter
    | cons c cs => exact letter
  -- the bracket is neither in the word nor one of the blanks
  have longer : (d.takeWhile isSectionChar).length
      + ((d.drop (d.takeWhile isSectionChar).length).takeWhile isBlank).length
        ≠ (d ++ ']' :: tail).length := by
    intro whole
    rw [whole, List.take_length] at shown
    have inside : ']' ∈ d ++ ']' :: tail := by simp
    rw [shown, List.mem_append] at inside
    rcases inside with part | part
    · exact absurd (List.all_eq_true.mp List.all_takeWhile _ part) (by decide)
    · exact absurd (List.all_eq_true.mp List.all_takeWhile _ part) (by decide)
  have filled : (d ++ ']' :: tail).isEmpty = false := by simp
  unfold bracketedStep
  extract_lets name spaces first closed
  have hname : name = d.takeWhile isSectionChar := word
  have hspaces : spaces
      = ((d.drop (d.takeWhile isSectionChar).length).takeWhile isBlank).length := by
    rw [← blanks, ← hname]
  have hfirst : first = firstWord d := congrArg (fun cs => Text.lower (String.ofList cs)) hname
  rw [filled, head, hspaces, hname, hfirst, beq_eq_false_iff_ne.mpr longer]
  simp only [Bool.false_eq_true, if_false, Bool.not_true, List.contains_iff_mem]
  rw [shown]
  rfl

/-! ## Where a declaration ends -/

theorem conditionEnd?_cons {c : Char} (cs : List Char) (h : c ≠ ']') :
    conditionEnd? (c :: cs) = none := by
  unfold conditionEnd?
  split
  · rename_i eq
    exact absurd (List.cons.inj eq).1 h
  · rfl

theorem sectionEnd?_cons {c : Char} (cs : List Char) (h : c ≠ ']') :
    sectionEnd? (c :: cs) = none := by
  unfold sectionEnd?
  split
  · rename_i eq
    exact absurd (List.cons.inj eq).1 h
  · rfl

theorem conditionEnd?_bracket (rest : List Char) : conditionEnd? (']' :: '>' :: rest) = some 2 := by
  rw [conditionEnd?, closingBracket?_cons]
  rfl

section

variable {d : List Char} (plain : ']' ∉ d) (behind : List Char)

include plain

/-- A condition ends at the last bracket, and the one in front of it is part of it. -/
theorem closedBy_conditionEnd {stem : List Char} (ends : stem = [] ∨ stem = [']']) :
    closedBy conditionEnd? (d ++ (stem ++ ']' :: '>' :: behind))
      = .events [.bracketed (String.ofList (d ++ stem))] (3 + (d ++ stem).length + 2) := by
  have found : search? conditionEnd? (d ++ (stem ++ ']' :: '>' :: behind))
      = some ((d ++ stem).length, 2) := by
    rw [search?_append (fun c cs => conditionEnd?_cons cs) plain]
    rcases ends with rfl | rfl
    · rw [List.nil_append, List.append_nil, search?, conditionEnd?_bracket]
      rfl
    · have here : conditionEnd? (']' :: ']' :: '>' :: behind) = none := rfl
      rw [List.singleton_append, search?, here]
      dsimp only
      rw [search?, conditionEnd?_bracket]
      simp
  rw [closedBy, found]
  dsimp only
  rw [← List.append_assoc, List.take_left]

/-- A marked section ends at two brackets. -/
theorem closedBy_sectionEnd :
    closedBy sectionEnd? (d ++ ']' :: ']' :: '>' :: behind)
      = .events [.bracketed (String.ofList d)] (3 + d.length + 3) := by
  have here : sectionEnd? (']' :: ']' :: '>' :: behind) = some 3 := by
    have bracket : isBlank ']' = false := by decide
    simp [sectionEnd?, bracket, conditionEnd?_bracket]
  have found : search? sectionEnd? (d ++ ']' :: ']' :: '>' :: behind) = some (d.length, 3) := by
    rw [search?_append (fun c cs => sectionEnd?_cons cs) plain, search?, here]
    rfl
  rw [closedBy, found]
  dsimp only
  rw [List.take_left]

/-- It does not end at one bracket, but at the next two in the text behind it, if there are
any. -/
theorem closedBy_sectionEnd_single :
    closedBy sectionEnd? (d ++ ']' :: '>' :: behind) = .cutOff ∨ ∃ i n,
      closedBy sectionEnd? (d ++ ']' :: '>' :: behind)
        = .events [.bracketed (String.ofList (d ++ ']' :: '>' :: behind.take i))]
            (3 + (d.length + 2 + i) + n) := by
  have bracket : sectionEnd? (']' :: '>' :: behind) = none := by
    have angle : isBlank '>' = false := by decide
    simp [sectionEnd?, angle, conditionEnd?_cons]
  have angle : sectionEnd? ('>' :: behind) = none := sectionEnd?_cons behind (by decide)
  have found : search? sectionEnd? (d ++ ']' :: '>' :: behind)
      = (search? sectionEnd? behind).map fun found => (d.length + 2 + found.1, found.2) := by
    rw [search?_append (fun c cs => sectionEnd?_cons cs) plain, search?, bracket]
    dsimp only
    rw [search?, angle]
    dsimp only
    rw [Option.map_map, Option.map_map]
    refine congrArg (Option.map · _) (funext fun found => ?_)
    simp only [Function.comp_apply, Prod.mk.injEq, and_true]
    omega
  rw [closedBy, found]
  cases search? sectionEnd? behind with
  | none => exact .inl rfl
  | some stop =>
      refine .inr ⟨stop.1, stop.2, ?_⟩
      dsimp only [Option.map_some]
      have taken : (d ++ ']' :: '>' :: behind).take (d.length + 2 + stop.1)
          = d ++ ']' :: '>' :: behind.take stop.1 := by
        rw [Nat.add_assoc, List.take_length_add_append, Nat.add_comm 2, List.take_succ_cons,
          List.take_succ_cons]
      rw [taken]

end

/-! ## Declarations as events -/

/-- A declaration that is read with its end. -/
theorem eventsFrom_bracketed {cs behind : List Char} {s : String}
    (h : bracketedStep (cs ++ behind) = .events [.bracketed s] (3 + cs.length)) :
    eventsFrom none 0 ('<' :: '!' :: '[' :: (cs ++ behind))
      = (eventsFrom none 0 behind).map ([.bracketed s] ++ ·) := by
  have step : tagStep (('!' :: '[' :: cs) ++ behind)
      = .events [.bracketed s] (('!' :: '[' :: cs).length + 1) := by
    refine h.trans (congrArg (Step.events _) ?_)
    simp only [List.length_cons]
    omega
  exact eventsFrom_of_tagStep step rfl

/-- A declaration that stops the reader. -/
theorem eventsFrom_refused {cs : List Char} {e : MarkupError} (h : bracketedStep cs = .error e) :
    eventsFrom none 0 ('<' :: '!' :: '[' :: cs) = .error e := by
  have step : tagStep ('!' :: '[' :: cs) = .error e := h
  rw [eventsFrom, step]
  rfl

/-- A declaration without its end is text, or takes in some of the text behind it. -/
theorem eventsFrom_unclosed {d behind : List Char} {es : List Event} (noBracket : ']' ∉ d)
    (noAngle : '>' ∉ d) (plain : isTextRun behind)
    (step : bracketedStep (d ++ ']' :: '>' :: behind)
      = closedBy sectionEnd? (d ++ ']' :: '>' :: behind))
    (h : eventsFrom none 0 ('<' :: '!' :: '[' :: (d ++ ']' :: '>' :: behind)) = .ok es) :
    (∀ e ∈ es, e.isData) ∨ ∃ s later, '>' ∈ s.toList ∧ es = .bracketed s :: later ∧
      ∀ e ∈ later, e.isData := by
  have tag : tagStep ('!' :: '[' :: (d ++ ']' :: '>' :: behind))
      = closedBy sectionEnd? (d ++ ']' :: '>' :: behind) := step
  -- whatever is read then is plain text
  have rest {n : Nat} {later : List Event}
      (read : eventsFrom none (d.length + 4 + n) ('!' :: '[' :: (d ++ ']' :: '>' :: behind))
        = .ok later) : ∀ e ∈ later, e.isData := by
    have dropped : ('!' :: '[' :: (d ++ ']' :: '>' :: behind)).drop (d.length + 4 + n)
        = behind.drop n := by
      have whole : '!' :: '[' :: (d ++ ']' :: '>' :: behind)
          = ('!' :: '[' :: (d ++ [']', '>'])) ++ behind := by simp
      have length : d.length + 4 + n = ('!' :: '[' :: (d ++ [']', '>'])).length + n := by simp
      rw [whole, length, List.drop_length_add_append]
    rw [eventsFrom_drop, dropped] at read
    exact (eventsFrom_textRun read (isTextRun_drop plain n) (Nat.zero_le _)).1
  rw [eventsFrom, tag, beq_self_eq_true, if_pos rfl] at h
  rcases closedBy_sectionEnd_single noBracket behind with cut | ⟨i, n, taken⟩
  · have angle : find? ['>'] ('!' :: '[' :: (d ++ ']' :: '>' :: behind)) = some (d.length + 3) := by
      have whole : '!' :: '[' :: (d ++ ']' :: '>' :: behind)
          = ('!' :: '[' :: (d ++ [']'])) ++ '>' :: behind := by simp
      rw [whole, find?_bracket (by simpa using noAngle)]
      simp
    rw [cut] at h
    dsimp only [cutOffLength] at h
    rw [angle] at h
    dsimp only at h
    cases said : textEvent ('<' :: ('!' :: '[' :: (d ++ ']' :: '>' :: behind)).take
        (d.length + 3 + 2 - 1)) with
    | error e =>
        rw [said] at h
        cases h
    | ok e =>
        rw [said] at h
        obtain ⟨later, read, rfl⟩ := map_eq_ok h
        exact .inl (List.forall_mem_cons.mpr ⟨isData_of_textEvent said, rest (n := 0) read⟩)
  · rw [taken] at h
    dsimp only at h
    obtain ⟨later, read, rfl⟩ := map_eq_ok h
    have length : 3 + (d.length + 2 + i) + n - 1 = d.length + 4 + (i + n) := by omega
    rw [length] at read
    exact .inr ⟨_, later, by simp, rfl, rest read⟩

/-! ## Printing what was read -/

/-- Markup that is read and printed again. -/
def reprinted (family : Family) (s : String) : Except MarkupError String :=
  (Document.ofText s).map (printAll family false)

theorem reprinted_of_events {s : String} {es : List Event} (h : eventsFrom none 0 s.toList = .ok es)
    (flat : ∀ e ∈ es, e.isFlat) (family : Family) :
    reprinted family s = .ok (printedAlone family es) := by
  rw [reprinted, Document.ofText, events, h]
  exact congrArg Except.ok (printAll_ofEvents flat family)

/-- Plain text that is read is printed as its texts. -/
theorem reprinted_textRun {family : Family} {s t : String} (h : reprinted family s = .ok t)
    (plain : isTextRun s.toList) : ∃ es, eventsFrom none 0 s.toList = .ok es ∧
      (∀ e ∈ es, e.isData) ∧ t = printedAlone family es := by
  obtain ⟨doc, read, rfl⟩ := map_eq_ok h
  obtain ⟨es, hes, rfl⟩ := map_eq_ok read
  have data := (eventsFrom_textRun hes plain (Nat.zero_le _)).1
  exact ⟨es, hes, data, printAll_ofEvents (isFlat_of_isData data) family⟩

/-- No bracket is printed for text. -/
theorem mem_printedAlone {family : Family} {es : List Event} (data : ∀ e ∈ es, e.isData) {x : Char}
    (h : x ∈ (printedAlone family es).toList) : x ≠ '<' ∧ x ≠ '>' := by
  induction es with
  | nil => cases h
  | cons e es ih =>
      rw [List.forall_mem_cons] at data
      cases e with
      | data s =>
          rw [printedAlone_cons rfl, String.toList_append, List.mem_append] at h
          rcases h with here | later
          · exact mem_printText here
          · exact ih data.2 later
      | start _ _ | startEnd _ _ | endTag _ | comment _ | declaration _ | instruction _
        | bracketed _ => cases data.1

/-! ## A declaration between texts -/

section

variable {family : Family} {before behind front back : String}
  (runs : isTextRun before.toList ∧ isTextRun behind.toList)
  (hfront : reprinted family before = .ok front)

theorem toList_between (before cs behind : String) : (before ++ ("<![" ++ cs) ++ behind).toList
    = before.toList ++ '<' :: '!' :: '[' :: (cs.toList ++ behind.toList) := by
  simp

include runs hfront

/-- The text in front of a declaration is read apart from it. -/
theorem eventsFrom_between (cs : String) : ∃ es, (∀ e ∈ es, e.isData) ∧
    front = printedAlone family es ∧ eventsFrom none 0 (before ++ ("<![" ++ cs) ++ behind).toList
      = (eventsFrom none 0 ('<' :: '!' :: '[' :: (cs.toList ++ behind.toList))).map (es ++ ·) := by
  obtain ⟨es, read, data, printed⟩ := reprinted_textRun hfront runs.1
  refine ⟨es, data, printed, ?_⟩
  rw [toList_between]
  refine (eventsFrom_textRun read runs.1 (Nat.zero_le _)).2 _ ?_
  rintro c ⟨⟩
  rfl

theorem reprinted_refused {cs : String} {e : MarkupError}
    (h : bracketedStep (cs.toList ++ behind.toList) = .error e) :
    reprinted family (before ++ ("<![" ++ cs) ++ behind) = .error e := by
  obtain ⟨es, -, -, whole⟩ := eventsFrom_between runs hfront cs
  rw [eventsFrom_refused h] at whole
  rw [reprinted, Document.ofText, events, whole]
  rfl

/-- A declaration that is read with its end is printed with the end of a marked section. -/
theorem reprinted_closed (hback : reprinted family behind = .ok back) {cs s : String}
    (h : bracketedStep (cs.toList ++ behind.toList)
      = .events [.bracketed s] (3 + cs.toList.length)) :
    reprinted family (before ++ ("<![" ++ cs) ++ behind)
      = .ok (front ++ ("<![" ++ s ++ "]]>") ++ back) := by
  obtain ⟨es, data, rfl, whole⟩ := eventsFrom_between runs hfront cs
  obtain ⟨later, read, more, rfl⟩ := reprinted_textRun hback runs.2
  rw [eventsFrom_bracketed h, read] at whole
  have flat : ∀ e ∈ es ++ .bracketed s :: later, e.isFlat :=
    List.forall_mem_append.mpr ⟨isFlat_of_isData data,
      List.forall_mem_cons.mpr ⟨rfl, isFlat_of_isData more⟩⟩
  have printed : printedAlone family (.bracketed s :: later)
      = "<![" ++ s ++ "]]>" ++ printedAlone family later :=
    printedAlone_cons (e := .bracketed s) rfl later
  refine (reprinted_of_events whole flat family).trans (congrArg Except.ok ?_)
  show printedAlone family (es ++ .bracketed s :: later) = _
  rw [printedAlone_append, printed]
  exact String.append_assoc.symm

/-- A marked section without its own end is not printed as it was written. -/
theorem reprinted_unclosed (hback : reprinted family behind = .ok back) {d : String}
    (plain : ∀ c ∈ ['<', '>', '[', ']'], c ∉ d.toList)
    (step : bracketedStep (d.toList ++ ']' :: '>' :: behind.toList)
      = closedBy sectionEnd? (d.toList ++ ']' :: '>' :: behind.toList)) :
    reprinted family (before ++ ("<![" ++ (d ++ "]>")) ++ behind)
      ≠ .ok (front ++ ("<![" ++ (d ++ "]>")) ++ back) := by
  intro same
  obtain ⟨es, data, rfl, whole⟩ := eventsFrom_between runs hfront (d ++ "]>")
  obtain ⟨later, -, more, rfl⟩ := reprinted_textRun hback runs.2
  simp only [List.mem_cons, List.not_mem_nil, or_false, forall_eq_or_imp, forall_eq] at plain
  obtain ⟨-, noAngle, -, noBracket⟩ := plain
  have chars : (d ++ "]>").toList ++ behind.toList = d.toList ++ ']' :: '>' :: behind.toList := by
    simp
  rw [chars] at whole
  cases read : eventsFrom none 0
      ('<' :: '!' :: '[' :: (d.toList ++ ']' :: '>' :: behind.toList)) with
  | error e =>
      rw [read] at whole
      rw [reprinted, Document.ofText, events, whole] at same
      cases same
  | ok es' =>
      rw [read] at whole
      -- nothing is taken for a declaration, or one that goes on to a later bracket
      have shape := eventsFrom_unclosed noBracket noAngle runs.2 step read
      have flat : ∀ e ∈ es ++ es', e.isFlat := by
        refine List.forall_mem_append.mpr ⟨isFlat_of_isData data, ?_⟩
        rcases shape with all | ⟨s, others, -, rfl, all⟩
        · exact isFlat_of_isData all
        · exact List.forall_mem_cons.mpr ⟨rfl, isFlat_of_isData all⟩
      rw [reprinted_of_events whole flat family, Except.ok.injEq, printedAlone_append,
        String.append_assoc, ← String.toList_inj, String.toList_append, String.toList_append,
        List.append_cancel_left_eq, String.toList_append] at same
      rcases shape with all | ⟨s, others, angle, rfl, -⟩
      · -- text is printed without brackets
        have inside : '<' ∈ (printedAlone family es').toList := by
          rw [same]
          simp
        exact (mem_printedAlone all inside).1 rfl
      · -- one bracket stands in what was taken in, and one behind it
        have printed : printedAlone family (.bracketed s :: others)
            = "<![" ++ s ++ "]]>" ++ printedAlone family others :=
          printedAlone_cons (e := .bracketed s) rfl others
        have none : '>' ∉ (printedAlone family later).toList := fun h =>
          (mem_printedAlone more h).2 rfl
        have some : 0 < s.toList.count '>' := List.count_pos_iff.mpr angle
        have marks : "]]>".toList.count '>' = 1 ∧ "<![".toList.count '>' = 0
            ∧ "]>".toList.count '>' = 1 := by decide
        have counts := congrArg (List.count '>') same
        rw [printed] at counts
        simp only [String.toList_append, List.count_append, List.count_eq_zero.mpr noAngle,
          List.count_eq_zero.mpr none] at counts
        omega

end

/-- What stands behind `<![` in a declaration, and what closes it. -/
structure IsDeclared (d closing : String) : Prop where
  letter : d.toList.head?.any isLetter
  plain : ∀ c ∈ ['<', '>', '[', ']'], c ∉ d.toList
  ends : closing = "]>" ∨ closing = "]]>"

section

variable {family : Family} {before d closing behind front back : String}
  (declared : IsDeclared d closing) (runs : isTextRun before.toList ∧ isTextRun behind.toList)
  (hfront : reprinted family before = .ok front)

/-- The characters behind `<![`, up to the last of the brackets and from there. -/
theorem IsDeclared.chars (declared : IsDeclared d closing) (behind : String) :
    ∃ stem, (stem = [] ∨ stem = [']']) ∧ closing.toList = stem ++ [']', '>'] ∧
      (d ++ closing).toList ++ behind.toList
        = d.toList ++ (stem ++ ']' :: '>' :: behind.toList) := by
  rcases declared.ends with rfl | rfl
  · exact ⟨[], .inl rfl, rfl, by simp⟩
  · exact ⟨[']'], .inr rfl, rfl, by simp⟩

include declared

theorem IsDeclared.bracketedStep (behind : String) :
    bracketedStep ((d ++ closing).toList ++ behind.toList) =
      if firstWord d.toList ∈ markedWords then
        closedBy sectionEnd? ((d ++ closing).toList ++ behind.toList)
      else if firstWord d.toList ∈ conditionWords then
        closedBy conditionEnd? ((d ++ closing).toList ++ behind.toList)
      else .error (.unknownSection (shownWord d.toList)) := by
  obtain ⟨stem, ends, -, chars⟩ := declared.chars behind
  obtain ⟨tail, shape⟩ : ∃ tail, stem ++ ']' :: '>' :: behind.toList = ']' :: tail := by
    rcases ends with rfl | rfl
    · exact ⟨_, rfl⟩
    · exact ⟨_, rfl⟩
  rw [chars, shape]
  exact bracketedStep_closed declared.letter tail

include runs hfront

/-- A condition is printed with one bracket more. -/
theorem reprinted_condition (hback : reprinted family behind = .ok back)
    (word : firstWord d.toList ∈ conditionWords) :
    reprinted family (before ++ ("<![" ++ (d ++ closing)) ++ behind)
      = .ok (front ++ ("<![" ++ (d ++ "]" ++ closing)) ++ back) := by
  have other : firstWord d.toList ∉ markedWords := by
    intro marked
    simp only [conditionWords, List.mem_cons, List.not_mem_nil, or_false] at word
    rcases word with same | same | same <;> rw [same] at marked <;> revert marked <;> decide
  have noBracket : ']' ∉ d.toList := declared.plain _ (by decide)
  obtain ⟨stem, ends, close, chars⟩ := declared.chars behind
  have step := declared.bracketedStep behind
  rw [if_neg other, if_pos word, chars, closedBy_conditionEnd noBracket _ ends, ← chars] at step
  have length : 3 + (d.toList ++ stem).length + 2 = 3 + (d ++ closing).toList.length := by
    rw [String.toList_append, close]
    simp only [List.length_append, List.length_cons, List.length_nil]
    omega
  rw [length] at step
  have printed : "<![" ++ String.ofList (d.toList ++ stem) ++ "]]>"
      = "<![" ++ (d ++ "]" ++ closing) := by
    rw [← String.toList_inj]
    simp only [String.toList_append, String.toList_ofList, close]
    rcases ends with rfl | rfl <;> simp
  rw [← printed]
  exact reprinted_closed runs hfront hback step

/-- A marked section is printed as it was written exactly if it is closed like one. -/
theorem reprinted_section (hback : reprinted family behind = .ok back)
    (word : firstWord d.toList ∈ markedWords) :
    reprinted family (before ++ ("<![" ++ (d ++ closing)) ++ behind)
      = .ok (front ++ ("<![" ++ (d ++ closing)) ++ back) ↔ closing = "]]>" := by
  have noBracket : ']' ∉ d.toList := declared.plain _ (by decide)
  have step := declared.bracketedStep behind
  rw [if_pos word] at step
  rcases declared.ends with rfl | rfl
  · have chars : (d ++ "]>").toList ++ behind.toList
        = d.toList ++ ']' :: '>' :: behind.toList := by simp
    rw [chars] at step
    have changed := reprinted_unclosed runs hfront hback declared.plain step
    exact iff_of_false changed (by decide)
  · have chars : (d ++ "]]>").toList ++ behind.toList
        = d.toList ++ ']' :: ']' :: '>' :: behind.toList := by simp
    have length : 3 + d.toList.length + 3 = 3 + (d ++ "]]>").toList.length := by simp; omega
    rw [chars, closedBy_sectionEnd noBracket, ← chars, length] at step
    have printed : "<![" ++ String.ofList d.toList ++ "]]>" = "<![" ++ (d ++ "]]>") := by
      rw [String.ofList_toList, String.append_assoc]
    have kept := reprinted_closed runs hfront hback step
    rw [printed] at kept
    exact iff_of_true kept rfl

end

/-- A declaration between texts is printed as it was written exactly if it is a marked section and
closed like one. A condition, closed either way, is printed with one bracket more; and where its
first word is not known, nothing is read at all. -/
theorem reprinted_bracketed {family : Family} {before d closing behind front back : String}
    (declared : IsDeclared d closing) (runs : isTextRun before.toList ∧ isTextRun behind.toList)
    (hfront : reprinted family before = .ok front) (hback : reprinted family behind = .ok back) :
    (reprinted family (before ++ ("<![" ++ (d ++ closing)) ++ behind)
        = .ok (front ++ ("<![" ++ (d ++ closing)) ++ back) ↔
      firstWord d.toList ∈ markedWords ∧ closing = "]]>") ∧
    (firstWord d.toList ∈ conditionWords →
      reprinted family (before ++ ("<![" ++ (d ++ closing)) ++ behind)
        = .ok (front ++ ("<![" ++ (d ++ "]" ++ closing)) ++ back)) ∧
    (firstWord d.toList ∉ sectionWords →
      reprinted family (before ++ ("<![" ++ (d ++ closing)) ++ behind)
        = .error (.unknownSection (shownWord d.toList))) := by
  have condition := reprinted_condition declared runs hfront hback
  have words : sectionWords = markedWords ++ conditionWords := rfl
  have refused (unknown : firstWord d.toList ∉ sectionWords) :
      reprinted family (before ++ ("<![" ++ (d ++ closing)) ++ behind)
        = .error (.unknownSection (shownWord d.toList)) := by
    rw [words, List.mem_append, not_or] at unknown
    have step := declared.bracketedStep behind
    rw [if_neg unknown.1, if_neg unknown.2] at step
    exact reprinted_refused runs hfront step
  refine ⟨?_, condition, refused⟩
  by_cases marked : firstWord d.toList ∈ markedWords
  · rw [reprinted_section declared runs hfront hback marked, and_iff_right marked]
  · refine iff_of_false (fun kept => ?_) fun h => marked h.1
    by_cases word : firstWord d.toList ∈ conditionWords
    -- a condition comes back one bracket longer
    · rw [condition word, Except.ok.injEq] at kept
      have length := congrArg String.length kept
      simp only [String.length_append] at length
      have one : "]".length = 1 := rfl
      omega
    · rw [refused (by simp [words, marked, word])] at kept
      cases kept

theorem reprinted_bracketed_cdata : IsDeclared "CDATA x" "]]>" ∧
    isTextRun "1 < 2 ".toList ∧ isTextRun " & b".toList ∧
    reprinted .utf "1 < 2 " = .ok "1 &lt; 2 " ∧ reprinted .utf " & b" = .ok " &amp; b" ∧
    reprinted .utf "1 < 2 <![CDATA x]]> & b" = .ok "1 &lt; 2 <![CDATA x]]> &amp; b" := by
  have declared : IsDeclared "CDATA x" "]]>" := ⟨by decide, by simp, .inr rfl⟩
  have before : isTextRun "1 < 2 ".toList := by decide
  have behind : isTextRun " & b".toList := by decide
  have front : reprinted .utf "1 < 2 " = .ok "1 &lt; 2 " := by rfl
  have back : reprinted .utf " & b" = .ok " &amp; b" := by rfl
  have source : "1 < 2 " ++ ("<![" ++ ("CDATA x" ++ "]]>")) ++ " & b"
      = "1 < 2 <![CDATA x]]> & b" := by decide
  have target : "1 &lt; 2 " ++ ("<![" ++ ("CDATA x" ++ "]]>")) ++ " &amp; b"
      = "1 &lt; 2 <![CDATA x]]> &amp; b" := by decide
  have kept := (reprinted_bracketed declared ⟨before, behind⟩ front back).1.mpr
    ⟨by decide +kernel, rfl⟩
  rw [source, target] at kept
  exact ⟨declared, before, behind, front, back, kept⟩

/-- A condition is not kept as it was written. -/
theorem condition_changed : IsDeclared "if IE" "]>" ∧
    reprinted .utf "a<![if IE]>b" = .ok "a<![if IE]]>b" ∧ "a<![if IE]]>b" ≠ "a<![if IE]>b" := by
  have declared : IsDeclared "if IE" "]>" := ⟨by decide, by simp, .inl rfl⟩
  have front : reprinted .utf "a" = .ok "a" := by rfl
  have back : reprinted .utf "b" = .ok "b" := by rfl
  have source : "a" ++ ("<![" ++ ("if IE" ++ "]>")) ++ "b" = "a<![if IE]>b" := by decide
  have target : "a" ++ ("<![" ++ ("if IE" ++ "]" ++ "]>")) ++ "b" = "a<![if IE]]>b" := by decide
  have changed := reprinted_condition declared ⟨by decide, by decide⟩ front back
    (by decide +kernel)
  rw [source, target] at changed
  exact ⟨declared, changed, by decide⟩

end PageTemplates.Markup
