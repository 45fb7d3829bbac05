import PageTemplates.Proofs.Compile.Calls

/-!
# Functions that elements are compiled to

The body of a function is a literal in which complete calls stand as statements
of their own. A start tag with a `ystbool` attribute is written there as it is
in a template, as further items of an array, and no statement goes on like
that. The main facts:

* `Statements t`: `t` begins and ends inside strings of the statements of a
  function;
* `Spoiled t`: `t` breaks off the statements;
* `literal_body`: which of the two the literal of a node is;
* `hoist_reads`: a function can be read back exactly when no start tag with a
  `ystbool` attribute is written among its statements.
-/

namespace PageTemplates.Compile

open Markup Script

/-! ## Statements -/

/-- A text that begins and ends inside strings of the statements of a function,
with calls of library functions as statements in between. -/
inductive Statements : String → Prop where
  | inside {t : String} (h : IsInside t) : Statements t
  | call {s code t f : String} {as : List Argument} (front : IsInside s)
      (hf : f ∈ libraryFunctions) (h : CompleteText true (.mk f as) code) (rest : Statements t) :
      Statements (s ++ "';\nresult += " ++ code ++ ";\nresult += '" ++ t)

/-- A text that leaves the string it begins in, behind some statements, for
something else than a further statement. -/
def Spoiled (t : String) : Prop := ∃ front back, Statements front ∧ t = front ++ "'," ++ back

namespace Statements

theorem empty : Statements "" := .inside isInside_empty

theorem append {s t : String} (hs : Statements s) (ht : Statements t) : Statements (s ++ t) := by
  induction hs with
  | inside h =>
      cases ht with
      | inside h' => exact .inside (h.append h')
      | call front hf code rest =>
          have whole := Statements.call (h.append front) hf code rest
          simpa only [String.append_assoc] using whole
  | call front hf code _ ih =>
      have whole := Statements.call front hf code ih
      simpa only [String.append_assoc] using whole

/-- A call as a statement between two others. -/
theorem of_complete {code f : String} {as : List Argument} (hf : f ∈ libraryFunctions)
    (h : CompleteText true (.mk f as) code) :
    Statements ("';\nresult += " ++ code ++ ";\nresult += '") := by
  have whole := Statements.call isInside_empty hf h .empty
  simpa only [String.empty_append, String.append_empty] using whole

theorem replace {word repl t : String} (h : IsReference word.toList repl.toList)
    (ht : Statements t) : Statements (Text.replace t word repl) := by
  induction ht with
  | inside ht =>
      obtain ⟨vs, hv⟩ := ht
      exact .inside (h.replace_inside hv)
  | @call s code t f as front hf complete _ ih =>
      obtain ⟨vs, hv⟩ := front
      obtain ⟨as', hcode⟩ := h.replace_complete complete
      obtain ⟨x, rfl⟩ := complete.ends
      -- no reference goes beyond the quote or the bracket
      have pieces : Text.replace (s ++ "';\nresult += " ++ (x ++ ")") ++ ";\nresult += '" ++ t) word
          repl = Text.replace s word repl ++ "';\nresult += " ++ Text.replace (x ++ ")") word repl
            ++ ";\nresult += '" ++ Text.replace t word repl := by
        simp only [String.append_assoc]
        rw [h.replace_append ⟨'\'', by simp [marks], by simp⟩, h.append_replace (by decide),
          h.replace_append (a := x) ⟨')', by simp [marks], by simp⟩, h.append_replace (by decide),
          h.append_replace (by decide), h.replace_append (a := x) ⟨')', by simp [marks], by simp⟩,
          h.replace_eq_self (a := ")") (by decide)]
        simp only [String.append_assoc]
      rw [pieces]
      exact .call (h.replace_inside hv) hf hcode ih

theorem unmark {t : String} (h : Statements t) : Statements (unmark t) :=
  unmark_induction h fun _ ht _ _ reference => ht.replace reference

end Statements

namespace Spoiled

theorem append_left {s t : String} (hs : Statements s) (ht : Spoiled t) : Spoiled (s ++ t) := by
  obtain ⟨front, back, hf, rfl⟩ := ht
  exact ⟨s ++ front, back, hs.append hf, by simp only [String.append_assoc]⟩

theorem append_right {s : String} (hs : Spoiled s) (t : String) : Spoiled (s ++ t) := by
  obtain ⟨front, back, hf, rfl⟩ := hs
  exact ⟨front, back ++ t, hf, by simp only [String.append_assoc]⟩

theorem unmark {t : String} (h : Spoiled t) : Spoiled (unmark t) := by
  refine unmark_induction h ?_
  rintro t ⟨front, back, hf, rfl⟩ word repl reference
  refine ⟨Text.replace front word repl, Text.replace back word repl, hf.replace reference, ?_⟩
  rw [String.append_assoc, reference.replace_append ⟨'\'', by simp [marks], by simp⟩,
    reference.append_replace (by decide), String.append_assoc]

end Spoiled

/-- Statements, or a text that breaks them off if it is `spoiled`. -/
def BodyText (spoiled : Bool) (t : String) : Prop := if spoiled then Spoiled t else Statements t

namespace BodyText

theorem of_inside {t : String} (h : IsInside t) : BodyText false t := Statements.inside h

theorem append {a b : Bool} {s t : String} (hs : BodyText a s) (ht : BodyText b t) :
    BodyText (a || b) (s ++ t) := by
  cases a with
  | true => exact Spoiled.append_right hs t
  | false =>
      cases b with
      | true => exact Spoiled.append_left hs ht
      | false => exact Statements.append hs ht

theorem append_inside {a : Bool} {s t : String} (hs : BodyText a s) (ht : IsInside t) :
    BodyText a (s ++ t) := by
  have whole := hs.append (of_inside ht)
  rwa [Bool.or_false] at whole

theorem unmark {a : Bool} {t : String} (h : BodyText a t) : BodyText a (unmark t) := by
  cases a with
  | true => exact Spoiled.unmark h
  | false => exact Statements.unmark h

end BodyText

/-! ## Literals in functions -/

mutual

/-- Whether a start tag with a `ystbool` attribute is part of the literal of a
node that no directive below the node is around. -/
def Node.showsBool : Node → Bool
  | .element t cs => (lastBool? t).isSome || showsBool (t.name == "script") cs
  | .document cs => showsBool false cs
  | _ => false

/-- The same for siblings. Directly inside a script no directive is looked
at. -/
def showsBool (inScript : Bool) : List Node → Bool
  | [] => false
  | c :: cs =>
      (!(!inScript && (c.name != "script" && c.isDirective)) && Node.showsBool c)
        || showsBool inScript cs

end

theorem tagLiteral_body (o : Options) (t : Tag) :
    BodyText (lastBool? t).isSome (tagLiteral o t) := by
  cases hb : lastBool? t with
  | none => exact .of_inside (isInside_tagLiteral o hb)
  | some v =>
      have blank : IsInside " " := ⟨" ".toList, .of_plain rfl⟩
      unfold tagLiteral
      rw [hb]
      dsimp only
      generalize "<" ++ t.name ++ String.join _ = text
      refine ⟨escape text ++ " ", "YST.Txt.ystBool,['" ++ escape (v.getD "") ++ "'],'>",
        .inside ((isInside_escape text).append blank), ?_⟩
      apply String.toList_injective
      simp

/-- The text of a child in a function: the call of a directive is a statement,
and other children are written out. -/
theorem childText_body {o : Options} {site : Site} {inScript : Bool} {c : Node} {cs : List Node}
    {plain inner : Gen String} (namable : Node.allTags isNamable c)
    (others : allTags isNamable cs) (hp : Yields plain (BodyText (Node.showsBool c))) :
    Yields (childText o site.first true inScript c plain (literal o site.first false c) inner
      (branches o site.rest cs))
      (BodyText (!(!inScript && (c.name != "script" && c.isDirective)) && Node.showsBool c)) := by
  unfold childText
  split
  · -- directly inside a script, where directives do not count
    rename_i hin
    rw [hin]
    exact hp.bind fun s hs => .pure hs.unmark
  · rename_i hin
    rw [Bool.not_eq_true] at hin
    rw [hin]
    split
    · rename_i hd
      rw [hd]
      cases c with
      | element t cs' =>
          have tag := (allTags_element.mp namable).1
          have whole : Yields (literal o site.first false (.element t cs')) fun s => ∃ calls,
              TemplateText calls s ∧ (False → calls = []) :=
            (literal_yields o site.first _ namable).mono
              fun s h => h.imp fun calls hc => ⟨hc.1, False.elim⟩
          have others' : Yields (branches o site.rest cs) fun s => ∃ as, MoreText as s ∧
              (False → as = []) :=
            (branches_yields o site.rest cs others).mono
              fun s h => h.imp fun as ha => ⟨ha.1, False.elim⟩
          -- in a function only the form of the call matters, not which calls there are
          refine (elementCode_yields tag whole others').bind fun code? hcode => .pure ?_
          obtain ⟨kind, hk, hcode⟩ := hcode
          cases hcode with
          | none _ => exact .of_inside isInside_empty
          | call hf complete _ => exact Statements.of_complete hf complete
      | document _ | text _ | comment _ | doctype _ | markup _ => simp [Node.isDirective] at hd
    · rename_i hd
      rw [Bool.not_eq_true] at hd
      rw [hd]
      exact hp

mutual

/-- The literal of a node in a function is made of statements, unless a start
tag with a `ystbool` attribute is among them. -/
theorem literal_body (o : Options) (site : Site) : ∀ n, Node.allTags isNamable n →
    Yields (literal o site true n) (BodyText (Node.showsBool n))
  | .element t cs, h => by
      rw [allTags_element] at h
      have name := isPlainName_of_isNamable h.1
      rw [literal]
      refine (insideLiteral_yields (fun _ _ hs hu => BodyText.append_inside hs hu)
        fun site' opening _ => literals_body o site' (t.name == "script") opening cs h.2).bind ?_
      intro s hs
      refine .pure ?_
      rw [Node.showsBool]
      exact ((tagLiteral_body o t).append hs).append_inside (isInside_closingLiteral name)
  | .document cs, h => by
      rw [literal]
      exact literals_body o site false .settled cs h
  | .text s, _ => by
      rw [literal]
      exact .pure (.of_inside (isInside_escape _))
  | .comment _, _ => by
      rw [literal]
      exact .pure (.of_inside isInside_empty)
  | .doctype s, _ => by
      rw [literal]
      exact .pure (.of_inside (isInside_escape _))
  | .markup s, _ => by
      rw [literal]
      exact .pure (.of_inside (isInside_escape _))

theorem literals_body (o : Options) (site : Site) (inScript : Bool) (opening : Opening) :
    ∀ cs, allTags isNamable cs →
      Yields (literals o site true inScript opening cs) (BodyText (showsBool inScript cs))
  | [], _ => (literals_nil_yields opening).mono fun _ hs => .of_inside hs.1
  | c :: cs, h => by
      rw [allTags_cons] at h
      refine literals_cons_yields
        (childText_body h.1 h.2 (literal_body o site.first c h.1))
        (fun opening' _ => literals_body o site.rest inScript opening' cs h.2) ?_
      intro front t t' r hf _ ht again hr
      rw [showsBool]
      have first := (BodyText.of_inside hf).append ht
      rw [Bool.false_or] at first
      -- a child that is printed twice spoils no more than one printed once
      rcases again with rfl | ⟨-, ht'⟩
      · exact (first.append_inside isInside_empty).append hr
      · have twice := first.append ht'
        rw [Bool.or_self] at twice
        exact twice.append hr

end

/-- The same for what an element holds. -/
theorem innerLiteral_body (o : Options) (site : Site) (t : Tag) {cs : List Node}
    (h : allTags isNamable cs) :
    Yields (innerLiteral o site (.element t cs))
      (BodyText (showsBool (t.name == "script") cs)) := by
  rw [innerLiteral]
  exact insideLiteral_yields (fun _ _ hs hu => BodyText.append_inside hs hu)
    fun site' opening _ => literals_body o site' (t.name == "script") opening cs h

/-! ## Reading functions back -/

/-- An expression that a statement of a function adds to the result: a string,
or a call of a library function. -/
def IsStatement (e : Expr) : Prop :=
  (∃ s, e = .text s) ∨ ∃ f ∈ libraryFunctions, ∃ args, e = .call f args

/-- Statements are read one after the other, back into a string. -/
theorem Statements.read {t : String} (h : Statements t) (d : List Expr) (acc : List Char) :
    ∃ es acc', (State.mk d [] (.text acc)).read t = some ⟨d ++ es, [], .text acc'⟩ ∧
      ∀ e ∈ es, IsStatement e := by
  induction h generalizing d acc with
  | inside h =>
      obtain ⟨vs, hv⟩ := h
      refine ⟨[], acc ++ vs, ?_, fun e he => by cases he⟩
      rw [List.append_nil]
      exact hv.run d [] acc
  | @call s code t f as front hf complete _ ih =>
      obtain ⟨vs, hv⟩ := front
      obtain ⟨args, hcode, -⟩ := complete.code (d ++ [.text (String.ofList (acc ++ vs))]) [] false
      -- a call stands between two statements, so the string ends before it and begins again
      have closed : (State.mk d [] (.text (acc ++ vs))).read "';\nresult += "
          = some ⟨d ++ [.text (String.ofList (acc ++ vs))], [], .start false⟩ := rfl
      have opened : ∀ d' e, (State.mk d' [] (.ended (.call f e))).read ";\nresult += '"
          = some ⟨d' ++ [.call f e], [], .text []⟩ := fun _ _ => rfl
      obtain ⟨es, acc', hrest, hes⟩ := ih (d ++ [.text (String.ofList (acc ++ vs))]
        ++ [.call f (leading true ++ args)]) []
      have whole := State.read_trans (State.read_trans (State.read_trans
        (State.read_trans (hv.run d [] acc) closed) hcode) (opened _ _)) hrest
      refine ⟨.text (String.ofList (acc ++ vs)) :: .call f (leading true ++ args) :: es, acc', ?_,
        ?_⟩
      · simpa only [List.append_assoc, List.cons_append, List.nil_append] using whole
      · intro e he
        rw [List.mem_cons, List.mem_cons] at he
        rcases he with rfl | rfl | he
        · exact .inl ⟨_, rfl⟩
        · exact .inr ⟨f, hf, _, rfl⟩
        · exact hes e he

/-- No reading goes on where statements are broken off. -/
theorem Spoiled.read {t : String} (h : Spoiled t) (d : List Expr) (acc : List Char) :
    (State.mk d [] (.text acc)).read t = none := by
  obtain ⟨front, back, hf, rfl⟩ := h
  obtain ⟨es, acc', hfront, -⟩ := hf.read d acc
  have stuck : (State.mk (d ++ es) [] (.text acc')).read "'," = none := rfl
  rw [State.read_append, State.read_append, hfront, Option.bind_some, stuck, Option.bind_none]

theorem behind?_append (ws cs : List Char) : behind? ws (ws ++ cs) = some cs := by
  induction ws with
  | nil => rfl
  | cons w ws ih => simp [behind?, ih]

/-- A function is read by reading its body and its end. -/
theorem readFunction?_functionCode {name : String} (h : isIdentifier name.toList)
    (body : String) : readFunction? (functionCode name body) =
      ((State.mk [] [] (.text [])).read (body ++ "';\nreturn result;\n\x7d\n")).bind fun s =>
        s.statements?.bind fun es => some (name, es) := by
  have chars : ∀ c ∈ name.toList, isNameChar c := by
    simp only [isIdentifier, Bool.and_eq_true, List.all_eq_true] at h
    exact h.1.2
  have pieces : (functionCode name body).toList = "function ".toList ++ (name.toList ++
      ("(contextValues, contextI, params) \x7b\nvar result = ".toList ++
        ("'" ++ (body ++ "';\nreturn result;\n\x7d\n")).toList)) := by
    simp [functionCode]
  generalize body ++ "';\nreturn result;\n\x7d\n" = ending at pieces ⊢
  generalize hfront : "(contextValues, contextI, params) \x7b\nvar result = ".toList = front
    at pieces
  -- the name ends at the bracket
  have bracket : isNameChar '(' = false := by decide
  have noName : ∃ tail, front ++ ("'" ++ ending).toList = '(' :: tail := by
    subst hfront
    exact ⟨_, rfl⟩
  obtain ⟨tail, htail⟩ := noName
  have taken : (name.toList ++ (front ++ ("'" ++ ending).toList)).takeWhile isNameChar
      = name.toList := by
    rw [List.takeWhile_append_of_pos chars, htail, List.takeWhile_cons_of_neg (by simp [bracket]),
      List.append_nil]
  have dropped : (name.toList ++ (front ++ ("'" ++ ending).toList)).dropWhile isNameChar
      = front ++ ("'" ++ ending).toList := by
    rw [List.dropWhile_append_of_pos chars, htail, List.dropWhile_cons_of_neg (by simp [bracket])]
  have quote : (State.mk [] [] (.start false)).run ("'" ++ ending).toList
      = (State.mk [] [] (.text [])).read ending := by
    rw [String.toList_append, State.run_append]
    rfl
  rw [readFunction?, pieces, behind?_append]
  simp only [Option.bind_eq_bind, Option.bind_some, taken, dropped, hfront, behind?_append, quote,
    h, if_true, String.ofList_toList]

/-- The literal of a function can be read exactly when its statements are not
broken off. -/
theorem BodyText.readFunction? {spoiled : Bool} {name body : String}
    (h : isIdentifier name.toList) (hb : BodyText spoiled body) :
    (∃ es, readFunction? (functionCode name body) = some (name, es) ∧ ∀ e ∈ es, IsStatement e) ↔
      spoiled = false := by
  rw [readFunction?_functionCode h, State.read_append]
  cases spoiled with
  | true =>
      have stuck := Spoiled.read hb [] []
      simp [stuck]
  | false =>
      obtain ⟨es, acc, hr, hes⟩ := Statements.read hb [] []
      have ended : (State.mk ([] ++ es) [] (.text acc)).read "';\nreturn result;\n\x7d\n"
          = some ⟨es ++ [.text (String.ofList acc)], [], .finished⟩ := rfl
      rw [hr, Option.bind_some, ended, Option.bind_some]
      refine ⟨fun _ => rfl, fun _ => ⟨_, rfl, fun e he => ?_⟩⟩
      rw [List.mem_append, List.mem_singleton] at he
      rcases he with he | rfl
      · exact hes e he
      · exact .inl ⟨_, rfl⟩

/-- What defining a function leaves behind. -/
theorem hoist_run_eq_ok {d : Directive} {inner : Gen String} {codes codes' : List String}
    {name : String} (h : (hoist d inner).run codes = .ok (some name, codes')) :
    ∃ body below, inner.run codes = .ok (body, below) ∧
      codes' = below ++ [functionCode name body] := by
  unfold hoist at h
  cases hname : d.functionName? with
  | none => rw [hname] at h; cases h
  | some name' =>
      rw [hname] at h
      dsimp only at h
      rw [StateT.run_bind] at h
      cases hinner : inner.run codes with
      | error e => rw [hinner] at h; cases h
      | ok r =>
          obtain ⟨body, below⟩ := r
          rw [hinner] at h
          cases h
          exact ⟨body, below, rfl, rfl⟩

/-- The function that an element is compiled to can be read, as statements that
each add a string or the result of a library function, exactly when no start
tag with a `ystbool` attribute is written among them. -/
theorem hoist_reads (o : Options) (site : Site) (t : Tag) (kind : DirectiveKind) {cs : List Node}
    (namable : allTags isNamable cs) {codes codes' : List String} {name : String}
    (identifier : isIdentifier name.toList)
    (h : (hoist (t.directiveOf kind) (innerLiteral o site (.element t cs))).run codes
      = .ok (some name, codes')) :
    ∃ below code, codes' = below ++ [code] ∧
      ((∃ es, readFunction? code = some (name, es) ∧ ∀ e ∈ es, IsStatement e) ↔
        showsBool (t.name == "script") cs = false) := by
  obtain ⟨body, below, hbody, rfl⟩ := hoist_run_eq_ok h
  have text := innerLiteral_body o site t namable _ _ _ hbody
  exact ⟨below, _, rfl, text.readFunction? identifier⟩

/-- An element that declares a function `f`. -/
def declaredTag : Tag :=
  { name := "div", attributes := [("yst", some "declare"), ("id", some "f")] }

theorem hoist_reads_nested :
    let cs : List Node :=
      [.text "it's", .element { name := "p", attributes := [("yst", some "value")] }
        [.element { name := "b", attributes := [("ystbool", some "x")] } []]]
    (allTags isNamable cs ∧ isIdentifier "f".toList) ∧ ∃ code es,
      (hoist (declaredTag.directiveOf .declare)
        (innerLiteral {} .outside (.element declaredTag cs))).run [] = .ok (some "f", [code]) ∧
      readFunction? code = some ("f", es) ∧ ∀ e ∈ es, IsStatement e := by
  intro cs
  have conditions : allTags isNamable cs ∧ isIdentifier "f".toList := by decide +kernel
  have run : ∃ code, (hoist (declaredTag.directiveOf .declare)
      (innerLiteral {} .outside (.element declaredTag cs))).run [] = .ok (some "f", [code]) :=
    ⟨_, rfl⟩
  obtain ⟨code, run⟩ := run
  obtain ⟨below, code', hcode, reads⟩ := hoist_reads {} .outside declaredTag .declare conditions.1
    conditions.2 run
  obtain rfl : code = code' := by simpa using congrArg List.getLast? hcode
  obtain ⟨es, hes⟩ := reads.mpr (by decide +kernel)
  exact ⟨conditions, code, es, run, hes⟩

/-- An attribute `ystbool` among the statements of a function, which cannot be
read then. -/
theorem hoist_ystBool_unreadable :
    let cs : List Node := [.element { name := "p", attributes := [("ystbool", some "x")] } []]
    (allTags isNamable cs ∧ isIdentifier "f".toList) ∧ ∃ code,
      (hoist (declaredTag.directiveOf .declare)
        (innerLiteral {} .outside (.element declaredTag cs))).run [] = .ok (some "f", [code]) ∧
      readFunction? code = none := by
  intro cs
  have conditions : allTags isNamable cs ∧ isIdentifier "f".toList := by decide +kernel
  refine ⟨conditions,
    functionCode "f" "<p ystbool=\\\"x\\\" ',YST.Txt.ystBool,['x'],'></p>", rfl, ?_⟩
  rw [← Option.isNone_iff_eq_none]
  decide +kernel

end PageTemplates.Compile
