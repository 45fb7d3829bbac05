import PageTemplates.Proofs.Script.Grammar

/-!
# Reading what the grammar describes

Each kind of text of the grammar is described by what reading it does to the
state of the reader. The main facts:

* `TemplateText.fragment`: a text inside the strings of a template adds strings
  and its calls to the template;
* `ArgumentsText.code`, `NestedText.code`, `CompleteText.code`: the same for
  arguments and for the two forms of a call;
* `TemplateText.readExpr?`, `NestedText.readExpr?`, `CompleteText.readExpr?`:
  what whole texts stand for.
-/

namespace PageTemplates.Script

/-! ## Running -/

namespace State

@[simp] theorem run_nil (s : State) : s.run [] = some s := rfl

@[simp] theorem run_cons (s : State) (c : Char) (cs : List Char) :
    s.run (c :: cs) = (s.step c).bind (·.run cs) := rfl

theorem run_append (s : State) (xs ys : List Char) :
    s.run (xs ++ ys) = (s.run xs).bind (·.run ys) :=
  List.foldlM_append

theorem read_append (s : State) (a b : String) :
    s.read (a ++ b) = (s.read a).bind (·.read b) := by
  unfold read
  rw [String.toList_append, run_append]

theorem read_trans {s s' s'' : State} {a b : String} (h : s.read a = some s')
    (h' : s'.read b = some s'') : s.read (a ++ b) = some s'' := by
  rw [read_append, h, Option.bind_some, h']

end State

/-! ## Strings and words -/

namespace Inside

/-- The letter behind a backslash is not the one that digits follow. -/
theorem simpleEscape?_u : simpleEscape? 'u' = none := rfl

theorem run {cs vs : List Char} (h : Inside cs vs) (d : List Expr) (fs : List Frame)
    (acc : List Char) :
    (State.mk d fs (.text acc)).run cs = some ⟨d, fs, .text (acc ++ vs)⟩ := by
  induction h generalizing acc with
  | nil => simp
  | @plain c cs vs hc _ ih =>
      simp only [isPlain, Bool.and_eq_true, bne_iff_ne] at hc
      obtain ⟨⟨⟨h₁, h₂⟩, h₃⟩, h₄⟩ := hc
      simp [State.step, State.stepText, h₁, h₂, h₃, h₄, ih]
  | @escape c x cs vs hc _ ih =>
      have hu : c ≠ 'u' := by
        rintro rfl
        rw [simpleEscape?_u] at hc
        cases hc
      simp [State.step, State.stepText, hu, hc, ih]
  | code ha hb hc hd _ ih =>
      simp [State.step, State.stepText, State.stepCode, ha, hb, hc, hd, ih]
  | joined _ ih =>
      simp [State.step, State.stepText, ih]

end Inside

theorem wordExpr?_of_isName {f : String} (h : IsName f) :
    wordExpr? f.toList = some (.name f) := by
  simp [wordExpr?, h.notNull, h.dotted]

theorem run_nameChars {cs : List Char} (h : cs.all fun c => isNameChar c || c == '.')
    (d : List Expr) (fs : List Frame) (acc : List Char) :
    (State.mk d fs (.word acc)).run cs = some ⟨d, fs, .word (acc ++ cs)⟩ := by
  induction cs generalizing acc with
  | nil => simp
  | cons c cs ih =>
      rw [List.all_cons, Bool.and_eq_true] at h
      have hcs := ih h.2
      simp [State.step, State.stepWord, h.1, hcs]

/-- The characters that begin something else than a name. -/
theorem not_isNameStart :
    [' ', '\'', '[', '\x7b', '0'].all fun c => !isNameStart c := by decide

theorem read_name {f : String} (h : IsName f) (d : List Expr) (fs : List Frame) (b : Bool) :
    (State.mk d fs (.start b)).read f = some ⟨d, fs, .word f.toList⟩ := by
  unfold State.read
  have hs := h.start
  have hchars := h.chars
  cases hf : f.toList with
  | nil => simp [hf] at hs
  | cons c cs =>
      rw [hf] at hs hchars
      rw [List.all_cons, Bool.and_eq_true] at hchars
      have hc : isNameStart c := by simpa using hs
      have ne : ∀ x ∈ [' ', '\'', '[', '\x7b', '0'], c ≠ x := by
        rintro x hx rfl
        have := List.all_eq_true.mp not_isNameStart c hx
        rw [hc] at this
        cases this
      simp only [List.mem_cons, List.not_mem_nil, or_false, forall_eq_or_imp, forall_eq] at ne
      obtain ⟨h₁, h₂, h₃, h₄, h₅⟩ := ne
      have hcs := run_nameChars hchars.2 d fs [c]
      simpa [State.step, State.stepStart, h₁, h₂, h₃, h₄, h₅, hc] using hcs

/-! ## Templates -/

theorem calls?_append {xs ys : List Expr} {as bs : List Call} (hx : calls? xs = some as)
    (hy : calls? ys = some bs) : calls? (xs ++ ys) = some (as ++ bs) := by
  match xs with
  | [] =>
      cases hx
      exact hy
  | .text t :: xs =>
      rw [calls?] at hx
      rw [List.cons_append, calls?]
      exact calls?_append hx hy
  | .name f :: .array args :: xs =>
      rw [calls?] at hx
      cases ha : arguments? args with
      | none => rw [ha] at hx; cases hx
      | some as' =>
          cases hc : calls? xs with
          | none => rw [ha, hc] at hx; cases hx
          | some cs =>
              rw [ha, hc] at hx
              cases hx
              rw [List.cons_append, List.cons_append, calls?, ha, calls?_append hc hy]
              rfl
  | .null :: _ | .zero :: _ | .object :: _ | .array _ :: _ | .call _ _ :: _ => cases hx
  | [.name _] | .name _ :: .text _ :: _ | .name _ :: .null :: _ | .name _ :: .zero :: _
  | .name _ :: .object :: _ | .name _ :: .name _ :: _ | .name _ :: .call _ _ :: _ => cases hx

theorem arguments?_append {xs ys : List Expr} {as bs : List Argument}
    (hx : arguments? xs = some as) (hy : arguments? ys = some bs) :
    arguments? (xs ++ ys) = some (as ++ bs) := by
  induction xs generalizing as with
  | nil =>
      cases hx
      exact hy
  | cons e es ih =>
      rw [arguments?] at hx
      cases he : argument? e with
      | none => rw [he] at hx; cases hx
      | some a =>
          cases hs : arguments? es with
          | none => rw [he, hs] at hx; cases hx
          | some as' =>
              rw [he, hs] at hx
              cases hx
              rw [List.cons_append, arguments?, he, ih hs]
              rfl

/-- Reading `t` inside a string of a template adds strings and the given calls
to the template, and ends inside a string. -/
def Fragment (calls : List Call) (t : String) : Prop :=
  ∀ d f items fs acc, ∃ new acc',
    (State.mk d (⟨f, items⟩ :: fs) (.text acc)).read t
        = some ⟨d, ⟨f, items ++ new⟩ :: fs, .text acc'⟩ ∧
      calls? new = some calls

namespace Fragment

theorem of_inside {t : String} {vs : List Char} (h : Inside t.toList vs) : Fragment [] t := by
  intro d f items fs acc
  refine ⟨[], acc ++ vs, ?_, rfl⟩
  rw [List.append_nil]
  exact h.run d _ acc

theorem append {as bs : List Call} {s t : String} (hs : Fragment as s) (ht : Fragment bs t) :
    Fragment (as ++ bs) (s ++ t) := by
  intro d f items fs acc
  obtain ⟨new, acc', hr, hc⟩ := hs d f items fs acc
  obtain ⟨new', acc'', hr', hc'⟩ := ht d f (items ++ new) fs acc'
  refine ⟨new ++ new', acc'', ?_, calls?_append hc hc'⟩
  rw [← List.append_assoc]
  exact State.read_trans hr hr'

theorem separator : Fragment [] "','" := by
  intro d f items fs acc
  exact ⟨[.text (String.ofList acc)], [], rfl, rfl⟩

/-- A template with the calls of its fragments. -/
theorem read_template {calls : List Call} {t : String} (h : Fragment calls t) (d : List Expr)
    (fs : List Frame) (b : Bool) : ∃ items,
      (State.mk d fs (.start b)).read ("['" ++ t ++ "']") = some ⟨d, fs, .ended (.array items)⟩ ∧
        calls? items = some calls := by
  obtain ⟨new, acc, hr, hc⟩ := h d none [] fs []
  refine ⟨new ++ [.text (String.ofList acc)], ?_, ?_⟩
  · have opened : (State.mk d fs (.start b)).read "['" = some ⟨d, ⟨none, []⟩ :: fs, .text []⟩ := rfl
    refine State.read_trans (State.read_trans opened hr) ?_
    simp [State.read, State.step, State.stepText, State.follow, State.take, State.close]
  · have ending : calls? [.text (String.ofList acc)] = some [] := rfl
    simpa using calls?_append hc ending

end Fragment

/-! ## Arguments and calls -/

/-- The innermost bracket, opened for `f`, holds the expressions `items`, and
the reader is behind the last of them. -/
def Held (d : List Expr) (f : Option String) (fs : List Frame) (items : List Expr)
    (s : State) : Prop :=
  ∃ front last, items = front ++ [last] ∧ s = ⟨d, ⟨f, front⟩ :: fs, .ended last⟩

/-- Reading `t` in front of an expression adds the given arguments. -/
def ArgumentsCode (as : List Argument) (t : String) : Prop :=
  ∀ d f items fs b, ∃ args s, (State.mk d (⟨f, items⟩ :: fs) (.start b)).read t = some s ∧
    Held d f fs (items ++ args) s ∧ arguments? args = some as

section

variable {d : List Expr} {f : Option String} {items : List Expr} {fs : List Frame}

theorem step_ended_comma (e : Expr) :
    (State.mk d (⟨f, items⟩ :: fs) (.ended e)).step ','
      = some ⟨d, ⟨f, items ++ [e]⟩ :: fs, .start false⟩ := by
  cases e <;> rfl

theorem step_ended_bracket (e : Expr) :
    (State.mk d (⟨none, items⟩ :: fs) (.ended e)).step ']'
      = some ⟨d, fs, .ended (.array (items ++ [e]))⟩ := by
  cases e <;> rfl

theorem step_ended_paren (g : String) (e : Expr) :
    (State.mk d (⟨some g, items⟩ :: fs) (.ended e)).step ')'
      = some ⟨d, fs, .ended (.call g (items ++ [e]))⟩ := by
  cases e <;> rfl

theorem Held.read_comma {s : State} (h : Held d f fs items s) :
    s.read "," = some ⟨d, ⟨f, items⟩ :: fs, .start false⟩ := by
  obtain ⟨front, last, rfl, rfl⟩ := h
  simp [State.read, step_ended_comma]

theorem Held.read_bracket {s : State} (h : Held d none fs items s) :
    s.read "]" = some ⟨d, fs, .ended (.array items)⟩ := by
  obtain ⟨front, last, rfl, rfl⟩ := h
  simp [State.read, step_ended_bracket]

theorem Held.read_paren {g : String} {s : State} (h : Held d (some g) fs items s) :
    s.read ")" = some ⟨d, fs, .ended (.call g items)⟩ := by
  obtain ⟨front, last, rfl, rfl⟩ := h
  simp [State.read, step_ended_paren]

end

theorem read_quoted {t : String} {vs : List Char} (h : Inside t.toList vs) (d : List Expr)
    (fs : List Frame) (b : Bool) :
    (State.mk d fs (.start b)).read ("'" ++ t ++ "'")
      = some ⟨d, fs, .ended (.text (String.ofList vs))⟩ := by
  have opened : (State.mk d fs (.start b)).read "'" = some ⟨d, fs, .text []⟩ := rfl
  have inside : (State.mk d fs (.text [])).read t = some ⟨d, fs, .text vs⟩ := h.run d fs []
  have closed : (State.mk d fs (.text vs)).read "'"
      = some ⟨d, fs, .ended (.text (String.ofList vs))⟩ := by
    simp [State.read, State.step, State.stepText]
  exact State.read_trans (State.read_trans opened inside) closed

namespace ArgumentsCode

theorem text {t : String} {vs : List Char} (h : Inside t.toList vs) :
    ArgumentsCode [.text (String.ofList vs)] ("'" ++ t ++ "'") := by
  intro d f items fs b
  exact ⟨[.text (String.ofList vs)], _, read_quoted h d _ b, ⟨items, _, rfl, rfl⟩, rfl⟩

theorem template {calls : List Call} {t : String} (h : Fragment calls t) :
    ArgumentsCode [.template calls] ("['" ++ t ++ "']") := by
  intro d f items fs b
  obtain ⟨new, hr, hc⟩ := h.read_template d (⟨f, items⟩ :: fs) b
  refine ⟨[.array new], _, hr, ⟨items, _, rfl, rfl⟩, ?_⟩
  simp [arguments?, argument?, hc]

theorem null {as : List Argument} {t : String} (h : ArgumentsCode as t) :
    ArgumentsCode (.null :: as) ("null," ++ t) := by
  intro d f items fs b
  obtain ⟨args, s, hr, held, ha⟩ := h d f (items ++ [.null]) fs false
  refine ⟨.null :: args, s, State.read_trans rfl hr, ?_, ?_⟩
  · simpa using held
  · simp [arguments?, argument?, ha]

theorem comma {as bs : List Argument} {s t : String} (hs : ArgumentsCode as s)
    (ht : ArgumentsCode bs t) : ArgumentsCode (as ++ bs) (s ++ "," ++ t) := by
  intro d f items fs b
  obtain ⟨args, s', hr, held, ha⟩ := hs d f items fs b
  obtain ⟨args', s'', hr', held', ha'⟩ := ht d f _ fs false
  rw [List.append_assoc] at held'
  refine ⟨args ++ args', s'', ?_, held', arguments?_append ha ha'⟩
  exact State.read_trans (State.read_trans hr held.read_comma) hr'

end ArgumentsCode

/-- Reading `t` adds the nested form of a call. -/
def NestedCode (c : Call) (t : String) : Prop :=
  match c with
  | .mk function as => ∀ d f items fs b, ∃ args,
      (State.mk d (⟨f, items⟩ :: fs) (.start b)).read t
          = some ⟨d, ⟨f, items ++ [.name function]⟩ :: fs, .ended (.array args)⟩ ∧
        arguments? args = some as

/-- The arguments that every complete call begins with: those of the page, or,
in a function, the ones it was called with. -/
def leading (declare : Bool) : List Expr :=
  if declare then [.name "contextValues", .name "contextI", .name "params"]
  else [.array [], .zero, .object]

/-- Reading `t` gives the complete form of a call. -/
def CompleteCode (declare : Bool) (c : Call) (t : String) : Prop :=
  match c with
  | .mk function as => ∀ d fs b, ∃ args,
      (State.mk d fs (.start b)).read t
          = some ⟨d, fs, .ended (.call function (leading declare ++ args))⟩ ∧
        arguments? args = some as

/-- A function with its arguments in an array; a blank may stand in front of
the array. -/
theorem ArgumentsCode.nested {as : List Argument} {t function : String}
    (h : ArgumentsCode as t) (hf : IsName function) {opening : String}
    (ho : opening = ",[" ∨ opening = ", [") :
    NestedCode (.mk function as) (function ++ opening ++ t ++ "]") := by
  intro d f items fs b
  obtain ⟨args, s, hr, held, ha⟩ := h d none [] (⟨f, items ++ [.name function]⟩ :: fs) true
  have opened : (State.mk d (⟨f, items⟩ :: fs) (.word function.toList)).read opening
      = some ⟨d, ⟨none, []⟩ :: ⟨f, items ++ [.name function]⟩ :: fs, .start true⟩ := by
    have hw := wordExpr?_of_isName hf
    have hc : isNameChar ',' = false := by decide
    rcases ho with rfl | rfl <;>
      simp [State.read, State.step, State.stepWord, State.stepStart, State.follow, State.take,
        hw, hc]
  refine ⟨args, ?_, ha⟩
  exact State.read_trans (State.read_trans (State.read_trans (read_name hf d _ b) opened) hr)
    held.read_bracket

/-- A function with its arguments behind the leading ones. -/
theorem ArgumentsCode.complete {as : List Argument} {t function : String}
    (h : ArgumentsCode as t) (hf : IsName function) (declare : Bool) :
    CompleteCode declare (.mk function as) (function ++ leadingText declare ++ t ++ ")") := by
  intro d fs b
  obtain ⟨args, s, hr, held, ha⟩ := h d (some function) (leading declare) fs false
  have opened : (State.mk d fs (.word function.toList)).read "("
      = some ⟨d, ⟨some function, []⟩ :: fs, .start true⟩ := by
    have hc : isNameChar '(' = false := by decide
    simp [State.read, State.step, State.stepWord, hf.dotted, hc]
  have led : (State.mk d fs (.word function.toList)).read (leadingText declare)
      = some ⟨d, ⟨some function, leading declare⟩ :: fs, .start false⟩ := by
    cases declare with
    | true => exact State.read_trans (a := "(") (b := "contextValues,contextI,params,") opened rfl
    | false => exact State.read_trans (a := "(") (b := "[], 0, \x7b\x7d,") opened rfl
  refine ⟨args, ?_, ha⟩
  exact State.read_trans (State.read_trans (State.read_trans (read_name hf d _ b) led) hr)
    held.read_paren

/-- A nested call between two strings of a template. -/
theorem NestedCode.fragment {c : Call} {t : String} (h : NestedCode c t) :
    Fragment [c] ("'," ++ t ++ ",'") := by
  obtain ⟨function, as⟩ := c
  intro d f items fs acc
  obtain ⟨args, hr, ha⟩ := h d f (items ++ [.text (String.ofList acc)]) fs false
  refine ⟨[.text (String.ofList acc), .name function, .array args], [], ?_, ?_⟩
  · refine State.read_trans (State.read_trans rfl hr) ?_
    simp [State.read, State.step, State.follow, State.take, State.stepStart]
  · simp [calls?, ha]

/-- A call without arguments. -/
theorem NestedCode.bare {function : String} (hf : IsName function) :
    NestedCode (.mk function []) (function ++ ",[]") := by
  intro d f items fs b
  refine ⟨[], State.read_trans (read_name hf d _ b) ?_, rfl⟩
  have hw := wordExpr?_of_isName hf
  have hc : isNameChar ',' = false := by decide
  have hb : isNameStart ']' = false := by decide
  simp [State.read, State.step, State.stepWord, State.stepStart, State.follow, State.take,
    State.close, hw, hc, hb]

/-! ## The grammar -/

mutual

theorem TemplateText.fragment {cs : List Call} {t : String} : TemplateText cs t → Fragment cs t
  | .inside h => .of_inside h
  | .next front rest => by
      have whole := ((Fragment.of_inside front).append .separator).append rest.fragment
      simpa only [List.nil_append] using whole
  | .call front h rest => by
      have whole := ((Fragment.of_inside front).append h.code.fragment).append rest.fragment
      simpa only [String.append_assoc, List.nil_append, List.cons_append] using whole

theorem NestedText.code {c : Call} {t : String} : NestedText c t → NestedCode c t
  | .bare hf => .bare hf
  | .mk hf ho ha => ha.code.nested hf ho

theorem ArgumentsText.code {as : List Argument} {t : String} :
    ArgumentsText as t → ArgumentsCode as t
  | .text h => .text h
  | .template h => .template h.fragment
  | .null rest => .null rest.code
  | .comma ha hb => .comma ha.code hb.code

end

theorem CompleteText.code {declare : Bool} {c : Call} {t : String}
    (h : CompleteText declare c t) : CompleteCode declare c t := by
  cases h with
  | mk hf ha => exact ha.code.complete hf declare

/-! ## Whole texts -/

theorem CompleteText.readExpr? {declare : Bool} {function t : String} {as : List Argument}
    (h : CompleteText declare (.mk function as) t) : ∃ args,
      readExpr? t = some (.call function (leading declare ++ args)) ∧
        arguments? args = some as := by
  obtain ⟨args, hr, ha⟩ := h.code [] [] false
  refine ⟨args, ?_, ha⟩
  rw [Script.readExpr?, hr]
  rfl

theorem NestedText.readExpr? {function t : String} {as : List Argument}
    (h : NestedText (.mk function as) t) : ∃ args,
      readExpr? ("[" ++ t ++ "]") = some (.array [.name function, .array args]) ∧
        arguments? args = some as := by
  obtain ⟨args, hr, ha⟩ := h.code [] none [] [] true
  refine ⟨args, ?_, ha⟩
  have hr' : (State.mk [] [] (.start false)).read ("[" ++ t ++ "]")
      = some ⟨[], [], .ended (.array [.name function, .array args])⟩ := by
    refine State.read_trans (State.read_trans rfl hr) ?_
    simp [State.read, step_ended_bracket]
  rw [Script.readExpr?, hr']
  rfl

theorem TemplateText.readExpr? {calls : List Call} {t : String} (h : TemplateText calls t) :
    ∃ items, readExpr? ("['" ++ t ++ "']") = some (.array items) ∧ calls? items = some calls := by
  obtain ⟨items, hr, hc⟩ := h.fragment.read_template [] [] false
  refine ⟨items, ?_, hc⟩
  rw [Script.readExpr?, hr]
  rfl

end PageTemplates.Script
