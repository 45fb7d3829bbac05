import PageTemplates.Compile.Page
import PageTemplates.Proofs.Charset.Usable
import PageTemplates.Proofs.Compile.Splitting

/-!
# What compiling a template gives

The charset is chosen first, and then the template is compiled with it. The main
facts:

* `value_compileWith`: compiling with the charset that was chosen, or none;
* `exists_compileAsWith`: a template that can be read and translated is compiled;
* `compile_bodyScript`: a page whose body is split off comes with a script;
* `compile_bounds`: the bounds of the model section are those found in the page.
-/

namespace PageTemplates.Compile

open Markup

theorem value_compileWith (reader : Charset.Reader) (s : Settings) (source : Bytes) :
    (compileWith reader s none source).value =
      match (Charset.guess source s.defaultCharset).value with
      | .ok charset => compileAsWith reader s charset source
      | .error e => .error (.charset e) := by
  change ((match (Charset.guess source s.defaultCharset).value with
    | .ok charset => (pure (compileAsWith reader s charset source) : Logged _)
    | .error e => pure (.error (.charset e))) : Logged _).value = _
  cases (Charset.guess source s.defaultCharset).value <;> rfl

theorem value_compile (s : Settings) (source : Bytes) :
    (compile s none source).value =
      match (Charset.guess source s.defaultCharset).value with
      | .ok charset => compileAs s charset source
      | .error e => .error (.charset e) := value_compileWith Codec.read s source

theorem mapError_ok {α ε ε' : Type} (f : ε → ε') (a : α) :
    (Except.ok a).mapError f = .ok a := rfl

theorem mapError_error {α ε ε' : Type} (f : ε → ε') (e : ε) :
    (Except.error e : Except ε α).mapError f = .error (f e) := rfl

theorem mapError_eq_ok {α ε ε' : Type} {x : Except ε α} {f : ε → ε'} {a : α}
    (h : x.mapError f = .ok a) : x = .ok a := by
  cases x with
  | error e => cases h
  | ok b =>
      cases h
      rfl

section

variable {s : Settings} {name : String} {c : Codec}

theorem ofName_of_named (known : Codec.named name = .ok c) :
    Family.ofName name = .ok (Family.ofCodec c) := by
  rw [Family.ofName, known]

theorem outputCharset_of_named (known : Codec.named name = .ok c) :
    outputCharset (some name) = name := by
  rw [outputCharset, Codec.ne_empty_of_named known, if_neg Bool.false_ne_true]

/-- A document can be written with a charset of texts. -/
theorem encode_of_named (known : Codec.named name = .ok c) (text : c.isText) (doc : Document) :
    ∃ content, Document.encode name doc = .ok content := by
  rw [Document.encode, ofName_of_named known]
  exact ⟨_, Charset.encode_of_isText known text _⟩

/-- A template that can be read and translated is compiled. -/
theorem exists_compileAsWith {reader : Charset.Reader} (known : Codec.named name = .ok c)
    (isText : c.isText) {source : Bytes} {text : String} {doc page : Document}
    {script? : Option String} (read : Charset.decodeWith reader name source = .ok text)
    (parsed : Document.ofText text = .ok doc)
    (translated : compileDocument s (Family.ofCodec c) doc = .ok (page, script?)) :
    ∃ p, compileAsWith reader s name source = .ok p := by
  obtain ⟨content, written⟩ := encode_of_named known isText page
  unfold compileAsWith
  rw [outputCharset_of_named known]
  simp only [read, parsed, ofName_of_named known, translated, written, mapError_ok, bind,
    Except.bind]
  cases script? with
  | none => exact ⟨_, rfl⟩
  | some script =>
      rw [Option.mapM_some, Charset.encode_of_isText known isText]
      exact ⟨_, rfl⟩

end

/-- A page whose body is split off comes with a script, written in its charset. -/
theorem compileAs_bodyScript {s : Settings} {charset : String} {source : Bytes} {p : Compilation}
    (mode : s.mode = .cacheSplit) (h : compileAs s charset source = .ok p) :
    ∃ text script, p.bodyScript = some (text, script) ∧
      Charset.encode p.charset text = .ok script := by
  -- splitting always gives a script, so the optional one is there
  have split : ∀ {family doc page script?},
      (compileDocument s family doc).mapError Failure.template = .ok (page, script?) →
        ∃ script, script? = some script := by
    intro family doc page script? hd
    unfold compileDocument at hd
    rw [mode] at hd
    cases hs : Compile.split { family, hide := s.hide } s.bodyUrl doc with
    | error e =>
        simp only [hs, bind, Except.bind] at hd
        cases hd
    | ok r =>
        simp only [hs, bind, Except.bind] at hd
        cases hd
        exact ⟨_, rfl⟩
  unfold compileAs compileAsWith at h
  obtain ⟨_, -, h⟩ := bind_eq_ok h
  obtain ⟨_, -, h⟩ := bind_eq_ok h
  obtain ⟨_, -, h⟩ := bind_eq_ok h
  obtain ⟨⟨page, script?⟩, compiled, h⟩ := bind_eq_ok h
  obtain ⟨_, -, h⟩ := bind_eq_ok h
  obtain ⟨text, rfl⟩ := split compiled
  obtain ⟨bodyScript, written, h⟩ := bind_eq_ok h
  cases h
  rw [Option.mapM_some] at written
  cases encoded : Charset.encode charset text with
  | error e => rw [encoded] at written; cases written
  | ok bytes =>
      rw [encoded] at written
      cases written
      exact ⟨text, bytes, rfl, encoded⟩

/-- The bounds of the model section are those found in the page. -/
theorem compileAs_bounds {s : Settings} {charset : String} {source : Bytes} {p : Compilation}
    (h : compileAs s charset source = .ok p) :
    (p.artifact.modelInit, p.artifact.modelEnd) =
      (Model.locate? p.artifact.content).elim (-1, -1) fun b => ((b.1 : Int), (b.2 : Int)) := by
  unfold compileAs compileAsWith at h
  obtain ⟨_, -, h⟩ := bind_eq_ok h
  obtain ⟨_, -, h⟩ := bind_eq_ok h
  obtain ⟨_, -, h⟩ := bind_eq_ok h
  obtain ⟨_, -, h⟩ := bind_eq_ok h
  obtain ⟨content, -, h⟩ := bind_eq_ok h
  obtain ⟨bodyScript, -, h⟩ := bind_eq_ok h
  cases h
  cases found : Model.locate? content with
  | none => simp [Artifact.ofContent, found]
  | some bounds => simp [Artifact.ofContent, found]

section

variable {s : Settings} {source : Bytes} {p : Compilation}

/-- A template that is compiled is compiled with some charset. -/
theorem exists_charset (h : (compile s none source).value = .ok p) :
    ∃ charset, compileAs s charset source = .ok p := by
  rw [value_compile] at h
  split at h
  · exact ⟨_, h⟩
  · cases h

theorem compile_bodyScript (mode : s.mode = .cacheSplit)
    (h : (compile s none source).value = .ok p) :
    ∃ text script, p.bodyScript = some (text, script) ∧
      Charset.encode p.charset text = .ok script := by
  obtain ⟨_, compiled⟩ := exists_charset h
  exact compileAs_bodyScript mode compiled

theorem compile_bounds (h : (compile s none source).value = .ok p) :
    (p.artifact.modelInit, p.artifact.modelEnd) =
      (Model.locate? p.artifact.content).elim (-1, -1) fun b => ((b.1 : Int), (b.2 : Int)) := by
  obtain ⟨_, compiled⟩ := exists_charset h
  exact compileAs_bounds compiled

end

end PageTemplates.Compile
