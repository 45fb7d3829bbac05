import PageTemplates.Proofs.Charset.Usable
import PageTemplates.Proofs.Compile.Compiled
import PageTemplates.Proofs.Markup.Faults
import PageTemplates.Proofs.Markup.Printed

/-!
# Templates that cannot even be read

Compiling a template fails for a directive or a missing body, and then the error says
so. It also fails for templates that cannot be read at all. Which characters the bytes of
a text stand for makes no difference to that: a text is read in any way, with a reader for
all charsets of texts that never fails. Nor does it matter how they are written, for what a
charset cannot write becomes references. The main facts:

* `Illegible`: the declared charset has a name that cannot be looked up, or it is not
  one of texts or refuses these bytes, or the markup holds a declaration or a number
  that nothing can be made of;
* `compileAsWith_of_reads`: a template that can be read is compiled, or a template error
  is reported;
* `compile_refuses_iff`: compiling fails otherwise for illegible templates, and only
  for these.
-/

namespace PageTemplates.Compile

open Markup

/-- Whether a failure is reported as an error of the template. -/
def Failure.isTemplate : Failure → Bool
  | .template _ => true
  | .markup _ | .charset _ => false

/-- A compilation that comes to a page, or to an error of the template. -/
def Reported (r : Except Failure Compilation) : Prop :=
  ∀ e, r = .error e → e.isTemplate

theorem reported_ok (c : Compilation) : Reported (.ok c) := by
  rintro e ⟨⟩

theorem reported_template (e : TemplateError) : Reported (.error (.template e)) := by
  rintro _ ⟨⟩
  rfl

section

variable {reader : Charset.Reader} {s : Settings} {name : String} {c : Codec}

theorem compileAsWith_of_untranslated (known : Codec.named name = .ok c) {source : Bytes}
    {text : String} {doc : Document} {e : TemplateError}
    (read : Charset.decodeWith reader name source = .ok text)
    (parsed : Document.ofText text = .ok doc)
    (stops : compileDocument s (Family.ofCodec c) doc = .error e) :
    compileAsWith reader s name source = .error (.template e) := by
  unfold compileAsWith
  rw [outputCharset_of_named known]
  simp only [read, parsed, ofName_of_named known, stops, mapError_ok, mapError_error, bind,
    Except.bind]

/-- A template that can be read is compiled, or a template error is reported. -/
theorem compileAsWith_of_reads (known : Codec.named name = .ok c) (isText : c.isText)
    {source : Bytes} {text : String} {doc : Document}
    (read : Charset.decodeWith reader name source = .ok text)
    (parsed : Document.ofText text = .ok doc) : Reported (compileAsWith reader s name source) := by
  cases translated : compileDocument s (Family.ofCodec c) doc with
  | error e =>
      rw [compileAsWith_of_untranslated known read parsed translated]
      exact reported_template e
  | ok r =>
      obtain ⟨p, compiled⟩ := exists_compileAsWith known isText read parsed translated
      rw [compiled]
      exact reported_ok p

theorem compileAsWith_of_unread {source : Bytes} {e : CharsetError}
    (unread : Charset.decodeWith reader name source = .error e) :
    compileAsWith reader s name source = .error (.charset e) := by
  unfold compileAsWith
  rw [unread]
  rfl

theorem compileAsWith_of_unparsed {source : Bytes} {text : String} {e : MarkupError}
    (read : Charset.decodeWith reader name source = .ok text)
    (stops : Document.ofText text = .error e) :
    compileAsWith reader s name source = .error (.markup e) := by
  unfold compileAsWith
  rw [read]
  change ((Document.ofText text).mapError Failure.markup >>= _) = _
  rw [stops]
  rfl

end

/-! ## Illegible templates -/

/-- Why a template cannot be read, when texts are read by `reader` and `default?` is the
charset of templates that declare none: it declares a charset by a name with a NUL; its
charset is not one of texts or refuses its bytes; or its text is no markup, for the reason
that the error tells. -/
inductive Illegible (reader : Charset.Reader) (default? : Option String) (source : Bytes) : Prop
  | unnamed {name : String} : Charset.declared? source = some name → '\x00' ∈ name.toList →
      Illegible reader default? source
  | charset {name : String} {c : Codec} : (Charset.guess source default?).value = .ok name →
      Codec.named name = .ok c → c.reads source = false → Illegible reader default? source
  | markup {name text : String} {e : MarkupError} :
      (Charset.guess source default?).value = .ok name →
      Charset.decodeWith reader name source = .ok text → Document.ofText text = .error e →
      e.Blames text.toList → Illegible reader default? source

/-- A template that declares a charset is not empty. -/
theorem ne_nil_of_declared {source : Bytes} {name : String}
    (h : Charset.declared? source = some name) : source ≠ [] := by
  rintro rfl
  cases h

/-- The charset that is chosen is known, and if it refuses the content there is some. -/
theorem named_of_guess {default? : Option String} {usual : Codec}
    (known : Codec.named (Charset.fallback default?) = .ok usual) (isText : usual.isText)
    {source : Bytes} {name : String} (chosen : (Charset.guess source default?).value = .ok name) :
    ∃ c, Codec.named name = .ok c ∧ (c.reads source = false → source ≠ []) := by
  have guessed := Charset.guess_cases source default?
  rw [chosen] at guessed
  cases guessed with
  | declared declared found =>
      obtain ⟨c, named⟩ := Codec.exists_named_name found
      exact ⟨c, named, fun _ => ne_nil_of_declared declared⟩
  | fallback =>
      refine ⟨usual, known, ?_⟩
      rintro refuses rfl
      rw [Codec.reads, isText, show Punycode.stray? [] = none from rfl] at refuses
      simp at refuses

/-- A charset that can read is one of texts. -/
theorem isText_of_reads {c : Codec} {bs : Bytes} (h : c.reads bs) : c.isText :=
  (Bool.and_eq_true_iff.mp h).1

section

variable {reader : Charset.Reader} {s : Settings} {usual : Codec} {source : Bytes}

/-- What is not reported as an error of the template is due to its being illegible. -/
theorem illegible_of_refused (known : Codec.named (Charset.fallback s.defaultCharset) = .ok usual)
    (isText : usual.isText) {e : Failure}
    (failed : (compileWith reader s none source).value = .error e)
    (other : e.isTemplate = false) : Illegible reader s.defaultCharset source := by
  rw [value_compileWith] at failed
  have guessed := Charset.guess_cases source s.defaultCharset
  cases chosen : (Charset.guess source s.defaultCharset).value with
  | error err =>
      rw [chosen] at guessed
      cases guessed with
      | unnamed declared nul => exact .unnamed declared nul
  | ok name =>
      obtain ⟨c, named, -⟩ := named_of_guess known isText chosen
      cases reads : c.reads source with
      | false => exact .charset chosen named reads
      | true =>
          obtain ⟨text, read⟩ := Charset.decode_of_reads reader named reads
          cases parsed : Document.ofText text with
          | error err => exact .markup chosen read parsed (ofText_blames parsed)
          | ok doc =>
              rw [chosen] at failed
              have reported : Reported (compileAsWith reader s name source) :=
                compileAsWith_of_reads named (isText_of_reads reads) read parsed
              rw [reported e failed] at other
              cases other

/-- An illegible template is refused, and not with an error of the template. -/
theorem refused_of_illegible (known : Codec.named (Charset.fallback s.defaultCharset) = .ok usual)
    (isText : usual.isText) (illegible : Illegible reader s.defaultCharset source) :
    ∃ e, (compileWith reader s none source).value = .error e ∧ e.isTemplate = false := by
  rw [value_compileWith]
  cases illegible with
  | unnamed declared nul =>
      rw [Charset.guess_of_nul declared nul]
      exact ⟨_, rfl, rfl⟩
  | charset chosen named refuses =>
      obtain ⟨c, named', filled⟩ := named_of_guess known isText chosen
      cases named.symm.trans named'
      obtain ⟨err, unread⟩ := Charset.decode_of_not_reads reader named (filled refuses) refuses
      rw [chosen]
      exact ⟨_, compileAsWith_of_unread unread, rfl⟩
  | markup chosen read stops blames =>
      rw [chosen]
      exact ⟨_, compileAsWith_of_unparsed read stops, rfl⟩

end

/-- Compiling a template fails for a reason other than a directive or a missing body just
if the template is illegible, in whatever way the bytes of texts are read. The default
charset has to be one of texts. -/
theorem compile_refuses_iff (reader : Charset.Reader) {s : Settings} {usual : Codec}
    (known : Codec.named (Charset.fallback s.defaultCharset) = .ok usual) (isText : usual.isText)
    (source : Bytes) :
    (∃ e, (compileWith reader s none source).value = .error e ∧ e.isTemplate = false) ↔
      Illegible reader s.defaultCharset source := by
  constructor
  · rintro ⟨e, failed, other⟩
    exact illegible_of_refused known isText failed other
  · exact refused_of_illegible known isText

/-- A page that declares the charset `hex`, which turns bytes into bytes. -/
def hexPage : Bytes :=
  Bytes.ofAscii "<meta http-equiv=\"Content-Type\" content=\"text/html;charset=hex\"><p>x</p>"

theorem named_hex : Codec.named "hex" = .ok (.transform "hex") := by
  have noNul : "hex".toList.contains '\x00' = false := by decide
  have found : Codec.ofName? "hex" = some (.transform "hex") := by decide +kernel
  simp only [Codec.named, noNul, found]
  rfl

theorem guess_hexPage : (Charset.guess hexPage none).value = .ok "hex" := by
  have declared : Charset.declared? hexPage = some "hex" := by decide +kernel
  have named : Codec.named (Text.strip "hex") = .ok (.transform "hex") := by
    rw [show Text.strip "hex" = "hex" by decide +kernel]
    exact named_hex
  have filled : Text.allBlank "hex" = false := by decide +kernel
  simp only [Charset.guess, declared, Charset.resolve, filled, named]
  rfl

/-- The charset `hex` is not one of texts, so a page that declares it is refused. -/
theorem compile_refuses_iff_hexPage :
    ∃ e, (compile {} none hexPage).value = .error e ∧ e.isTemplate = false := by
  have usual : Codec.named (Charset.fallback ({} : Settings).defaultCharset) = .ok .utf8 :=
    named_utf8
  exact (compile_refuses_iff Codec.read usual rfl hexPage).mpr (.charset guess_hexPage named_hex rfl)

/-- The error tells of the charset and not of the template. -/
theorem compile_hexPage_notText :
    (compile {} none hexPage).value = .error (.charset (.notTextToRead "hex")) := by
  rw [value_compile, show ({} : Settings).defaultCharset = none from rfl, guess_hexPage]
  refine compileAsWith_of_unread ?_
  simp only [Charset.decodeWith, named_hex]
  rfl

end PageTemplates.Compile
