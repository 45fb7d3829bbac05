import PageTemplates.Proofs.Charset.Held
import PageTemplates.Proofs.Compile.CleanPage
import PageTemplates.Proofs.Compile.Loading

/-!
# Scripts in the bytes of a page

The text of a script is printed as it is, and what the charset of the page does not hold is
written as references, which nobody undoes inside a script. The main facts:

* `print_scriptTexts`: a document is printed with the texts of its scripts;
* `suits_holds`: what markup prints for the family of a charset is held by it;
* `compileAs_scripts`: of a page in UTF-8, Latin-1 or ASCII, a script is read back as the code
  that it is if, and only if, the charset holds all characters of the code; and it does if it
  holds the names and the arguments of the template.
-/

namespace PageTemplates.Compile

open Markup

/-! ## Printed scripts -/

section

variable {family : Family} {code : String}

theorem printAll_texts {cs : List Node} (t : Tag) (h : cs.all Node.isText) :
    printAll family true cs = textOf (.element t cs) := by
  induction cs with
  | nil => rfl
  | cons c cs ih =>
      rw [List.all_cons, Bool.and_eq_true] at h
      cases c with
      | text s =>
          rw [printAll, ih h.2, textOf, textOf, Node.children, Node.children, List.map_cons,
            String.join_cons]
          rfl
      | element _ _ | document _ | comment _ | doctype _ | markup _ => cases h.1

mutual

theorem Node.print_scriptTexts : ∀ (n : Node) (raw : Bool), Node.everywhere isSolid n →
    code ∈ Node.scriptTexts n → ∃ before behind, n.print family raw = before ++ (code ++ behind)
  | .element t cs, raw, solid, mem => by
      obtain ⟨own, below⟩ := everywhere_element.mp solid
      rw [isSolid_iff] at own
      have holds : isVoid t.name = false := by
        refine Bool.eq_false_iff.mpr fun void => ?_
        have other : (t.name == "script") = false := by
          refine beq_eq_false_iff_ne.mpr fun script => ?_
          rw [script] at void
          exact absurd void (by decide)
        rw [own.2 void, Node.scriptTexts, other] at mem
        cases mem
      rw [Node.print, holds, if_neg Bool.false_ne_true]
      rw [Node.scriptTexts, List.mem_append] at mem
      rcases mem with here | mem
      · split at here
        · rename_i script
          rw [List.mem_singleton] at here
          have name := beq_iff_eq.mp script
          have raw : isRawText t.name := by rw [name]; decide
          rw [raw, printAll_texts t (own.1 name), ← here]
          refine ⟨t.print family, "</" ++ t.name ++ ">", ?_⟩
          rw [← String.toList_inj]
          simp
        · cases here
      · obtain ⟨before, behind, printed⟩ := print_scriptTexts cs (isRawText t.name) below mem
        refine ⟨t.print family ++ before, behind ++ ("</" ++ t.name ++ ">"), ?_⟩
        rw [printed, ← String.toList_inj]
        simp
  | .document cs, raw, solid, mem => print_scriptTexts cs false solid mem
  | .text _, _, _, mem | .comment _, _, _, mem | .doctype _, _, _, mem | .markup _, _, _, mem => by
      cases mem

/-- A document is printed with the texts of its scripts. -/
theorem print_scriptTexts : ∀ (ns : List Node) (raw : Bool), everywhere isSolid ns →
    code ∈ scriptTexts ns → ∃ before behind, printAll family raw ns = before ++ (code ++ behind)
  | [], _, _, mem => by cases mem
  | n :: ns, raw, solid, mem => by
      rw [everywhere_cons] at solid
      rw [scriptTexts, List.mem_append] at mem
      rw [printAll]
      rcases mem with here | later
      · obtain ⟨before, behind, printed⟩ := Node.print_scriptTexts n raw solid.1 here
        refine ⟨before, behind ++ printAll family raw ns, ?_⟩
        rw [printed, ← String.toList_inj]
        simp
      · obtain ⟨before, behind, printed⟩ := print_scriptTexts ns raw solid.2 later
        refine ⟨n.print family raw ++ before, behind, ?_⟩
        rw [printed, ← String.toList_inj]
        simp

end

end

/-- Compiling keeps elements solid. -/
theorem solid_compileDocument {s : Settings} {family : Family} {doc page : Document}
    {script? : Option String} (h : compileDocument s family doc = .ok (page, script?))
    (solid : everywhere isSolid doc) : everywhere isSolid page := by
  unfold compileDocument at h
  dsimp only at h
  split at h
  · obtain ⟨r, done, h⟩ := bind_eq_ok h
    cases h
    obtain ⟨p, run, rfl⟩ := inline_eq_ok done
    have compiled := solid_compileTargets run (solid_prepare solid)
    split
    · exact compiled
    · exact solid_markBody compiled
  · obtain ⟨r, done, h⟩ := bind_eq_ok h
    cases h
    exact (split_loads done solid).2

/-! ## Characters that are printed -/

/-- What markup prints for the family of a charset is held by it. -/
theorem suits_holds {c : Codec} (plain : c.isPlain) : Suits c.holds (Family.ofCodec c) where
  ascii _ h := c.holds_of_ascii h
  printed ch := by
    refine isOver_iff.mpr fun d hd => ?_
    rcases mem_printChar hd with mark | ⟨rfl, -, latin1, ascii⟩
    · exact c.holds_of_ascii (Reference.toNat_lt_of_isReferenceChar mark)
    · cases c with
      | utf8 => rfl
      | latin1 => exact decide_eq_true (latin1 rfl)
      | ascii => exact decide_eq_true (ascii rfl)
      | _ => cases plain

/-! ## Scripts that are read back -/

/-- The text of a script stands in some content as the bytes of a charset. -/
def IsWritten (charset code : String) (content : Bytes) : Prop :=
  ∃ front bytes behind, content = front ++ bytes ++ behind ∧
    Charset.encode charset code = .ok bytes

/-- The body script is written as it was compiled. -/
theorem bodyScript_eq_ok {charset : String} {script? : Option String}
    {bodyScript : Option (String × Bytes)}
    (h : (script?.mapM fun script => do
      let bytes ← (Charset.encode charset script).mapError Failure.charset
      return (script, bytes)) = .ok bodyScript) :
    bodyScript.map (·.1) = script? ∧
      ∀ r ∈ bodyScript, Charset.encode charset r.1 = .ok r.2 := by
  cases script? with
  | none =>
      cases h
      exact ⟨rfl, nofun⟩
  | some script =>
      rw [Option.mapM_some] at h
      obtain ⟨r, written, h⟩ := map_eq_ok h
      obtain ⟨bytes, encoded, made⟩ := bind_eq_ok written
      cases made
      subst h
      refine ⟨rfl, fun r hr => ?_⟩
      cases hr
      exact mapError_eq_ok encoded

/-- The text of a script of a page is written where it is printed. -/
theorem isWritten_of_mem {charset code : String} {c : Codec} {page : Document} {content : Bytes}
    (known : Codec.named charset = .ok c) (plain : c.isPlain)
    (written : Document.encode charset page = .ok content) (solid : everywhere isSolid page)
    (h : code ∈ scriptTexts page) : IsWritten charset code content := by
  unfold Document.encode at written
  obtain ⟨family, -, written⟩ := bind_eq_ok written
  obtain ⟨before, behind, printed⟩ :
      ∃ before behind, printAll family false page = before ++ (code ++ behind) :=
    print_scriptTexts page false solid h
  rw [printed, Charset.encode_of_isPlain known plain, Except.ok.injEq, String.toList_append,
    String.toList_append, c.write_append plain, c.write_append plain] at written
  exact ⟨_, _, _, by rw [← written, List.append_assoc],
    Charset.encode_of_isPlain known plain code⟩

/-- A template in UTF-8, Latin-1 or ASCII is compiled to a page that holds the text of each of
its scripts, and to a script for its body if that is split off. -/
theorem compileAs_written {s : Settings} {charset : String} {source : Bytes} {p : Compilation}
    {c : Codec} (known : Codec.named charset = .ok c) (plain : c.isPlain)
    (h : compileAs s charset source = .ok p) :
    ∃ text doc page, Charset.decode charset source = .ok text ∧ Document.ofText text = .ok doc ∧
      compileDocument s (Family.ofCodec c) doc = .ok (page, p.bodyScript.map (·.1)) ∧
      (∀ code ∈ scriptTexts page, IsWritten charset code p.artifact.content) ∧
      ∀ r ∈ p.bodyScript, Charset.encode charset r.1 = .ok r.2 := by
  unfold compileAs compileAsWith at h
  obtain ⟨text, decoded, h⟩ := bind_eq_ok h
  obtain ⟨doc, read, h⟩ := bind_eq_ok h
  obtain ⟨family, named, h⟩ := bind_eq_ok h
  obtain ⟨⟨page, script?⟩, compiled, h⟩ := bind_eq_ok h
  obtain ⟨content, written, h⟩ := bind_eq_ok h
  obtain ⟨bodyScript, encoded, h⟩ := bind_eq_ok h
  cases h
  have read := mapError_eq_ok read
  have compiled := mapError_eq_ok compiled
  have written := mapError_eq_ok written
  rw [outputCharset_of_named known] at named written
  -- the output charset is the one of the template, so the family is its own
  obtain rfl := Except.ok.inj ((ofName_of_named known).symm.trans (mapError_eq_ok named))
  obtain ⟨script, bodyWritten⟩ := bodyScript_eq_ok encoded
  have content : (Artifact.ofContent content).content = content := by
    cases found : Model.locate? content <;> simp [Artifact.ofContent, found]
  refine ⟨text, doc, page, mapError_eq_ok decoded, read, ?_, fun code hcode => ?_, bodyWritten⟩
  · rw [script]
    exact compiled
  · rw [content]
    exact isWritten_of_mem known plain written
      (solid_compileDocument compiled (solid_ofText read)) hcode

/-- Of a template in UTF-8, Latin-1 or ASCII, each script of the page stands in its bytes, and
the script of a body that is split off is bytes of its own. Each of them is read back as the code
that it is if, and only if, the charset holds all characters of the code; and all of them are if
it holds all that is not printed with references: the names, the arguments of directives, the
ids that name functions, and scripts and declarations of the template. -/
theorem compileAs_scripts {s : Settings} {charset : String} {source : Bytes} {p : Compilation}
    {c : Codec} (known : Codec.named charset = .ok c) (plain : c.isPlain)
    (h : compileAs s charset source = .ok p) :
    ∃ text doc page, Charset.decode charset source = .ok text ∧ Document.ofText text = .ok doc ∧
      compileDocument s (Family.ofCodec c) doc = .ok (page, p.bodyScript.map (·.1)) ∧
      (∀ code ∈ scriptTexts page, IsWritten charset code p.artifact.content) ∧
      (∀ r ∈ p.bodyScript, Charset.encode charset r.1 = .ok r.2) ∧
      ∀ code, code ∈ scriptTexts page ∨ some code = p.bodyScript.map (·.1) →
        (Charset.Keeps charset code ↔ ∀ ch ∈ code.toList, c.holds ch) ∧
        (everywhere (isClean (s.mode == .cacheSplit) c.holds) doc →
          Charset.Keeps charset code) := by
  obtain ⟨text, doc, page, decoded, read, compiled, written, body⟩ :=
    compileAs_written known plain h
  refine ⟨text, doc, page, decoded, read, compiled, written, body,
    fun code hcode => ⟨Charset.keeps_iff known plain code, fun clean => ?_⟩⟩
  obtain ⟨scripts, script⟩ := compileDocument_good (suits_holds plain) compiled clean
  rw [Charset.keeps_iff known plain]
  exact isOver_iff.mp (hcode.elim (scripts code) fun same => script code same.symm)

/-! ## An argument -/

/-- A page with an element that depends on a test. -/
def testPage (test : String) : String :=
  "<p yst=\"if\" ysttest=\"" ++ test ++ "\">&eacute;</p>"

/-- The page as it is read. -/
def testDocument (test : String) : Document :=
  [.element { name := "p", attributes := [("yst", some "if"), ("ysttest", some test)] }
    [.text "é"]]

/-- The script of the page where the attributes of directives are left out. -/
def testScript (test : String) : String :=
  "document.write(YST.Txt.iff([], 0, \x7b\x7d,null,'" ++ test ++ "',['<p>&eacute;</p>']))"

theorem named_ascii : Codec.named "ascii" = .ok .ascii := by decide +kernel

/-- A page in ASCII that is read with a test is compiled to a page with one script. -/
structure Tests (entity test : String) (p : Compilation) : Prop where
  compiled : compileAs {} "ascii" (Bytes.ofAscii (testPage entity)) = .ok p
  decoded : Charset.decode "ascii" (Bytes.ofAscii (testPage entity)) = .ok (testPage entity)
  read : Document.ofText (testPage entity) = .ok (testDocument test)
  script : (compileDocument {} .ascii (testDocument test)).toOption.any
    (scriptTexts ·.1 == [testScript test])

theorem Tests.scriptTexts {entity test : String} {p : Compilation} (tests : Tests entity test p)
    {page : Document} {script? : Option String}
    (h : compileDocument {} .ascii (testDocument test) = .ok (page, script?)) :
    Compile.scriptTexts page = [testScript test] := by
  have script := tests.script
  rw [h] at script
  exact beq_iff_eq.mp script

theorem exists_tests {entity test : String}
    (decoded : (Codec.ascii.read (Bytes.ofAscii (testPage entity))) = (testPage entity).toList)
    (read : Document.ofText (testPage entity) = .ok (testDocument test))
    (script : (compileDocument {} .ascii (testDocument test)).toOption.any
      (Compile.scriptTexts ·.1 == [testScript test])) : ∃ p, Tests entity test p := by
  cases translated : compileDocument {} .ascii (testDocument test) with
  | error e =>
      rw [translated] at script
      cases script
  | ok r =>
      have decoded : Charset.decode "ascii" (Bytes.ofAscii (testPage entity)) =
          .ok (testPage entity) := by
        rw [Charset.decode_of_isPlain named_ascii rfl, decoded, String.ofList_toList]
      obtain ⟨p, compiled⟩ := exists_compileAsWith named_ascii rfl decoded read translated
      exact ⟨p, compiled, decoded, read, script⟩

theorem compileAs_scripts_test : ∃ p, Tests "a" "a" p ∧
    IsWritten "ascii" (testScript "a") p.artifact.content ∧
      Charset.Keeps "ascii" (testScript "a") := by
  obtain ⟨p, tests⟩ : ∃ p, Tests "a" "a" p :=
    exists_tests (by decide +kernel) (by rfl) (by decide +kernel)
  obtain ⟨text, doc, page, decoded, read, compiled, written, -, keeps⟩ :=
    compileAs_scripts named_ascii rfl tests.compiled
  obtain rfl := Except.ok.inj (tests.decoded.symm.trans decoded)
  obtain rfl := Except.ok.inj (tests.read.symm.trans read)
  have script : testScript "a" ∈ scriptTexts page := by
    rw [tests.scriptTexts compiled]
    exact List.mem_singleton_self _
  exact ⟨p, tests, written _ script, (keeps _ (.inl script)).2 (by decide +kernel)⟩

/-- A test that names a character by a reference is not read back where the charset does not hold
the character: what stands in the script is a reference. -/
theorem test_not_kept : ∃ p, Tests "&eacute;" "é" p ∧
    IsWritten "ascii" (testScript "é") p.artifact.content ∧
      ¬ Charset.Keeps "ascii" (testScript "é") := by
  obtain ⟨p, tests⟩ : ∃ p, Tests "&eacute;" "é" p :=
    exists_tests (by decide +kernel) (by rfl) (by decide +kernel)
  obtain ⟨text, doc, page, decoded, read, compiled, written, -⟩ :=
    compileAs_written named_ascii rfl tests.compiled
  obtain rfl := Except.ok.inj (tests.decoded.symm.trans decoded)
  obtain rfl := Except.ok.inj (tests.read.symm.trans read)
  refine ⟨p, tests, written _ ?_, fun keeps => ?_⟩
  · rw [tests.scriptTexts compiled]
    exact List.mem_singleton_self _
  · rw [Charset.keeps_iff named_ascii rfl] at keeps
    exact absurd (keeps 'é' (by decide +kernel)) (by decide)

end PageTemplates.Compile
