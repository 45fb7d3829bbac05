import Mathlib.Data.List.Forall2
import PageTemplates.Build.Manifest
import PageTemplates.Proofs.Charset.Utf8
import PageTemplates.Proofs.Text.Json

/-!
# The manifest is read back

The manifest of a build is JSON, and the whole build is found in it again: the mode, the
folder of the templates, and each entry under the id of its template. The main facts:

* `Manifest.ofJson?`: the build that a value of JSON tells of;
* `Manifest.ofBytes?`: the build that a file tells of;
* `spells_string`, `spells_object`: what is written is read as strings and objects;
* `Manifest.spells_text`: the text of a manifest is read as its value;
* `Manifest.ofBytes?_text`: the file of a manifest tells of the build.
-/

namespace PageTemplates.Build

open Json (Spells Behind State)

/-! ## What JSON tells of a build -/

/-- The entry that a value under the id of a template tells of. The body may be missing. -/
def ManifestEntry.ofJson? (id : String) (v : Json) : Option ManifestEntry := do
  return {
    templateId := id
    artifact := ← (v.field? "artifact").bind Json.text?
    hash := ← (v.field? "hash").bind Json.text?
    charset := ← (v.field? "encoding").bind Json.text?
    modelInit := ← (v.field? "model_init").bind Json.number?
    modelEnd := ← (v.field? "model_end").bind Json.number?
    body := (v.field? "body").bind Json.text? }

/-- The build that a value tells of. -/
def Manifest.ofJson? (v : Json) : Option Manifest := do
  guard ((v.field? "version").bind Json.number? = some 1)
  let mode ← (v.field? "mode").bind Json.text?
  let templates ← (v.field? "templates_dir").bind Json.text?
  let entries ← (v.field? "entries").bind Json.fields?
  return ⟨mode, templates, ← entries.mapM fun (id, e) => ManifestEntry.ofJson? id e⟩

/-- The build that a file tells of. -/
def Manifest.ofBytes? (bs : Bytes) : Option Manifest :=
  (Json.read? (Utf8.decode bs)).bind Manifest.ofJson?

/-- The value of an entry. -/
def ManifestEntry.json (e : ManifestEntry) : Json :=
  .object
    ([("artifact", .text e.artifact), ("hash", .text e.hash), ("encoding", .text e.charset),
      ("model_init", .number e.modelInit), ("model_end", .number e.modelEnd)]
      ++ (e.body.map fun b => ("body", Json.text b)).toList)

/-- The value of a manifest. -/
def Manifest.json (m : Manifest) : Json :=
  .object
    [("version", .number 1), ("mode", .text m.mode), ("templates_dir", .text m.templates),
     ("entries", .object (m.entries.map fun e => (e.templateId, e.json)))]

theorem ManifestEntry.ofJson?_json (e : ManifestEntry) :
    ManifestEntry.ofJson? e.templateId e.json = some e := by
  obtain ⟨id, artifact, hash, charset, modelInit, modelEnd, _ | body⟩ := e <;> rfl

theorem Manifest.ofJson?_json (m : Manifest) : Manifest.ofJson? m.json = some m := by
  have each : (m.entries.map fun e => (e.templateId, e.json)).mapM
      (fun (id, e) => ManifestEntry.ofJson? id e) = some m.entries := by
    induction m.entries with
    | nil => rfl
    | cons e es ih =>
        rw [List.map_cons, List.mapM_cons, ih]
        dsimp only
        rw [ManifestEntry.ofJson?_json]
        rfl
  change (do return ⟨m.mode, m.templates, ← (m.entries.map fun e => (e.templateId, e.json)).mapM
    fun (id, e) => ManifestEntry.ofJson? id e⟩ : Option Manifest) = some m
  rw [each]
  rfl

/-! ## Strings -/

/-- No character is a surrogate. -/
theorem toNat_range (c : Char) : c.toNat < 0xD800 ∨ 0xE000 ≤ c.toNat ∧ c.toNat < 0x110000 := by
  rcases c.valid with low | ⟨high, last⟩
  · exact .inl low
  · exact .inr ⟨high, last⟩

section

variable (fs : List Json.Frame) (cs : List Char)

/-- The escape of a unit is read as it. -/
theorem run_unit (high? : Option Nat) {u : Nat} (small : u < 0x10000) :
    (State.mk fs (.text cs high?)).run (Manifest.unit u) = Json.takeUnit fs cs high? u := by
  have length : (Text.hexDigits 4 u).length = 4 := Text.length_hexDigits (by decide) small
  have stands := Text.digitsValue_hexDigits 4 u
  have digits : ∀ d ∈ Text.hexDigits 4 u, Text.isHexDigit d := fun d hd =>
    Text.isHexDigit_of_mem_hexDigits hd
  unfold Manifest.unit
  -- there are four digits
  match ds : Text.hexDigits 4 u, length with
  | [a, b, c, d], _ =>
      rw [ds] at stands digits
      simp only [List.mem_cons, List.not_mem_nil, or_false, forall_eq_or_imp, forall_eq] at digits
      obtain ⟨ha, hb, hc, hd⟩ := digits
      rw [← stands]
      simp [State.step, Json.stepText, Json.stepEscape, Json.stepCode, ha, hb, hc, hd]

/-- A character of one unit is no surrogate. -/
theorem run_unit_char {c : Char} (small : c.toNat < 0x10000) :
    (State.mk fs (.text cs none)).run (Manifest.unit c.toNat)
      = some ⟨fs, .text (cs ++ [c]) none⟩ := by
  have range := toNat_range c
  have noHigh : Utf7.isHigh c.toNat = false := by
    simp only [Utf7.isHigh, Bool.and_eq_false_iff, decide_eq_false_iff_not]
    omega
  have noLow : Utf7.isLow c.toNat = false := by
    simp only [Utf7.isLow, Bool.and_eq_false_iff, decide_eq_false_iff_not]
    omega
  rw [run_unit fs cs none small]
  simp [Json.takeUnit, noHigh, noLow, Char.ofNat_toNat]

/-- Two surrogates that stand for a character. -/
theorem run_surrogates {c : Char} {high low : Nat} (isHigh : Utf7.isHigh high)
    (isLow : Utf7.isLow low)
    (joined : 0x10000 + (high - 0xD800) * 0x400 + (low - 0xDC00) = c.toNat) :
    (State.mk fs (.text cs none)).run (Manifest.unit high ++ Manifest.unit low)
      = some ⟨fs, .text (cs ++ [c]) none⟩ := by
  have above := isHigh
  have below := isLow
  simp only [Utf7.isHigh, Utf7.isLow, Bool.and_eq_true, decide_eq_true_eq] at above below
  have first : (State.mk fs (.text cs none)).run (Manifest.unit high)
      = some ⟨fs, .text cs (some high)⟩ := by
    rw [run_unit fs cs none (by omega)]
    simp [Json.takeUnit, isHigh]
  refine State.run_trans first ?_
  rw [run_unit fs cs (some high) (by omega)]
  simp [Json.takeUnit, isLow, joined, Char.ofNat_toNat]

/-- A character of a string is read as it. -/
theorem run_stringChar (c : Char) :
    (State.mk fs (.text cs none)).run (Manifest.stringChar c)
      = some ⟨fs, .text (cs ++ [c]) none⟩ := by
  have of_code {n : Nat} (h : c.toNat = n) : c = Char.ofNat n := h ▸ (Char.ofNat_toNat c).symm
  unfold Manifest.stringChar
  dsimp only
  split
  · rename_i special
    rw [Bool.or_eq_true, beq_iff_eq, beq_iff_eq] at special
    rcases special with rfl | rfl <;> rfl
  · rename_i plain
    rw [Bool.or_eq_true, beq_iff_eq, beq_iff_eq, not_or] at plain
    split
    · rename_i h
      cases beq_iff_eq.mp h
      rfl
    split
    · rename_i h
      cases beq_iff_eq.mp h
      rfl
    split
    · rename_i h
      cases beq_iff_eq.mp h
      rfl
    split
    · rename_i h
      rw [of_code (beq_iff_eq.mp h)]
      rfl
    split
    · rename_i h
      rw [of_code (beq_iff_eq.mp h)]
      rfl
    split
    · rename_i printable
      rw [Bool.and_eq_true, decide_eq_true_eq, decide_eq_true_eq] at printable
      simp [State.step, Json.stepText, plain.1, plain.2, Nat.not_lt.mpr printable.1]
    split
    · exact run_unit_char fs cs (by assumption)
    · -- the bits above the first sixteen and those below are divided among the two
      have range := toNat_range c
      refine run_surrogates fs cs ?_ ?_ ?_
      · simp only [Utf7.isHigh, Bool.and_eq_true, decide_eq_true_eq]
        omega
      · simp only [Utf7.isLow, Bool.and_eq_true, decide_eq_true_eq]
        omega
      · omega

end

/-- The characters of a string are read as they are. -/
theorem run_stringChars (fs : List Json.Frame) (front cs : List Char) :
    (State.mk fs (.text front none)).run (cs.flatMap Manifest.stringChar)
      = some ⟨fs, .text (front ++ cs) none⟩ := by
  induction cs generalizing front with
  | nil => simp
  | cons c cs ih =>
      rw [List.flatMap_cons, List.append_cons]
      exact State.run_trans (run_stringChar fs front c) (ih _)

theorem run_string (fs : List Json.Frame) (opened : Bool) (s : String) :
    (State.mk fs (.start opened)).run (Manifest.string s).toList = some (Json.endText fs s) := by
  rw [Manifest.string, String.toList_ofList, List.cons_append, State.run_cons]
  change (State.mk fs (.text [] none)).run _ = _
  refine State.run_trans (run_stringChars fs [] s.toList) ?_
  rw [List.nil_append]
  simp [State.step, Json.stepText]

/-- What is written as a string is read as it. -/
theorem spells_string (s : String) : Spells (Manifest.string s).toList (.text s) := by
  intro fs value
  refine ⟨_, run_string fs false s, ?_⟩
  rw [Json.endText_of_value value]
  exact .ended

/-! ## Objects -/

/-- Reading a line in front of a key adds a field. -/
def Adds (line : String) (f : String × Json) : Prop :=
  ∀ done fs opened, ∃ s,
    (State.mk (.object done :: fs) (.start opened)).run line.toList = some s ∧
      Behind (.field done f.1 :: fs) f.2 s

/-- The line of a field, behind some blanks. -/
theorem adds_field (k : Nat) (key : String) {value : String} {v : Json}
    (h : Spells value.toList v) :
    Adds (String.ofList (List.replicate k ' ') ++ Manifest.string key ++ ": " ++ value)
      (key, v) := by
  intro done fs opened
  obtain ⟨s, read, behind⟩ := h _ (Json.not_keyDue_field done key fs)
  refine ⟨s, ?_, behind⟩
  rw [String.toList_append, String.toList_append, String.toList_append, String.toList_ofList]
  refine State.run_trans (State.run_trans (State.run_trans (Json.run_blanks _ _ k)
    (run_string _ opened key)) ?_) read
  rfl

/-- Lines with commas between them add all their fields. -/
theorem run_lines {lines : List String} {fields : List (String × Json)}
    (h : List.Forall₂ Adds lines fields) (filled : fields ≠ []) (done : List (String × Json))
    (fs : List Json.Frame) (opened : Bool) : ∃ s front key v,
      (State.mk (.object done :: fs) (.start opened)).run (",\n".intercalate lines).toList
          = some s ∧
        Behind (.field front key :: fs) v s ∧ front ++ [(key, v)] = done ++ fields := by
  induction h generalizing done opened with
  | nil => exact absurd rfl filled
  | @cons line f lines fields adds rest ih =>
      obtain ⟨s, read, behind⟩ := adds done fs opened
      cases rest with
      | nil =>
          rw [String.intercalate_singleton]
          exact ⟨s, done, f.1, f.2, read, behind, rfl⟩
      | cons adds' rest =>
          obtain ⟨s', front, key, v, read', behind', all⟩ :=
            ih (List.cons_ne_nil _ _) (done ++ [f]) false
          refine ⟨s', front, key, v, ?_, behind', by rw [all, List.append_assoc]; rfl⟩
          rw [String.intercalate_cons_cons, String.toList_append, String.toList_append]
          refine State.run_trans (State.run_trans read ?_) read'
          -- the comma ends the value, and the line feed is blank
          change (s.step ',').bind _ = _
          rw [behind.step (by decide)]
          rfl

theorem run_brace {fs : List Json.Frame} (value : ¬ Json.KeyDue fs) (cs : List Char) :
    (State.mk fs (.start false)).run ('\x7b' :: cs)
      = (State.mk (.object [] :: fs) (.start true)).run cs := by
  have begins : Json.stepStart fs false '\x7b' = some ⟨.object [] :: fs, .start true⟩ := by
    rw [Json.stepStart_of_value value (by decide) (by decide)]
    rfl
  change (Json.stepStart fs false '\x7b').bind (·.run cs) = _
  rw [begins, Option.bind_some]

theorem toList_object (depth : Nat) {fields : List (String × String)} (filled : fields ≠ []) :
    (Manifest.object depth fields).toList = '\x7b' :: '\n' ::
      ((",\n".intercalate (fields.map fun f => String.ofList (List.replicate (2 * (depth + 1)) ' ')
          ++ Manifest.string f.1 ++ ": " ++ f.2)).toList
        ++ '\n' :: (List.replicate (2 * depth) ' ' ++ ['\x7d'])) := by
  have some : fields.isEmpty = false := by simpa using filled
  unfold Manifest.object
  dsimp only
  rw [some, if_neg Bool.false_ne_true]
  simp

/-- What is written as an object with texts of values is read as the object of these. -/
theorem spells_object (depth : Nat) {fields : List (String × String)}
    {values : List (String × Json)}
    (h : List.Forall₂ (fun f v => f.1 = v.1 ∧ Spells f.2.toList v.2) fields values) :
    Spells (Manifest.object depth fields).toList (.object values) := by
  intro fs value
  by_cases filled : fields = []
  · subst filled
    cases h
    refine ⟨⟨fs, .ended (.object [])⟩, ?_, .ended⟩
    rw [show Manifest.object depth [] = "\x7b\x7d" from rfl]
    exact run_brace value ['\x7d']
  · have lines : List.Forall₂ Adds (fields.map fun f =>
        String.ofList (List.replicate (2 * (depth + 1)) ' ') ++ Manifest.string f.1 ++ ": " ++ f.2)
        values := by
      refine List.forall₂_map_left_iff.mpr (h.imp fun f v same => ?_)
      rw [same.1]
      exact adds_field _ _ same.2
    have values_ne : values ≠ [] := by
      rintro rfl
      cases h
      exact filled rfl
    obtain ⟨s, front, key, v, read, behind, all⟩ := run_lines lines values_ne [] fs true
    refine ⟨⟨fs, .ended (.object values)⟩, ?_, .ended⟩
    rw [toList_object depth filled, run_brace value, State.run_cons]
    refine State.run_trans read ?_
    -- the line feed ends the last value, the blanks are passed over, and the bracket is closed
    change (s.step '\n').bind _ = _
    rw [behind.step (by decide)]
    change (State.mk _ (.ended v)).run _ = _
    refine State.run_trans (Json.run_blanks_ended _ v _) ?_
    rw [← List.nil_append values, ← all]
    rfl

/-! ## The manifest -/

theorem ManifestEntry.spells_entry (e : ManifestEntry) :
    Spells (Manifest.entry e).toList e.json := by
  refine spells_object 2 (List.rel_append ?_ ?_)
  · exact .cons ⟨rfl, spells_string _⟩ <| .cons ⟨rfl, spells_string _⟩ <|
      .cons ⟨rfl, spells_string _⟩ <| .cons ⟨rfl, Json.spells_integer _⟩ <|
      .cons ⟨rfl, Json.spells_integer _⟩ .nil
  · cases e.body with
    | none => exact .nil
    | some b => exact .cons ⟨rfl, spells_string b⟩ .nil

/-- The text of a manifest is read as its value. -/
theorem Manifest.spells_text (m : Manifest) : Spells m.text.toList m.json := by
  have entries : List.Forall₂ (fun f v => f.1 = v.1 ∧ Spells f.2.toList v.2)
      (m.entries.map fun e => (e.templateId, Manifest.entry e))
      (m.entries.map fun e => (e.templateId, e.json)) := by
    rw [List.forall₂_map_left_iff, List.forall₂_map_right_iff, List.forall₂_same]
    exact fun e _ => ⟨rfl, e.spells_entry⟩
  exact spells_object 0 <|
    .cons ⟨rfl, Json.spells_integer 1⟩ <| .cons ⟨rfl, spells_string _⟩ <|
    .cons ⟨rfl, spells_string _⟩ <| .cons ⟨rfl, spells_object 1 entries⟩ .nil

/-- The file of a manifest tells of the build. -/
theorem Manifest.ofBytes?_text (m : Manifest) :
    Manifest.ofBytes? (Utf8.encode m.text.toList) = some m := by
  rw [Manifest.ofBytes?, Utf8.decode_encode, m.spells_text.read?_eq]
  exact m.ofJson?_json

end PageTemplates.Build
