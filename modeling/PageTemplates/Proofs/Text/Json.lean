import PageTemplates.Charset.Utf7
import PageTemplates.Proofs.Text.Ascii

/-!
# Reading JSON

Values of JSON, and a reader that goes over a text once, character by character, with the
open brackets on a stack. Numbers are integers. In a string a character beyond sixteen bits
may be the escapes of its two surrogates; a surrogate alone is no character.

The reader is a function, so a text stands for one value at most. The main facts:

* `Json.read?`: the value that a text stands for;
* `Json.Spells`: a text is read as a value wherever one is due;
* `Json.Spells.read?_eq`: then it stands for that value;
* `Json.spells_integer`: the decimal form of an integer is read as it.
-/

namespace PageTemplates

/-- A value. The fields of an object are in the order of the text. -/
inductive Json where
  | null
  | bool (b : Bool)
  | number (n : Int)
  | text (s : String)
  | array (items : List Json)
  | object (fields : List (String × Json))

namespace Json

open Utf7 (isHigh isLow)

/-! ## Words and escapes -/

/-- What may stand between values and signs. -/
def isBlank (c : Char) : Bool := c == ' ' || c == '\n' || c == '\r' || c == '\t'

/-- A character of a number or of a literal. -/
def isWordChar (c : Char) : Bool := c.isAlphanum || c == '-' || c == '+' || c == '.'

/-- The number that digits stand for. No other digit follows a zero in front. -/
def natural? (ds : List Char) : Option Nat :=
  if ds.isEmpty || (ds.head? == some '0' && ds.length != 1) || !ds.all Char.isDigit then none
  else some (Text.digitsValue 10 ds)

def integer? : List Char → Option Int
  | '-' :: ds => (natural? ds).map fun n => -(n : Int)
  | ds => (natural? ds).map Int.ofNat

/-- What a word stands for. -/
def word? (cs : List Char) : Option Json :=
  if cs = "null".toList then some .null
  else if cs = "true".toList then some (.bool true)
  else if cs = "false".toList then some (.bool false)
  else (integer? cs).map .number

/-- What a character behind a backslash stands for. -/
def escaped? : Char → Option Char
  | '"' => some '"'
  | '\\' => some '\\'
  | '/' => some '/'
  | 'b' => some '\x08'
  | 'f' => some '\x0c'
  | 'n' => some '\n'
  | 'r' => some '\r'
  | 't' => some '\t'
  | _ => none

/-! ## The reader -/

/-- An open bracket with what was read in it: the items of an array; the fields of an
object, in front of a key or behind the key of the next field. -/
inductive Frame where
  | array (items : List Json)
  | object (fields : List (String × Json))
  | field (fields : List (String × Json)) (key : String)

/-- Where the reader is: in front of a value or a key, which a bracket that was just
`opened` can do without; in a word; in a string, maybe with a first surrogate that waits for
its partner; in one of its escapes, or in the digits of one; behind a key; behind a value. -/
inductive Spot where
  | start (opened : Bool)
  | word (cs : List Char)
  | text (cs : List Char) (high? : Option Nat)
  | escape (cs : List Char) (high? : Option Nat)
  | code (cs : List Char) (high? : Option Nat) (digits : List Char)
  | colon
  | ended (v : Json)

/-- The open brackets, innermost first, and where the reader is. -/
structure State where
  frames : List Frame
  spot : Spot

/-- Goes on behind a value. -/
def follow (fs : List Frame) (v : Json) (c : Char) : Option State :=
  if isBlank c then some ⟨fs, .ended v⟩
  else
    match fs with
    | .array items :: fs =>
        if c == ',' then some ⟨.array (items ++ [v]) :: fs, .start false⟩
        else if c == ']' then some ⟨fs, .ended (.array (items ++ [v]))⟩
        else none
    | .field fields key :: fs =>
        if c == ',' then some ⟨.object (fields ++ [(key, v)]) :: fs, .start false⟩
        else if c == '\x7d' then some ⟨fs, .ended (.object (fields ++ [(key, v)]))⟩
        else none
    | _ => none

/-- Begins a value that is no string. -/
def begin? (fs : List Frame) (c : Char) : Option State :=
  if c == '[' then some ⟨.array [] :: fs, .start true⟩
  else if c == '\x7b' then some ⟨.object [] :: fs, .start true⟩
  else if isWordChar c then some ⟨fs, .word [c]⟩
  else none

/-- Goes on in front of a value or a key. -/
def stepStart (fs : List Frame) (opened : Bool) (c : Char) : Option State :=
  if isBlank c then some ⟨fs, .start opened⟩
  else if c == '"' then some ⟨fs, .text [] none⟩
  else
    match fs with
    | .object fields :: rest =>
        if opened && c == '\x7d' then some ⟨rest, .ended (.object fields)⟩ else none
    | .array items :: rest =>
        if opened && c == ']' then some ⟨rest, .ended (.array items)⟩ else begin? fs c
    | _ => begin? fs c

/-- Behind a string, which is a key or a value. -/
def endText (fs : List Frame) (s : String) : State :=
  match fs with
  | .object fields :: rest => ⟨.field fields s :: rest, .colon⟩
  | _ => ⟨fs, .ended (.text s)⟩

/-- Goes on in a string. -/
def stepText (fs : List Frame) (cs : List Char) (high? : Option Nat) (c : Char) : Option State :=
  if c == '\\' then some ⟨fs, .escape cs high?⟩
  else if high?.isSome || c.toNat < 0x20 then none
  else if c == '"' then some (endText fs (String.ofList cs))
  else some ⟨fs, .text (cs ++ [c]) none⟩

/-- Goes on behind a backslash. -/
def stepEscape (fs : List Frame) (cs : List Char) (high? : Option Nat) (c : Char) :
    Option State :=
  if c == 'u' then some ⟨fs, .code cs high? []⟩
  else if high?.isSome then none
  else (escaped? c).map fun x => ⟨fs, .text (cs ++ [x]) none⟩

/-- Takes a unit of sixteen bits into a string. -/
def takeUnit (fs : List Frame) (cs : List Char) (high? : Option Nat) (u : Nat) : Option State :=
  match high? with
  | none =>
      if isHigh u then some ⟨fs, .text cs (some u)⟩
      else if isLow u then none
      else some ⟨fs, .text (cs ++ [Char.ofNat u]) none⟩
  | some h =>
      if isLow u then
        let c := Char.ofNat (0x10000 + (h - 0xD800) * 0x400 + (u - 0xDC00))
        some ⟨fs, .text (cs ++ [c]) none⟩
      else none

/-- Goes on in the four digits of an escape. -/
def stepCode (fs : List Frame) (cs : List Char) (high? : Option Nat) (ds : List Char)
    (c : Char) : Option State :=
  if !Text.isHexDigit c then none
  else if ds.length == 3 then takeUnit fs cs high? (Text.digitsValue 16 (ds ++ [c]))
  else some ⟨fs, .code cs high? (ds ++ [c])⟩

namespace State

def step (s : State) (c : Char) : Option State :=
  match s.spot with
  | .start opened => stepStart s.frames opened c
  | .word cs =>
      if isWordChar c then some ⟨s.frames, .word (cs ++ [c])⟩
      else (word? cs).bind fun v => follow s.frames v c
  | .text cs high? => stepText s.frames cs high? c
  | .escape cs high? => stepEscape s.frames cs high? c
  | .code cs high? ds => stepCode s.frames cs high? ds c
  | .colon =>
      if isBlank c then some s
      else if c == ':' then some ⟨s.frames, .start false⟩
      else none
  | .ended v => follow s.frames v c

/-- Reads characters one after the other. -/
def run (s : State) (cs : List Char) : Option State := cs.foldlM step s

/-- The value that was read, if it is complete. -/
def result? (s : State) : Option Json :=
  match s with
  | ⟨[], .ended v⟩ => some v
  | ⟨[], .word cs⟩ => word? cs
  | _ => none

@[simp] theorem run_nil (s : State) : s.run [] = some s := rfl

@[simp] theorem run_cons (s : State) (c : Char) (cs : List Char) :
    s.run (c :: cs) = (s.step c).bind (·.run cs) := rfl

theorem run_append (s : State) (xs ys : List Char) :
    s.run (xs ++ ys) = (s.run xs).bind (·.run ys) :=
  List.foldlM_append

theorem run_trans {s s' s'' : State} {xs ys : List Char} (h : s.run xs = some s')
    (h' : s'.run ys = some s'') : s.run (xs ++ ys) = some s'' := by
  rw [run_append, h, Option.bind_some, h']

end State

/-- The value that a text stands for. -/
def read? (cs : List Char) : Option Json := ((State.mk [] (.start false)).run cs).bind (·.result?)

/-! ## Parts of values -/

/-- The value under a key that an object has once. -/
def field? (key : String) : Json → Option Json
  | .object fields =>
      match fields.filter (·.1 == key) with
      | [f] => some f.2
      | _ => none
  | _ => none

def text? : Json → Option String
  | .text s => some s
  | _ => none

def number? : Json → Option Int
  | .number n => some n
  | _ => none

def fields? : Json → Option (List (String × Json))
  | .object fields => some fields
  | _ => none

/-! ## Texts of values -/

/-- The reader is behind a value. A word may still go on. -/
inductive Behind (fs : List Frame) (v : Json) : State → Prop
  | ended : Behind fs v ⟨fs, .ended v⟩
  | word {cs : List Char} : word? cs = some v → Behind fs v ⟨fs, .word cs⟩

theorem Behind.step {fs : List Frame} {v : Json} {s : State} (h : Behind fs v s) {c : Char}
    (stop : isWordChar c = false) : s.step c = follow fs v c := by
  cases h with
  | ended => rfl
  | word stands =>
      simp only [State.step, stop, stands]
      rfl

/-- Whether the next thing is a key. -/
def KeyDue (fs : List Frame) : Prop := ∃ fields rest, fs = .object fields :: rest

theorem not_keyDue_nil : ¬ KeyDue [] := by
  rintro ⟨_, _, same⟩
  cases same

theorem not_keyDue_field (fields : List (String × Json)) (key : String) (fs : List Frame) :
    ¬ KeyDue (.field fields key :: fs) := by
  rintro ⟨_, _, same⟩
  cases same

theorem endText_of_value {fs : List Frame} (value : ¬ KeyDue fs) (s : String) :
    endText fs s = ⟨fs, .ended (.text s)⟩ := by
  unfold endText
  split
  · exact absurd ⟨_, _, rfl⟩ value
  · rfl

/-- Wherever a value is due, a text is read as this one. -/
def Spells (cs : List Char) (v : Json) : Prop :=
  ∀ fs, ¬ KeyDue fs → ∃ s, (State.mk fs (.start false)).run cs = some s ∧ Behind fs v s

theorem Spells.read?_eq {cs : List Char} {v : Json} (h : Spells cs v) : read? cs = some v := by
  obtain ⟨s, read, behind⟩ := h [] not_keyDue_nil
  rw [read?, read, Option.bind_some]
  cases behind with
  | ended => rfl
  | word stands => exact stands

theorem run_blanks (fs : List Frame) (opened : Bool) (k : Nat) :
    (State.mk fs (.start opened)).run (List.replicate k ' ') = some ⟨fs, .start opened⟩ := by
  induction k with
  | zero => rfl
  | succ k ih =>
      rw [List.replicate_succ, State.run_cons]
      exact ih

theorem run_blanks_ended (fs : List Frame) (v : Json) (k : Nat) :
    (State.mk fs (.ended v)).run (List.replicate k ' ') = some ⟨fs, .ended v⟩ := by
  induction k with
  | zero => rfl
  | succ k ih =>
      rw [List.replicate_succ, State.run_cons]
      exact ih

/-! ## Words -/

theorem stepStart_of_value {fs : List Frame} (value : ¬ KeyDue fs) {c : Char}
    (filled : isBlank c = false) (other : c ≠ '"') : stepStart fs false c = begin? fs c := by
  unfold stepStart
  rw [if_neg (by simp [filled]), if_neg (by simpa using other)]
  split
  · exact absurd ⟨_, _, rfl⟩ value
  · rfl
  · rfl

theorem run_wordChars {cs : List Char} (chars : cs.all isWordChar) (fs : List Frame)
    (front : List Char) :
    (State.mk fs (.word front)).run cs = some ⟨fs, .word (front ++ cs)⟩ := by
  induction cs generalizing front with
  | nil => simp
  | cons c cs ih =>
      rw [List.all_cons, Bool.and_eq_true] at chars
      simp [State.step, chars.1, ih chars.2]

/-- What begins no word. -/
theorem not_isWordChar :
    ['"', '[', '\x7b', ' ', '\n', '\r', '\t'].all fun c => !isWordChar c := by decide

theorem spells_word {cs : List Char} {v : Json} (filled : cs ≠ []) (chars : cs.all isWordChar)
    (stands : word? cs = some v) : Spells cs v := by
  intro fs value
  cases cs with
  | nil => exact absurd rfl filled
  | cons c cs =>
      rw [List.all_cons, Bool.and_eq_true] at chars
      have ne (x : Char) (hx : x ∈ ['"', '[', '\x7b', ' ', '\n', '\r', '\t']) : c ≠ x := by
        rintro rfl
        have none := List.all_eq_true.mp not_isWordChar c hx
        rw [chars.1] at none
        cases none
      simp only [List.mem_cons, List.not_mem_nil, or_false, forall_eq_or_imp, forall_eq] at ne
      obtain ⟨quote, bracket, brace, space, feed, back, tab⟩ := ne
      have begins : stepStart fs false c = some ⟨fs, .word [c]⟩ := by
        rw [stepStart_of_value value (by simp [isBlank, space, feed, back, tab]) quote]
        simp [begin?, bracket, brace, chars.1]
      refine ⟨⟨fs, .word (c :: cs)⟩, ?_, .word stands⟩
      change (stepStart fs false c).bind _ = _
      rw [begins]
      exact run_wordChars chars.2 fs [c]

/-! ## Numbers -/

theorem toDigits_head {n : Nat} (positive : 0 < n) : (Nat.toDigits 10 n).head? ≠ some '0' := by
  induction n using Nat.strongRecOn with
  | ind n ih =>
      rw [Nat.toDigits_eq_if (by decide)]
      split
      · rename_i small
        have digit : ∀ d < 10, 0 < d → Nat.digitChar d ≠ '0' := by decide
        simpa using digit n small positive
      · have front := ih (n / 10) (by omega) (by omega)
        cases digits : Nat.toDigits 10 (n / 10) with
        | nil => exact absurd digits Nat.toDigits_ne_nil
        | cons d ds =>
            rw [digits] at front
            exact front

theorem all_isDigit_toDigits (n : Nat) : (Nat.toDigits 10 n).all Char.isDigit :=
  List.all_eq_true.mpr fun _ hd => Nat.isDigit_of_mem_toDigits (by decide) (by decide) hd

theorem natural?_toDigits (n : Nat) : natural? (Nat.toDigits 10 n) = some n := by
  have filled : (Nat.toDigits 10 n).isEmpty = false := by simp [Nat.toDigits_ne_nil]
  have front : ((Nat.toDigits 10 n).head? == some '0' && (Nat.toDigits 10 n).length != 1)
      = false := by
    rcases Nat.eq_zero_or_pos n with rfl | positive
    · decide
    · rw [beq_eq_false_iff_ne.mpr (toDigits_head positive), Bool.false_and]
  rw [natural?, filled, front, all_isDigit_toDigits,
    Text.digitsValue_toDigits (by decide) (by decide)]
  rfl

/-- Digits, and maybe a minus sign in front, are a word that stands for a number. -/
theorem spells_number {cs : List Char} {n : Int} (filled : cs ≠ [])
    (chars : ∀ c ∈ cs, c.isDigit ∨ c = '-') (stands : integer? cs = some n) :
    Spells cs (.number n) := by
  have isWordChar_of {c : Char} (h : c.isDigit ∨ c = '-') : isWordChar c := by
    rcases h with digit | rfl
    · simp [isWordChar, Char.isAlphanum, digit]
    · decide
  refine spells_word filled (List.all_eq_true.mpr fun c hc => isWordChar_of (chars c hc)) ?_
  have other (w : String) (first : ∃ c ∈ w.toList, ¬ (c.isDigit ∨ c = '-')) : cs ≠ w.toList := by
    rintro rfl
    obtain ⟨c, hc, neither⟩ := first
    exact neither (chars c hc)
  rw [word?, if_neg (other "null" ⟨'n', by decide, by decide⟩),
    if_neg (other "true" ⟨'t', by decide, by decide⟩),
    if_neg (other "false" ⟨'f', by decide, by decide⟩), stands]
  rfl

theorem integer?_natural {ds : List Char} (digits : ds.all Char.isDigit) :
    integer? ds = (natural? ds).map Int.ofNat := by
  unfold integer?
  split
  · rw [List.all_cons, Bool.and_eq_true] at digits
    exact absurd digits.1 (by decide)
  · rfl

theorem spells_integer (n : Int) : Spells (toString n).toList (.number n) := by
  have digits (m : Nat) : ∀ c ∈ Nat.toDigits 10 m, c.isDigit :=
    List.all_eq_true.mp (all_isDigit_toDigits m)
  cases n with
  | ofNat m =>
      have written : (toString (Int.ofNat m)).toList = Nat.toDigits 10 m :=
        String.toList_ofList
      rw [written]
      refine spells_number Nat.toDigits_ne_nil (fun c hc => .inl (digits m c hc)) ?_
      rw [integer?_natural (all_isDigit_toDigits m), natural?_toDigits]
      rfl
  | negSucc m =>
      have written : (toString (Int.negSucc m)).toList = '-' :: Nat.toDigits 10 (m + 1) := by
        change ("-" ++ String.ofList (Nat.toDigits 10 (m + 1))).toList = _
        rw [String.toList_append, String.toList_ofList, String.toList_ofList]
        rfl
      rw [written]
      refine spells_number (List.cons_ne_nil _ _) (fun c hc => ?_) ?_
      · rcases List.mem_cons.mp hc with rfl | digit
        · exact .inr rfl
        · exact .inl (digits _ c digit)
      · rw [integer?, natural?_toDigits]
        rfl

end Json

end PageTemplates
