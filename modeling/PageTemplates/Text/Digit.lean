import PageTemplates.Text.Blank

/-!
# Digits and integers

The digits of ASCII, which stand for numbers in a base up to sixteen, the
decimal digits of every script, and integers written with them: blanks around,
a sign directly before the digits, leading zeros, and single underscores
between digits are all allowed. A text of more than `maxDigits` digits is
refused.
-/

namespace PageTemplates.Text

/-- Whether a character is a hexadecimal digit. -/
def isHexDigit (c : Char) : Bool :=
  c.isDigit || ('a' ≤ c && c ≤ 'f') || ('A' ≤ c && c ≤ 'F')

/-- The value of a hexadecimal digit. -/
def hexValue (c : Char) : Nat :=
  if c.isDigit then c.toNat - '0'.toNat
  else if 'a' ≤ c then c.toNat - 'a'.toNat + 10
  else c.toNat - 'A'.toNat + 10

/-- The number that digits in a base stand for. -/
def digitsValue (base : Nat) (ds : List Char) : Nat :=
  ds.foldl (fun n d => base * n + hexValue d) 0

/-- The zeros of the scripts that have decimal digits; each is followed by the
digits one to nine. -/
def zeroDigits : List Nat := [
    0x30, 0x660, 0x6F0, 0x7C0, 0x966, 0x9E6, 0xA66, 0xAE6,
    0xB66, 0xBE6, 0xC66, 0xCE6, 0xD66, 0xDE6, 0xE50, 0xED0,
    0xF20, 0x1040, 0x1090, 0x17E0, 0x1810, 0x1946, 0x19D0, 0x1A80,
    0x1A90, 0x1B50, 0x1BB0, 0x1C40, 0x1C50, 0xA620, 0xA8D0, 0xA900,
    0xA9D0, 0xA9F0, 0xAA50, 0xABF0, 0xFF10, 0x104A0, 0x10D30, 0x11066,
    0x110F0, 0x11136, 0x111D0, 0x112F0, 0x11450, 0x114D0, 0x11650, 0x116C0,
    0x11730, 0x118E0, 0x11950, 0x11C50, 0x11D50, 0x11DA0, 0x16A60, 0x16AC0,
    0x16B50, 0x1D7CE, 0x1D7D8, 0x1D7E2, 0x1D7EC, 0x1D7F6, 0x1E140, 0x1E2F0,
    0x1E950, 0x1FBF0]

/-- The value of a decimal digit. -/
def digitValue? (c : Char) : Option Nat :=
  (zeroDigits.find? fun z => z ≤ c.toNat && c.toNat ≤ z + 9).map (c.toNat - ·)

/-- Reads digits with single underscores between them; `value` is what the
digits so far stand for, and `due` says that one more digit is due. -/
def readDigits? (value : Nat) (due : Bool) : List Char → Option Nat
  | [] => if due then none else some value
  | c :: cs =>
      if c == '_' then (if due then none else readDigits? value true cs)
      else
        match digitValue? c with
        | some d => readDigits? (10 * value + d) false cs
        | none => none

/-- The most digits an integer may be written with. -/
def maxDigits : Nat := 4300

/-- The wording for an integer of `n` digits, which are too many. -/
def tooManyDigits (n : Nat) : String :=
  "Exceeds the limit (" ++ toString maxDigits ++ " digits) for integer string conversion: value has "
    ++ toString n ++ " digits; use sys.set_int_max_str_digits() to increase the limit"

/-- Reads a number without sign, of at most `maxDigits` digits. -/
def readNat? (cs : List Char) : Option Nat :=
  if maxDigits < cs.countP (· != '_') then none else readDigits? 0 true cs

/-- Reads an integer that fills the whole text. -/
def readInt? (s : String) : Option Int :=
  match trim s.toList with
  | '-' :: cs => (readNat? cs).map fun n => -(n : Int)
  | '+' :: cs => (readNat? cs).map Int.ofNat
  | cs => (readNat? cs).map Int.ofNat

end PageTemplates.Text
