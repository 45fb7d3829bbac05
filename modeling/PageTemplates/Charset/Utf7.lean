import PageTemplates.Charset.Utf8

/-!
# UTF-7

A charset of ASCII bytes only. A plus sign opens a section in which digits of
six bits hold units of sixteen; a minus sign closes it, as does any byte that is
no digit. A plus sign itself is an empty section.

What stands for no character is read as one replacement character: bits that
are left over, a surrogate without its partner, a byte above ASCII.
-/

namespace PageTemplates.Utf7

def digit? (b : UInt8) : Option Nat :=
  if 0x41 ≤ b && b ≤ 0x5A then some (b.toNat - 0x41)
  else if 0x61 ≤ b && b ≤ 0x7A then some (b.toNat - 0x61 + 26)
  else if 0x30 ≤ b && b ≤ 0x39 then some (b.toNat - 0x30 + 52)
  else if b == 0x2B then some 62
  else if b == 0x2F then some 63
  else none

def digit (n : Nat) : UInt8 :=
  if n < 26 then UInt8.ofNat (0x41 + n)
  else if n < 52 then UInt8.ofNat (0x61 + (n - 26))
  else if n < 62 then UInt8.ofNat (0x30 + (n - 52))
  else if n == 62 then 0x2B
  else 0x2F

/-- Bits that make no full unit or digit yet: the last `count` bits of
`value`. -/
structure Bits where
  value : Nat := 0
  count : Nat := 0
deriving Repr, DecidableEq

namespace Bits

/-- More bits behind the ones there are. -/
def push (bits : Bits) (width n : Nat) : Bits :=
  ⟨(bits.value <<< width) + n, bits.count + width⟩

/-- The first `width` bits as a number, and the bits behind them. -/
def pop (bits : Bits) (width : Nat) : Nat × Bits :=
  let left := bits.count - width
  (bits.value >>> left, ⟨bits.value % (1 <<< left), left⟩)

/-- Whether a section may not end with these bits: they hold a whole digit, or
one that is not zero. -/
def isCutOff (bits : Bits) : Bool := bits.count ≥ 6 || bits.value != 0

end Bits

/-- Where a reader stands: in plain text, behind the plus sign that opens a
section, or inside the section, maybe with a first surrogate that waits for its
partner. -/
inductive Place where
  | plain
  | opened
  | inside (bits : Bits) (high : Option Nat)
deriving Repr, DecidableEq

/-- Whether a unit is the first of a pair. -/
def isHigh (u : Nat) : Bool := 0xD800 ≤ u && u < 0xDC00

/-- Whether a unit is the second of a pair. -/
def isLow (u : Nat) : Bool := 0xDC00 ≤ u && u < 0xE000

/-- The characters that a unit completes, and the first surrogate that waits
then. -/
def take (high : Option Nat) (u : Nat) : List Char × Option Nat :=
  match high with
  | some h =>
      if isLow u then ([Char.ofNat (0x10000 + (h - 0xD800) * 0x400 + (u - 0xDC00))], none)
      else if isHigh u then ([replacementChar], some u)
      else ([replacementChar, Char.ofNat u], none)
  | none =>
      if isHigh u then ([], some u)
      else if isLow u then ([replacementChar], none)
      else ([Char.ofNat u], none)

/-- The characters that a digit completes, and the place behind it. -/
def takeDigit (bits : Bits) (high : Option Nat) (d : Nat) : List Char × Place :=
  let bits := bits.push 6 d
  if bits.count < 16 then ([], .inside bits high)
  else
    let (u, bits) := bits.pop 16
    let (cs, high) := take high u
    (cs, .inside bits high)

/-- A byte of plain text. -/
def direct (b : UInt8) : Char := if b < 0x80 then Char.ofNat b.toNat else replacementChar

/-- The characters that a byte completes, and the place behind it. -/
def step (place : Place) (b : UInt8) : List Char × Place :=
  match place, digit? b with
  | .plain, _ => if b == 0x2B then ([], .opened) else ([direct b], .plain)
  | .opened, some d => takeDigit {} none d
  | .opened, none => ([if b == 0x2D then '+' else replacementChar], .plain)
  | .inside bits high, some d => takeDigit bits high d
  | .inside bits high, none =>
      if bits.isCutOff then ([replacementChar], .plain)
      else
        let lone := if high.isSome && b < 0x80 then [replacementChar] else []
        (if b == 0x2D then lone else lone ++ [direct b], .plain)

/-- What the end of the text leaves. -/
def atEnd : Place → List Char
  | .inside bits high => if high.isSome || bits.isCutOff then [replacementChar] else []
  | _ => []

/-- Reads text from a place. -/
def decodeFrom (place : Place) : Bytes → List Char
  | [] => atEnd place
  | b :: bs =>
      let (cs, place) := step place b
      cs ++ decodeFrom place bs

def decode (bs : Bytes) : List Char := decodeFrom .plain bs

/-- Whether a character is written as itself. -/
def isDirect (c : Char) : Bool :=
  c == '\t' || c == '\n' || c == '\r' || (' ' ≤ c && c ≤ '}' && c != '+' && c != '\\')

/-- The units of a character. -/
def units (c : Char) : List Nat :=
  if c.toNat < 0x10000 then [c.toNat]
  else
    let n := c.toNat - 0x10000
    [0xD800 + n / 0x400, 0xDC00 + n % 0x400]

/-- The whole digits of bits, at most `fuel` of them, and the bits that are
left. -/
def digits : Nat → Bits → Bytes × Bits
  | 0, bits => ([], bits)
  | fuel + 1, bits =>
      if bits.count < 6 then ([], bits)
      else
        let (d, bits) := bits.pop 6
        let (ds, bits) := digits fuel bits
        (digit d :: ds, bits)

/-- Writes the units of a character into a section. A unit and the bits in
front of it hold at most three digits. -/
def encodeUnits (bits : Bits) : List Nat → Bytes × Bits
  | [] => ([], bits)
  | u :: us =>
      let (ds, bits) := digits 3 (bits.push 16 u)
      let (rest, bits) := encodeUnits bits us
      (ds ++ rest, bits)

/-- The digit that fills up what a section leaves. -/
def lastDigit (bits : Bits) : Bytes :=
  if bits.count == 0 then [] else [digit (bits.value <<< (6 - bits.count))]

/-- Writes text, with the bits of the section that is open. -/
def encodeFrom (bits? : Option Bits) : List Char → Bytes
  | [] =>
      match bits? with
      | some bits => lastDigit bits ++ [0x2D]
      | none => []
  | c :: cs =>
      let b := UInt8.ofNat c.toNat
      match bits? with
      | none =>
          if c == '+' then 0x2B :: 0x2D :: encodeFrom none cs
          else if isDirect c then b :: encodeFrom none cs
          else
            let (ds, bits) := encodeUnits {} (units c)
            0x2B :: ds ++ encodeFrom (some bits) cs
      | some bits =>
          if isDirect c then
            -- a digit or a minus would be read as part of the section
            let close : Bytes := if (digit? b).isSome || c == '-' then [0x2D] else []
            lastDigit bits ++ close ++ b :: encodeFrom none cs
          else
            let (ds, bits) := encodeUnits bits (units c)
            ds ++ encodeFrom (some bits) cs

def encode (cs : List Char) : Bytes := encodeFrom none cs

end PageTemplates.Utf7
