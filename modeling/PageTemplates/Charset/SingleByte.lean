import PageTemplates.Charset.SingleByteTable
import PageTemplates.Charset.Utf8
import PageTemplates.Text.Digit

/-!
# Charsets of one byte per character

A charset of this kind is a table from bytes to characters, given by the bytes
at which it departs from the table in which a byte is its own code point.
Nearly all agree with ASCII below `0x80`.
-/

namespace PageTemplates

/-- A charset of one byte per character: the characters of some bytes, the
bytes without a character, and for every other byte the character with the
same code point. -/
structure SingleByte where
  special : List (UInt8 × Char)
  undefined : List UInt8
deriving Repr, DecidableEq

namespace SingleByte

/-- The character a byte stands for. -/
def char? (t : SingleByte) (b : UInt8) : Option Char :=
  match t.special.lookup b with
  | some c => some c
  | none => if t.undefined.contains b then none else some (Char.ofNat b.toNat)

/-- The byte a character is written as. -/
def byte? (t : SingleByte) (c : Char) : Option UInt8 :=
  match t.special.find? (·.2 == c) with
  | some (b, _) => some b
  | none =>
      if c.toNat < 0x100 && t.char? (UInt8.ofNat c.toNat) == some c
      then some (UInt8.ofNat c.toNat) else none

/-- Reads text; a byte without a character is read as the replacement
character. -/
def decode (t : SingleByte) (bs : Bytes) : List Char :=
  bs.map fun b => (t.char? b).getD replacementChar

/-- The upper half of the byte range. -/
def upperHalf : List UInt8 := (List.range 128).map fun n => UInt8.ofNat (n + 128)

/-- ASCII: nothing above `0x7F`. -/
def ascii : SingleByte := ⟨[], upperHalf⟩

/-- Latin-1: every byte is its own code point. -/
def latin1 : SingleByte := ⟨[], []⟩

/-- The Turkish letters that stand in place of six Icelandic ones. -/
def turkishLetters : List (UInt8 × Char) :=
  [(0xD0, 'Ğ'), (0xDD, 'İ'), (0xDE, 'Ş'), (0xF0, 'ğ'), (0xFD, 'ı'), (0xFE, 'ş')]

def latin5 : SingleByte := ⟨turkishLetters, []⟩

/-- Latin-9: Latin-1 with the euro sign and seven letters. -/
def latin9 : SingleByte :=
  ⟨[(0xA4, '€'), (0xA6, 'Š'), (0xA8, 'š'), (0xB4, 'Ž'), (0xB8, 'ž'), (0xBC, 'Œ'),
    (0xBD, 'œ'), (0xBE, 'Ÿ')], []⟩

/-- What the Windows charsets put in place of the controls `0x80`-`0x9F`,
the two letters Z with caron apart. -/
def windowsSigns : List (UInt8 × Char) :=
  [(0x80, '€'), (0x82, '‚'), (0x83, 'ƒ'), (0x84, '„'), (0x85, '…'), (0x86, '†'),
    (0x87, '‡'), (0x88, 'ˆ'), (0x89, '‰'), (0x8A, 'Š'), (0x8B, '‹'), (0x8C, 'Œ'),
    (0x91, '‘'), (0x92, '’'), (0x93, '“'), (0x94, '”'), (0x95, '•'), (0x96, '–'),
    (0x97, '—'), (0x98, '˜'), (0x99, '™'), (0x9A, 'š'), (0x9B, '›'), (0x9C, 'œ'),
    (0x9F, 'Ÿ')]

def windows1252 : SingleByte :=
  ⟨windowsSigns ++ [(0x8E, 'Ž'), (0x9E, 'ž')], [0x81, 0x8D, 0x8F, 0x90, 0x9D]⟩

def windows1254 : SingleByte :=
  ⟨windowsSigns ++ turkishLetters, [0x81, 0x8D, 0x8E, 0x8F, 0x90, 0x9D, 0x9E]⟩

/-- The characters that a word of a table stands for, `none` where a byte has
none. -/
def chars (word : String) : List (Option Char) :=
  match (Text.splitAtEach (· == '-') word.toList).map (Text.digitsValue 16) with
  | [code] => [some (Char.ofNat code)]
  | [first, last] =>
      if word == "-" then [none]
      else (List.range (last + 1 - first)).map fun n => some (Char.ofNat (first + n))
  | _ => []

/-- The charset whose bytes from `first` on have the characters of a table. -/
def ofTable (first : Nat) (table : List String) : SingleByte :=
  let row := (table.flatMap Text.words).flatMap chars
  let bytes := (List.range row.length).map fun n => UInt8.ofNat (first + n)
  let pairs := bytes.zip row
  -- reversed, so that of several bytes for a character the greatest is written
  ⟨(pairs.filterMap fun (b, c?) => c?.map (b, ·)).reverse,
    (pairs.filter (·.2.isNone)).map (·.1)⟩

/-- The charset of a name, if there is a table for it. -/
def named? (name : String) : Option SingleByte :=
  ((upperRows.lookup name).map (ofTable 0x80)).or ((wholeRows.lookup name).map (ofTable 0))

end SingleByte

end PageTemplates
