import PageTemplates.Charset.Utf8
import PageTemplates.Text.Digit

/-!
# Charsets of escapes

Two charsets of Latin-1 bytes in which a backslash opens an escape. In the raw
one only escapes of four and of eight hexadecimal digits are known, and every
other backslash stands for itself. The full one knows the escapes of string
literals, and writes whatever is not printable ASCII with them.

An escape that is cut off, or that stands for no character, is read as one
replacement character. So is a character given by its Unicode name, for there is
no table of the names; statements that must not depend on it are about every way
to read texts, see `Charset.Reader`.
-/

namespace PageTemplates.Escaped

def latin (b : UInt8) : Char := Char.ofNat b.toNat

/-- The hexadecimal digits in front, at most `n` of them. -/
def digitsAhead (n : Nat) (bs : Bytes) : List Char :=
  ((bs.take n).map latin).takeWhile Text.isHexDigit

/-- The character of an escape of `n` hexadecimal digits, and how many of them
there are. -/
def coded (n : Nat) (bs : Bytes) : List Char × Nat :=
  let ds := digitsAhead n bs
  let code := Text.digitsValue 16 ds
  if ds.length == n && code.isValidChar then ([Char.ofNat code], n)
  else ([replacementChar], ds.length)

/-- What stands behind a backslash in the raw charset: its text, and how many
bytes it takes. -/
def rawEscape : Bytes → List Char × Nat
  | [] => (['\\'], 0)
  | 0x75 :: bs => let (cs, n) := coded 4 bs; (cs, n + 1)
  | 0x55 :: bs => let (cs, n) := coded 8 bs; (cs, n + 1)
  | b :: _ => (['\\', latin b], 1)

/-- The escapes of one letter. -/
def letters : List (UInt8 × Char) :=
  [(0x5C, '\\'), (0x27, '\''), (0x22, '"'), (0x62, '\x08'), (0x66, '\x0c'), (0x74, '\t'),
   (0x6E, '\n'), (0x72, '\r'), (0x76, '\x0b'), (0x61, '\x07')]

/-- A name in braces, which stands for no known character: how many bytes it
takes. -/
def nameLength : Bytes → Nat
  | 0x7B :: bs =>
      let name := bs.takeWhile (· != 0x7D)
      if name.length < bs.length && !name.isEmpty then name.length + 2 else name.length + 1
  | _ => 0

/-- What stands behind a backslash in the full charset: its text, and how many
bytes it takes. -/
def fullEscape : Bytes → List Char × Nat
  | [] => ([replacementChar], 0)
  | b :: bs =>
      match letters.lookup b with
      | some c => ([c], 1)
      | none =>
          if b == 0x0A then ([], 1)
          else if 0x30 ≤ b && b ≤ 0x37 then
            let ds := ((b :: bs).take 3).takeWhile fun d => 0x30 ≤ d && d ≤ 0x37
            ([Char.ofNat (ds.foldl (fun n d => 8 * n + (d.toNat - 0x30)) 0)], ds.length)
          else if b == 0x78 then let (cs, n) := coded 2 bs; (cs, n + 1)
          else if b == 0x75 then let (cs, n) := coded 4 bs; (cs, n + 1)
          else if b == 0x55 then let (cs, n) := coded 8 bs; (cs, n + 1)
          -- there is no table of the names
          else if b == 0x4E then ([replacementChar], nameLength bs + 1)
          else (['\\', latin b], 1)

/-- Reads text behind an escape of which `skip` bytes are left. -/
def decodeFrom (escape : Bytes → List Char × Nat) : Nat → Bytes → List Char
  | _, [] => []
  | skip + 1, _ :: bs => decodeFrom escape skip bs
  | 0, b :: bs =>
      if b == 0x5C then
        let (cs, n) := escape bs
        cs ++ decodeFrom escape n bs
      else latin b :: decodeFrom escape 0 bs

/-- Reads text of the raw charset. -/
def decodeRaw (bs : Bytes) : List Char := decodeFrom rawEscape 0 bs

/-- Reads text of the full charset. -/
def decodeFull (bs : Bytes) : List Char := decodeFrom fullEscape 0 bs

/-- An escape of `n` hexadecimal digits. -/
def escape (letter : Char) (n : Nat) (c : Char) : List Char :=
  let ds := Nat.toDigits 16 c.toNat
  '\\' :: letter :: List.replicate (n - ds.length) '0' ++ ds

/-- The escape of a character above Latin-1. -/
def wideEscape (c : Char) : List Char :=
  if c.toNat < 0x10000 then escape 'u' 4 c else escape 'U' 8 c

/-- Writes characters of Latin-1. -/
def bytes (cs : List Char) : Bytes := cs.map fun c => UInt8.ofNat c.toNat

/-- Writes text in the raw charset. -/
def encodeRaw (cs : List Char) : Bytes :=
  cs.flatMap fun c => bytes (if c.toNat < 0x100 then [c] else wideEscape c)

/-- Writes text in the full charset. -/
def encodeFull (cs : List Char) : Bytes :=
  cs.flatMap fun c => bytes <|
    if c == '\\' then ['\\', '\\']
    else if c == '\t' then ['\\', 't']
    else if c == '\n' then ['\\', 'n']
    else if c == '\r' then ['\\', 'r']
    else if ' ' ≤ c && c ≤ '~' then [c]
    else if c.toNat < 0x100 then escape 'x' 2 c
    else wideEscape c

end PageTemplates.Escaped
