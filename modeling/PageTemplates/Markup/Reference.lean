import PageTemplates.Charset.SingleByte
import PageTemplates.Markup.Entity
import PageTemplates.Text.Digit

/-!
# Reading character references

`&name;`, `&#n;` and `&#xn;` in text and attribute values, read the way
browsers read them: a number in the range of the C1 controls stands for the
Windows-1252 character, a name may lack its semicolon, and what is no reference
stays as it is. The only thing that cannot be read is a decimal number of more
digits than an integer may have.
-/

namespace PageTemplates.Reference

/-- The text of a numeric reference: the replacement character for numbers that
name no character, nothing for controls and noncharacters. -/
def ofNumber (n : Nat) : List Char :=
  if n == 0 then [replacementChar]
  else if n == 0x0D then ['\r']
  else if 0x80 ≤ n && n ≤ 0x9F then
    -- most who wrote such a number meant Windows-1252
    [(SingleByte.windows1252.char? (UInt8.ofNat n)).getD (Char.ofNat n)]
  else if (0xD800 ≤ n && n ≤ 0xDFFF) || 0x10FFFF < n then [replacementChar]
  else if (1 ≤ n && n ≤ 8) || n == 0x0B || (0x0E ≤ n && n ≤ 0x1F) || n == 0x7F
      || (0xFDD0 ≤ n && n ≤ 0xFDEF) || n % 0x10000 == 0xFFFE || n % 0x10000 == 0xFFFF then []
  else [Char.ofNat n]

/-- The length of an optional semicolon in front. -/
def semicolon (cs : List Char) : Nat := if cs.head? == some ';' then 1 else 0

/-- A character that a name may hold. -/
def isNameChar (c : Char) : Bool :=
  c != '\t' && c != '\n' && c != '\x0c' && c != ' ' && c != '<' && c != '&' && c != '#'
    && c != ';'

/-- The longest of the first `k` characters of `name`, and at least two of
them, that are a name without semicolon, with what follows it. -/
def longestName? (name : List Char) : Nat → Option (List Char)
  | 0 | 1 => none
  | k + 2 =>
      match Entity.open? (String.ofList (name.take (k + 2))) with
      | some s => some (s.toList ++ name.drop (k + 2))
      | none => longestName? name (k + 1)

/-- The text of a named reference; `closed` says whether a semicolon ends it. -/
def ofName (name : List Char) (closed : Bool) : List Char :=
  let whole := if closed then name ++ [';'] else name
  let exact := if closed then Entity.closed? (String.ofList name)
    else Entity.open? (String.ofList name)
  match exact with
  | some s => s.toList
  | none => (longestName? whole (whole.length - 1)).getD ('&' :: whole)

/-- What the characters behind an ampersand stand for together with it, and
how many of them belong to it. -/
def at? (cs : List Char) : Option (List Char × Nat) :=
  match cs with
  | '#' :: rest =>
      let digits := rest.takeWhile Char.isDigit
      if digits.isEmpty then
        match rest with
        | x :: rest =>
            let digits := rest.takeWhile Text.isHexDigit
            if (x == 'x' || x == 'X') && !digits.isEmpty then
              let tail := rest.drop digits.length
              some (ofNumber (Text.digitsValue 16 digits), 2 + digits.length + semicolon tail)
            else none
        | [] => none
      else
        let tail := rest.drop digits.length
        some (ofNumber (Text.digitsValue 10 digits), 1 + digits.length + semicolon tail)
  | _ =>
      -- a name has at most 32 characters
      let name := (cs.take 32).takeWhile isNameChar
      if name.isEmpty then none
      else
        let s := semicolon (cs.drop name.length)
        some (ofName name (s == 1), name.length + s)

/-- The number of digits of the first decimal reference that has too many. -/
def overlong? : List Char → Option Nat
  | [] => none
  | c :: cs =>
      let digits := ((cs.drop 1).takeWhile Char.isDigit).length
      if c == '&' && cs.head? == some '#' && Text.maxDigits < digits then some digits
      else overlong? cs

/-- Reads text behind a reference of which `skip` characters are left. -/
def decodeFrom : Nat → List Char → List Char
  | _, [] => []
  | skip + 1, _ :: cs => decodeFrom skip cs
  | 0, c :: cs =>
      if c == '&' then
        match at? cs with
        | some (text, n) => text ++ decodeFrom n cs
        | none => c :: decodeFrom 0 cs
      else c :: decodeFrom 0 cs

/-- Reads text with all its references. -/
def decode (cs : List Char) : List Char := decodeFrom 0 cs

end PageTemplates.Reference
