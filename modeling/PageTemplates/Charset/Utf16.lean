import PageTemplates.Charset.Utf8

/-!
# UTF-16 and UTF-32

The charsets of fixed units, in both byte orders. A unit that stands for no
character is read as one replacement character: a surrogate without its
partner, a unit cut off by the end, a code point that does not exist.
-/

namespace PageTemplates

/-- The order in which the bytes of a unit are written. -/
inductive ByteOrder where
  | little
  | big
deriving Repr, DecidableEq

namespace ByteOrder

/-- The value of a unit of two bytes. -/
def unit (o : ByteOrder) (a b : UInt8) : Nat :=
  match o with
  | .little => a.toNat + 256 * b.toNat
  | .big => 256 * a.toNat + b.toNat

/-- The bytes of a unit of two bytes. -/
def split (o : ByteOrder) (n : Nat) : Bytes :=
  match o with
  | .little => [UInt8.ofNat (n % 256), UInt8.ofNat (n / 256)]
  | .big => [UInt8.ofNat (n / 256), UInt8.ofNat (n % 256)]

end ByteOrder

namespace Utf16

/-- Writes one character in one unit, or in a pair of surrogates. -/
def encodeChar (o : ByteOrder) (c : Char) : Bytes :=
  if c.toNat < 0x10000 then o.split c.toNat
  else
    let n := c.toNat - 0x10000
    o.split (0xD800 + n / 0x400) ++ o.split (0xDC00 + n % 0x400)

/-- Writes text without a byte order mark. -/
def encode (o : ByteOrder) (cs : List Char) : Bytes := cs.flatMap (encodeChar o)

/-- Reads the units; `high` is a first surrogate that waits for its partner. -/
def decodeFrom (o : ByteOrder) (high : Option Nat) : Bytes → List Char
  | [] => if high.isSome then [replacementChar] else []
  | [_] => [replacementChar]
  | a :: b :: bs =>
      let u := o.unit a b
      match high with
      | some h =>
          if 0xDC00 ≤ u && u < 0xE000 then
            Char.ofNat (0x10000 + (h - 0xD800) * 0x400 + (u - 0xDC00)) :: decodeFrom o none bs
          -- the one that waits is alone, this one may still find its partner
          else if 0xD800 ≤ u && u < 0xDC00 then replacementChar :: decodeFrom o (some u) bs
          else replacementChar :: Char.ofNat u :: decodeFrom o none bs
      | none =>
          if 0xD800 ≤ u && u < 0xDC00 then decodeFrom o (some u) bs
          else if 0xDC00 ≤ u && u < 0xE000 then replacementChar :: decodeFrom o none bs
          else Char.ofNat u :: decodeFrom o none bs

/-- Reads text in a known byte order; a mark is a character like any other. -/
def decode (o : ByteOrder) (bs : Bytes) : List Char := decodeFrom o none bs

/-- Reads text whose byte order is given by a mark, little-endian without one. -/
def decodeMarked : Bytes → List Char
  | 0xFF :: 0xFE :: bs => decode .little bs
  | 0xFE :: 0xFF :: bs => decode .big bs
  | bs => decode .little bs

end Utf16

namespace Utf32

/-- Writes text in a byte order, without a mark. -/
def encode (o : ByteOrder) (cs : List Char) : Bytes :=
  cs.flatMap fun c =>
    match o with
    | .little => o.split (c.toNat % 0x10000) ++ o.split (c.toNat / 0x10000)
    | .big => o.split (c.toNat / 0x10000) ++ o.split (c.toNat % 0x10000)

/-- Reads text in a known byte order. -/
def decode (o : ByteOrder) : Bytes → List Char
  | a :: b :: c :: d :: bs =>
      let n :=
        match o with
        | .little => o.unit a b + 0x10000 * o.unit c d
        | .big => 0x10000 * o.unit a b + o.unit c d
      (if n.isValidChar then Char.ofNat n else replacementChar) :: decode o bs
  | [] => []
  | _ => [replacementChar]

/-- Reads text whose byte order is given by a mark, little-endian without one. -/
def decodeMarked : Bytes → List Char
  | 0xFF :: 0xFE :: 0 :: 0 :: bs => decode .little bs
  | 0 :: 0 :: 0xFE :: 0xFF :: bs => decode .big bs
  | bs => decode .little bs

end Utf32

end PageTemplates
