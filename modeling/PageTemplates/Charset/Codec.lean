import PageTemplates.Charset.Escaped
import PageTemplates.Charset.Punycode
import PageTemplates.Charset.SingleByte
import PageTemplates.Charset.Utf16
import PageTemplates.Charset.Utf7

/-!
# Charsets

The charsets that a template may declare, and how text is read and written with
each. Reading never fails; a character that a charset cannot write becomes a
decimal character reference.

Charsets of several bytes a character, such as Shift_JIS or GBK, have no tables
here, and only the ASCII part of their texts is read as it stands. What is to
hold of templates in such charsets too is therefore stated for every way to read
texts, see `Charset.Reader`.
-/

namespace PageTemplates

/-- A charset. An `other` one is read and written by the table for its name;
without a table only its ASCII part is. A `transform` changes bytes or letters
and is no text charset; an `unusable` charset refuses all text. -/
inductive Codec where
  | ascii | latin1 | latin5 | latin9 | windows1252 | windows1254
  | utf8 | utf8Marked | utf16 | utf16le | utf16be | utf32 | utf32le | utf32be | utf7
  | escaped | rawEscaped | punycode
  | other (name : String)
  | transform (name : String)
  | unusable (name : String)
deriving Repr, DecidableEq

namespace Codec

/-- The bytes of a decimal character reference. -/
def reference (c : Char) : List Char :=
  '&' :: '#' :: Nat.toDigits 10 c.toNat ++ [';']

/-- Writes text with a table, characters outside it as references, which are
written with the table too. -/
def encodeWith (t : SingleByte) (cs : List Char) : Bytes :=
  cs.flatMap fun c =>
    match t.byte? c with
    | some b => [b]
    | none => (reference c).filterMap t.byte?

/-- The table of an `other` charset, or the one of its ASCII part. -/
def tableOf (name : String) : SingleByte := (SingleByte.named? name).getD SingleByte.ascii

def read (c : Codec) (bs : Bytes) : List Char :=
  match c with
  | latin1 => SingleByte.latin1.decode bs
  | latin5 => SingleByte.latin5.decode bs
  | latin9 => SingleByte.latin9.decode bs
  | windows1252 => SingleByte.windows1252.decode bs
  | windows1254 => SingleByte.windows1254.decode bs
  | utf8 => Utf8.decode bs
  | utf8Marked =>
      match bs with
      | 0xEF :: 0xBB :: 0xBF :: rest => Utf8.decode rest
      | _ => Utf8.decode bs
  | utf16 => Utf16.decodeMarked bs
  | utf16le => Utf16.decode .little bs
  | utf16be => Utf16.decode .big bs
  | utf32 => Utf32.decodeMarked bs
  | utf32le => Utf32.decode .little bs
  | utf32be => Utf32.decode .big bs
  | utf7 => Utf7.decode bs
  | escaped => Escaped.decodeFull bs
  | rawEscaped => Escaped.decodeRaw bs
  | punycode => Punycode.decode bs
  | other name => (tableOf name).decode bs
  | ascii | transform _ | unusable _ => SingleByte.ascii.decode bs

def write (c : Codec) (cs : List Char) : Bytes :=
  match c with
  | latin1 => encodeWith SingleByte.latin1 cs
  | latin5 => encodeWith SingleByte.latin5 cs
  | latin9 => encodeWith SingleByte.latin9 cs
  | windows1252 => encodeWith SingleByte.windows1252 cs
  | windows1254 => encodeWith SingleByte.windows1254 cs
  | utf8 => Utf8.encode cs
  | utf8Marked => 0xEF :: 0xBB :: 0xBF :: Utf8.encode cs
  | utf16 => 0xFF :: 0xFE :: Utf16.encode .little cs
  | utf16le => Utf16.encode .little cs
  | utf16be => Utf16.encode .big cs
  | utf32 => 0xFF :: 0xFE :: 0 :: 0 :: Utf32.encode .little cs
  | utf32le => Utf32.encode .little cs
  | utf32be => Utf32.encode .big cs
  | utf7 => Utf7.encode cs
  | escaped => Escaped.encodeFull cs
  | rawEscaped => Escaped.encodeRaw cs
  | punycode => Punycode.encode cs
  | other name => encodeWith (tableOf name) cs
  | ascii | transform _ | unusable _ => encodeWith SingleByte.ascii cs

end Codec

end PageTemplates
