import PageTemplates.Charset.Registry

/-!
# Reading and writing by charset name

Text is read and written with the charset that a name leads to. A name with a
NUL in it is not even looked up. Which characters the bytes of a text stand for
is left to a reader; whether there is any text to read is not.
-/

namespace PageTemplates

/-- Why a charset name is of no use. -/
inductive CharsetError where
  | unknown (name : String)
  | notTextToRead (name : String)
  | notTextToWrite (name : String)
  | unreadable (name reason : String)
  | unwritable (name reason : String)
  | strayByte (byte : UInt8) (place : Nat)
  | nulInName
deriving Repr, DecidableEq

/-- Whether a name, or text under it, is refused as a value that cannot be,
rather than as a name that leads to no charset. -/
def CharsetError.isBadValue : CharsetError → Bool
  | .unreadable .. | .unwritable .. | .strayByte .. | .nulInName => true
  | .unknown _ | .notTextToRead _ | .notTextToWrite _ => false

/-- The wording of a charset error. -/
def CharsetError.message : CharsetError → String
  | .unknown name => "unknown encoding: " ++ name
  | .notTextToRead name =>
      "'" ++ name ++ "' is not a text encoding; use codecs.decode() to handle arbitrary codecs"
  | .notTextToWrite name =>
      "'" ++ name ++ "' is not a text encoding; use codecs.encode() to handle arbitrary codecs"
  | .unreadable name reason =>
      "decoding with '" ++ name ++ "' codec failed (UnicodeError: " ++ reason ++ ")"
  | .unwritable name reason =>
      "encoding with '" ++ name ++ "' codec failed (UnicodeError: " ++ reason ++ ")"
  | .strayByte byte place =>
      "'ascii' codec can't decode byte 0x" ++ String.ofList (Nat.toDigits 16 byte.toNat)
        ++ " in position " ++ toString place ++ ": ordinal not in range(128)"
  | .nulInName => "embedded null character"

/-- The charset of a name. -/
def Codec.named (name : String) : Except CharsetError Codec :=
  if name.toList.contains '\x00' then .error .nulInName
  else
    match Codec.ofName? name with
    | some c => .ok c
    | none => .error (.unknown name)

namespace Charset

/-- Why an unusable charset reads no text. -/
def readRefusal (codec : String) : String :=
  if codec == "idna" then "Unsupported error handling replace" else "undefined encoding"

/-- Why an unusable charset writes no text. -/
def writeRefusal (codec : String) : String :=
  if codec == "idna" then "unsupported error handling xmlcharrefreplace" else "undefined encoding"

/-- A way to read texts: the characters that bytes stand for in a charset.
`Codec.read` is one; one with a table for every charset and for the names of
characters is another. -/
abbrev Reader := Codec → Bytes → List Char

/-- Reads content with the charset of a name, texts by `reader`. No content is
empty text in every charset, so its name may then be unknown. -/
def decodeWith (reader : Reader) (name : String) (bs : Bytes) : Except CharsetError String :=
  match Codec.named name with
  | .error .nulInName => .error .nulInName
  | c =>
      if bs.isEmpty then .ok ""
      else
        match c with
        | .error e => .error e
        | .ok (.transform _) => .error (.notTextToRead name)
        | .ok (.unusable codec) => .error (.unreadable name (readRefusal codec))
        | .ok .punycode =>
            match Punycode.stray? bs with
            | some (b, n) => .error (.strayByte b n)
            | none => .ok (String.ofList (reader .punycode bs))
        | .ok c => .ok (String.ofList (reader c bs))

/-- Reads content with the charset of a name. -/
def decode (name : String) (bs : Bytes) : Except CharsetError String :=
  decodeWith Codec.read name bs

/-- Writes text with the charset of a name. -/
def encode (name : String) (s : String) : Except CharsetError Bytes := do
  match ← Codec.named name with
  | .transform _ => throw (.notTextToWrite name)
  | .unusable codec => throw (.unwritable name (writeRefusal codec))
  | c => return c.write s.toList

/-- The charset of templates that declare none. -/
def platformDefault : String := "utf-8"

end Charset

end PageTemplates
