import PageTemplates.Charset.Named
import PageTemplates.Log
import PageTemplates.Text.Blank
import PageTemplates.Text.Find
import PageTemplates.Text.Quoted

/-!
# The charset a template declares

A template says its charset in a `<meta http-equiv="Content-Type">` tag or in
an XML prolog. Both are found in the bytes, before the charset is known, since
the ASCII characters they are made of are the same in all of them. A `<meta>`
tag wins over the prolog.
-/

namespace PageTemplates.Charset

open Text (find?)

/-- The bytes that end an unquoted value of a tag. -/
def endsValue (b : UInt8) : Bool :=
  b == 0x20 || b == 0x22 || b == 0x27 || b == 0x2F || b == 0x3E

/-- The name in ASCII bytes, without blanks around. -/
def nameOfBytes (bs : Bytes) : String :=
  String.ofList (Text.trim (SingleByte.ascii.decode bs))

/-- The charset a `<meta` tag declares; `tag` runs up to its closing `>`. The
tag has to quote the words `Content-Type`. -/
def charsetOfMeta? (tag : Bytes) : Option String := do
  let low := tag.lower
  let iType ← find? (Bytes.ofAscii "content-type") low
  let quote ← low[iType - 1]?
  guard (quote == 0x22 || quote == 0x27)
  let iCharset ← find? (Bytes.ofAscii "charset") low
  let iEq ← find? (Bytes.ofAscii "=") (low.drop iCharset)
  let rest := (tag.drop (iCharset + iEq + 1)).dropWhile Bytes.isTagBlank
  let value := rest.takeWhile fun b => !endsValue b
  -- cut off by the end of the tag, a name is none
  guard (!value.isEmpty && value.length < rest.length)
  return nameOfBytes value

/-- The charset of the first `<meta` tag that declares one. -/
def ofMeta? : Bytes → Option String
  | [] => none
  | b :: bs =>
      let here :=
        if Bytes.beginsWith (Bytes.ofAscii "<meta") (b :: bs)
        then charsetOfMeta? ((b :: bs).takeWhile (· != 0x3E)) else none
      here.or (ofMeta? bs)

/-- The characters of a name in an XML prolog. -/
def isPrologNameByte (b : UInt8) : Bool :=
  (0x41 ≤ b && b ≤ 0x5A) || (0x61 ≤ b && b ≤ 0x7A) || (0x30 ≤ b && b ≤ 0x39)
    || b == 0x2E || b == 0x5F || b == 0x3A || b == 0x2D

/-- The value of `encoding = "..."` when that stands directly in front. -/
def encodingHere? (bs : Bytes) : Option String := do
  let word := Bytes.ofAscii "encoding"
  guard (word.isPrefixOf bs)
  match (bs.drop word.length).dropWhile Bytes.isBlank with
  | 0x3D :: rest =>
      match rest.dropWhile Bytes.isBlank with
      | q :: value =>
          guard (q == 0x22 || q == 0x27)
          let name := value.takeWhile isPrologNameByte
          guard (!name.isEmpty && (value.drop name.length).head? == some q)
          return String.ofList (SingleByte.ascii.decode name)
      | [] => none
  | _ => none

/-- The first `encoding` of a prolog that follows a blank. -/
def encodingIn? : Bytes → Option String
  | [] => none
  | b :: bs => (if Bytes.isBlank b then encodingHere? bs else none).or (encodingIn? bs)

/-- The charset of an XML prolog, which may follow a byte order mark and
blanks. -/
def ofProlog? (content : Bytes) : Option String := do
  let head := content.dropWhile fun b =>
    b == 0xEF || b == 0xBB || b == 0xBF || Bytes.isTagBlank b
  guard (Bytes.beginsWith (Bytes.ofAscii "<?xml") head)
  let stop ← find? (Bytes.ofAscii "?>") head
  encodingIn? (head.take stop)

/-- The charset name that content declares; an empty one counts as none. -/
def declared? (content : Bytes) : Option String :=
  match ofMeta? content with
  | some name => if name.isEmpty then ofProlog? content else some name
  | none => ofProlog? content

/-- The name used when a template gives no usable one. -/
def fallback (default? : Option String) : String :=
  match default? with
  | some name => if name.isEmpty then platformDefault else name
  | none => platformDefault

/-- The registered name of a declared charset. An unknown one is replaced by
the fallback, with a warning; only a name that cannot be looked up fails. -/
def resolve (name? default? : Option String) : Logged (Except CharsetError String) :=
  let other := fallback default?
  match name? with
  | none => pure (.ok other)
  | some name =>
      if Text.allBlank name then pure (.ok other)
      else
        match Codec.named (Text.strip name) with
        | .ok c => pure (.ok c.name)
        | .error (.unknown _) =>
            Logged.warning ("Not recognized encoding " ++ Text.quoted name ++ ", using " ++ other)
              *> pure (.ok other)
        | .error e => pure (.error e)

/-- The charset to read content with. -/
def guess (content : Bytes) (default? : Option String) :
    Logged (Except CharsetError String) :=
  resolve (declared? content) default?

end PageTemplates.Charset
