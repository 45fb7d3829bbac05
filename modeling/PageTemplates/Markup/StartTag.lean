import PageTemplates.Markup.Node
import PageTemplates.Markup.Reference
import PageTemplates.Text.Blank
import PageTemplates.Text.Case

/-!
# Reading start tags

A start tag is read as browsers' older relatives do: the name runs to a blank,
a slash or the closing bracket, attributes are told apart by blanks, slashes
and quotes, and a value is quoted, bare or missing. Lengths count characters.
-/

namespace PageTemplates.Markup

open Text (isBlank)

/-- An ASCII letter, which every name begins with. -/
def isLetter (c : Char) : Bool := c.isAlpha

/-- A character of a tag name. -/
def isTagNameChar (c : Char) : Bool :=
  c != '\t' && c != '\n' && c != '\r' && c != '\x0c' && c != ' ' && c != '/' && c != '>'
    && c != '\x00'

/-- A character that an attribute name begins with. -/
def isAttributeStart (c : Char) : Bool := !isBlank c && c != '/' && c != '>'

/-- A later character of an attribute name. -/
def isAttributeChar (c : Char) : Bool := isAttributeStart c && c != '='

/-- A character of a bare value. -/
def isBareChar (c : Char) : Bool := !isBlank c && c != '>'

/-- A character behind which an attribute may begin. -/
def opensAttribute (c : Char) : Bool := c == '\'' || c == '"' || c == '/' || isBlank c

/-- The length of the blanks and slashes in front; a slash that closes the tag
does not count. -/
def gapLength : List Char → Nat
  | [] => 0
  | c :: cs =>
      if isBlank c || (c == '/' && cs.head? != some '>') then gapLength cs + 1 else 0

/-- A value between quotes `q`, when the closing one is there. -/
def quotedValue? (q : Char) (cs : List Char) : Option (List Char) :=
  let value := cs.takeWhile (· != q)
  if value.length < cs.length then some value else none

/-- The value behind an attribute name, and the length of all of it: blanks,
equal signs, blanks and the value. -/
def valueAt? (cs : List Char) : Option (List Char × Nat) :=
  let before := (cs.takeWhile isBlank).length
  let equals := ((cs.drop before).takeWhile (· == '=')).length
  let blanks := ((cs.drop (before + equals)).takeWhile isBlank).length
  let start := before + equals + blanks
  let bare (from' : Nat) : List Char × Nat :=
    let value := (cs.drop from').takeWhile isBareChar
    (value, from' + value.length)
  if equals == 0 then none
  else
    match cs.drop start with
    | [] => some (bare start)
    | q :: rest =>
        if q == '"' || q == '\'' then
          match quotedValue? q rest with
          | some value => some (value, start + value.length + 2)
          | none =>
              -- never closed: the match gives back a blank, or else an equal sign, or fails
              if 0 < blanks then some ([], start - 1)
              else if 1 < equals then some (bare (start - 1))
              else none
        else some (bare start)

/-- The attribute that begins in front, with its value as it is written, and
its length with the gap behind it; `prev` is the character before it. -/
def attributeAt? (prev : Char) : List Char → Option (Attribute × Nat)
  | [] => none
  | c :: cs =>
      if opensAttribute prev && isAttributeStart c then
        let name := c :: cs.takeWhile isAttributeChar
        let key := Text.lower (String.ofList name)
        let rest := (c :: cs).drop name.length
        match valueAt? rest with
        | some (value, n) =>
            some ((key, some (String.ofList value)), name.length + n + gapLength (rest.drop n))
        | none => some ((key, none), name.length + gapLength rest)
      else none

/-- The attributes in front and their length; `skip` characters belong to the
attribute read last. -/
def attributesFrom : Nat → Char → List Char → List Attribute × Nat
  | _, _, [] => ([], 0)
  | skip + 1, _, c :: cs =>
      let (as, n) := attributesFrom skip c cs
      (as, n + 1)
  | 0, prev, c :: cs =>
      match attributeAt? prev (c :: cs) with
      | some (a, len) =>
          let (as, n) := attributesFrom (len - 1) c cs
          (a :: as, n + 1)
      | none => ([], 0)

/-- An attribute with the references in its value read. -/
def readReferences (a : Attribute) : Attribute :=
  (a.1, a.2.map fun value => String.ofList (Reference.decode value.toList))

/-- How a start tag turns out: a tag of some length, perhaps ending itself; cut
off by the end of the text; broken off after some length; or with a reference
of too many digits in a value. -/
inductive StartTag where
  | tag (name : String) (attributes : List Attribute) (selfClosing : Bool) (length : Nat)
  | cutOff
  | broken (length : Nat)
  | overlong (digits : Nat)
deriving Repr, DecidableEq

/-- The outcome of a tag that is not cut off, unless a value of its attributes
cannot be read. -/
def StartTag.orOverlong (attributes : List Attribute) (t : StartTag) : StartTag :=
  match attributes.findSome? fun a => a.2.bind fun value => Reference.overlong? value.toList with
  | some digits => .overlong digits
  | none => t

/-- Reads a start tag; `cs` begins with the letter behind `<`, and lengths
count that bracket too. -/
def startTag (cs : List Char) : StartTag :=
  let name := cs.takeWhile isTagNameChar
  let gap := (cs.drop name.length).takeWhile fun c => isBlank c || c == '/'
  let prev := ((name ++ gap).getLast?).getD '<'
  let body := cs.drop (name.length + gap.length)
  let (written, n) := attributesFrom 0 prev body
  let attributes := written.map readReferences
  let upTo := 1 + name.length + gap.length + n
  let tag := Text.lower (String.ofList name)
  match body.drop n with
  | [] => .cutOff
  | '>' :: _ =>
      StartTag.orOverlong written
        -- a slash in the gap ends the tag if no attribute stands behind it
        (.tag tag attributes (attributes.isEmpty && gap.getLast? == some '/') (upTo + 1))
  | '/' :: '>' :: _ => StartTag.orOverlong written (.tag tag attributes true (upTo + 2))
  | c :: _ =>
      if isLetter c || c == '=' || c == '/' then .cutOff
      else StartTag.orOverlong written (.broken upTo)

end PageTemplates.Markup
