import PageTemplates.Charset.Bytes
import PageTemplates.Text.Find

/-!
# Finding the model section

The model section of a page is its first well-formed script element with the
attribute `yst="model"`. It is found in the bytes, with letters compared
without regard to case. A script whose end is preceded by the start of another
one is ill-formed and passed over.
-/

namespace PageTemplates.Model

open Text (find?)

def modelWord : Bytes := Bytes.ofAscii "model"

/-- Whether a value in front is the word `model`, in quotes or bare. -/
def isModelValue (bs : Bytes) : Bool :=
  match bs with
  | [] => false
  | q :: rest =>
      if q == 0x22 || q == 0x27 then
        modelWord.isPrefixOf rest && (rest.drop modelWord.length).head? == some q
      else
        -- a bare value ends with the tag, at a blank or at a slash
        modelWord.isPrefixOf bs
          && (bs.drop modelWord.length).head?.all fun b => Bytes.isTagBlank b || b == 0x2F

/-- Whether the attribute `yst = model` is in front. -/
def modelAttributeAt (bs : Bytes) : Bool :=
  (Bytes.ofAscii "yst").isPrefixOf bs &&
    match (bs.drop 3).dropWhile Bytes.isTagBlank with
    | 0x3D :: rest => isModelValue (rest.dropWhile Bytes.isTagBlank)
    | _ => false

/-- Whether a tag, of which `prev` is the byte before `bs`, holds the
attribute behind a blank. -/
def hasModelAttribute (prev : UInt8) : Bytes → Bool
  | [] => false
  | b :: bs => (Bytes.isTagBlank prev && modelAttributeAt (b :: bs)) || hasModelAttribute b bs

/-- The start of a script tag. -/
def scriptOpen : Bytes := Bytes.ofAscii "<script"

/-- The end tag of a script. -/
def scriptClose : Bytes := Bytes.ofAscii "</script>"

/-- The length of a model section in front of lower-case content. -/
def sectionAt? (bs : Bytes) : Option Nat := do
  guard (scriptOpen.isPrefixOf bs)
  let tail := bs.drop scriptOpen.length
  let tagEnd ← find? [0x3E] tail
  -- 0x74 is the last letter of the tag name
  guard (hasModelAttribute 0x74 (tail.take tagEnd))
  let body := tail.drop tagEnd
  let close ← find? scriptClose body
  -- ill-formed if another script begins before this one ends
  guard ((find? scriptOpen body).all fun nested => close < nested)
  return scriptOpen.length + tagEnd + close + scriptClose.length

/-- The first model section at or behind `pos`, where `bs` begins. -/
def locateFrom (pos : Nat) : Bytes → Option (Nat × Nat)
  | [] => none
  | b :: bs =>
      match sectionAt? (b :: bs) with
      | some n => some (pos, pos + n)
      | none => locateFrom (pos + 1) bs

/-- The start and the end of the model section of a page. -/
def locate? (content : Bytes) : Option (Nat × Nat) := locateFrom 0 content.lower

end PageTemplates.Model
