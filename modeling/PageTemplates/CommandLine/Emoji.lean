import PageTemplates.CommandLine.EmojiTable
import PageTemplates.Text.Blank
import PageTemplates.Text.Case
import PageTemplates.Text.Table

/-!
# Pictures in messages

A name between colons stands for a picture. It may end in `-emoji` or `-text`,
which asks for one of the two looks of the picture. A name that is not known
stays as it is, with its colons.
-/

namespace PageTemplates.CommandLine.Emoji

def plainNames : List (String × String) := Text.entries EmojiTable.plain

/-- The names of pictures with skin tones. -/
def tonedNames : List (String × String) := Text.entries EmojiTable.toned

def regionNames : List (String × String) := Text.entries EmojiTable.flags

/-- The flag of a region: its letters as regional indicators. -/
def flag (letters : String) : List Char :=
  letters.toList.map fun c => Char.ofNat (0x1F1E6 + (c.toNat - 'a'.toNat))

def tones : List (String × Char) :=
  [("light", Char.ofNat 0x1F3FB), ("medium-light", Char.ofNat 0x1F3FC),
   ("medium", Char.ofNat 0x1F3FD), ("medium-dark", Char.ofNat 0x1F3FE),
   ("dark", Char.ofNat 0x1F3FF)]

/-- The mark for the look of a picture. -/
def pictureMark : Char := '\uFE0F'

/-- The mark for the look of text. -/
def textMark : Char := '\uFE0E'

/-- A picture in a skin tone, which stands behind its first character and in
place of a mark there. -/
def withTone (tone : Char) : List Char → List Char
  | [] => []
  | c :: cs => c :: tone :: (if cs.head? == some pictureMark then cs.drop 1 else cs)

/-- A name without an ending. -/
def withoutEnding? (ending name : String) : Option String :=
  if ending.toList.isSuffixOf name.toList then
    some (String.ofList (name.toList.take (name.length - ending.length)))
  else none

/-- The picture of a name that ends in a skin tone. -/
def toned? (name : String) : Option (List Char) :=
  tones.findSome? fun (word, tone) => do
    let code ← tonedNames.lookup (← withoutEnding? ("_" ++ word ++ "_skin_tone") name)
    return withTone tone (Text.ofCode code)

/-- The flag of a name: the name of a region, or the same behind `flag_for_`. -/
def flag? (name : String) : Option (List Char) :=
  let start := "flag_for_".toList
  let region :=
    if start.isPrefixOf name.toList then String.ofList (name.toList.drop start.length) else name
  (regionNames.lookup region).map flag

/-- The picture of a name. -/
def find? (name : String) : Option (List Char) :=
  (((plainNames ++ tonedNames).lookup name).map Text.ofCode).or ((toned? name).or (flag? name))

/-- A name without the look it asks for, and the mark for that look. -/
def look (name : String) : String × List Char :=
  match withoutEnding? "-emoji" name, withoutEnding? "-text" name with
  | some name, _ => (name, [pictureMark])
  | none, some name => (name, [textMark])
  | none, none => (name, [])

/-- What stands for the name behind a colon, and how many characters belong to
it with the colon that closes it. -/
def at? (cs : List Char) : Option (List Char × Nat) :=
  let word := cs.takeWhile fun c => c != ':' && !Text.isBlank c
  if (cs.drop word.length).head? == some ':' then
    let (name, mark) := look (String.ofList word)
    match find? (Text.lower name) with
    | some picture => some (picture ++ mark, word.length + 1)
    | none => some (':' :: word ++ [':'], word.length + 1)
  else none

/-- Puts pictures into text behind a name of which `skip` characters are
left. -/
def replaceFrom : Nat → List Char → List Char
  | _, [] => []
  | skip + 1, _ :: cs => replaceFrom skip cs
  | 0, c :: cs =>
      if c == ':' then
        match at? cs with
        | some (text, n) => text ++ replaceFrom n cs
        | none => c :: replaceFrom 0 cs
      else c :: replaceFrom 0 cs

/-- Puts pictures into text for their names. -/
def replace (cs : List Char) : List Char := replaceFrom 0 cs

end PageTemplates.CommandLine.Emoji
