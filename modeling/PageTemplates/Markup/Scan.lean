import PageTemplates.Markup.Event
import PageTemplates.Markup.StartTag
import PageTemplates.Text.Find

/-!
# From markup to events

Markup is read in one pass. Every step looks at what begins in front, tells
the events of it and how many characters they take. Inside a script or a style
everything up to its end tag is text, and text that no end tag follows is lost.
What is cut off by the end of the markup is read as text.
-/

namespace PageTemplates.Markup

open Text (isBlank find?)

/-- The first place where `at?` finds something, and its length. -/
def search? (at? : List Char → Option Nat) : List Char → Option (Nat × Nat)
  | [] => none
  | c :: cs =>
      match at? (c :: cs) with
      | some n => some (0, n)
      | none => (search? at? cs).map fun (i, n) => (i + 1, n)

/-- The length of blanks and a `>` in front. -/
def closingBracket? (cs : List Char) : Option Nat :=
  let blanks := (cs.takeWhile isBlank).length
  if (cs.drop blanks).head? == some '>' then some (blanks + 1) else none

/-- The length of the end of a comment: `--`, blanks, `>`. -/
def commentEnd? : List Char → Option Nat
  | '-' :: '-' :: cs => (closingBracket? cs).map (· + 2)
  | _ => none

/-- The length of the end of a conditional section: `]`, blanks, `>`. -/
def conditionEnd? : List Char → Option Nat
  | ']' :: cs => (closingBracket? cs).map (· + 1)
  | _ => none

/-- The length of the end of a marked section: two `]` and a `>`, with blanks
between them. -/
def sectionEnd? : List Char → Option Nat
  | ']' :: cs =>
      let blanks := (cs.takeWhile isBlank).length
      (conditionEnd? (cs.drop blanks)).map (· + blanks + 1)
  | _ => none

/-- Whether a character is a letter of a raw text element's name, case aside. -/
def isLetterOf (letter c : Char) : Bool :=
  -- the long s and the i with and without dot also fold to these letters
  c.toLower == letter || (letter == 's' && c == 'ſ')
    || (letter == 'i' && (c == 'ı' || c == 'İ'))

/-- Whether a word is in front, case aside. -/
def beginsWithWord : List Char → List Char → Bool
  | [], _ => true
  | _ :: _, [] => false
  | w :: ws, c :: cs => isLetterOf w c && beginsWithWord ws cs

/-- The length of an end tag of the raw text element `name` in front. -/
def rawTextEnd? (name : String) : List Char → Option Nat
  | '<' :: '/' :: cs =>
      let blanks := (cs.takeWhile isBlank).length
      if beginsWithWord name.toList (cs.drop blanks) then
        (closingBracket? (cs.drop (blanks + name.length))).map
          (· + 2 + blanks + name.length)
      else none
  | _ => none

/-- A character of a name in an end tag. -/
def isEndNameChar (c : Char) : Bool :=
  c.isAlphanum || c == '-' || c == '.' || c == ':' || c == '_'

/-- The name in an end tag that is well formed; `cs` stands between `</` and
`>`. -/
def endName? (cs : List Char) : Option String :=
  let body := cs.dropWhile isBlank
  let name := body.takeWhile isEndNameChar
  if body.head?.any isLetter && (body.drop name.length).all isBlank
  then some (Text.lower (String.ofList name)) else none

/-- The events of what stands between `</` and the first `>` behind it. -/
def endTagEvents (cs : List Char) : List Event :=
  match endName? cs with
  | some name => [.endTag name]
  | none =>
      if cs.head?.any isLetter then
        [.endTag (Text.lower (String.ofList (cs.takeWhile isTagNameChar)))]
      else if cs.isEmpty then []
      else [.comment (String.ofList cs)]

/-- What a step of reading comes to: events and the length they take, markup
that is cut off, or markup that is ill-formed. -/
inductive Step where
  | events (es : List Event) (length : Nat)
  | cutOff
  | error (e : MarkupError)
deriving Repr

/-- One event that takes what stands before the first `>` of `cs`, and `extra`
characters before `cs`. -/
def upToBracket (event : List Char → List Event) (extra : Nat) (cs : List Char) : Step :=
  match find? ['>'] cs with
  | some n => .events (event (cs.take n)) (extra + n + 1)
  | none => .cutOff

/-- Reads a bracketed declaration; `cs` stands behind `<![`. -/
def bracketedStep (cs : List Char) : Step :=
  let name := cs.takeWhile fun c => c.isAlphanum || c == '-' || c == '_' || c == '.'
  let blanks := ((cs.drop name.length).takeWhile isBlank).length
  let word := Text.lower (String.ofList name)
  let closedBy (at? : List Char → Option Nat) : Step :=
    match search? at? cs with
    | some (i, n) => .events [.bracketed (String.ofList (cs.take i))] (3 + i + n)
    | none => .cutOff
  if cs.isEmpty then .cutOff
  else if !cs.head?.any isLetter then
    .error (.nameExpected (String.ofList ('<' :: '!' :: '[' :: cs.take 17)))
  -- the name may go on behind the end of the markup
  else if name.length + blanks == cs.length then .cutOff
  else if ["temp", "cdata", "ignore", "include", "rcdata"].contains word then closedBy sectionEnd?
  else if ["if", "else", "endif"].contains word then closedBy conditionEnd?
  else .error (.unknownSection (String.ofList (cs.take (name.length + blanks))))

/-- Reads a declaration; `cs` stands behind `<!`. -/
def declarationStep (cs : List Char) : Step :=
  match cs with
  | '-' :: '-' :: rest =>
      match search? commentEnd? rest with
      | some (i, n) => .events [.comment (String.ofList (rest.take i))] (4 + i + n)
      | none => .cutOff
  | '[' :: rest => bracketedStep rest
  | _ =>
      if Text.lower (String.ofList (cs.take 7)) == "doctype" then
        upToBracket (fun s => [.declaration (String.ofList (cs.take 7 ++ s))]) 9 (cs.drop 7)
      else upToBracket (fun s => [.comment (String.ofList s)]) 2 cs

/-- Reads a start tag; `cs` stands behind `<`. -/
def startTagStep (cs : List Char) : Step :=
  match startTag cs with
  | .tag name attributes true n => .events [.startEnd name attributes] n
  | .tag name attributes false n => .events [.start name attributes] n
  | .cutOff => .cutOff
  -- what was read of a broken tag is text
  | .broken n => .events [.data (String.ofList ('<' :: cs.take (n - 1)))] n
  | .overlong digits => .error (.overlongNumber digits)

/-- Reads what begins with a `<`; `cs` stands behind it. -/
def tagStep (cs : List Char) : Step :=
  match cs with
  | '/' :: rest => upToBracket endTagEvents 2 rest
  | '?' :: rest => upToBracket (fun s => [.instruction (String.ofList s)]) 2 rest
  | '!' :: rest => declarationStep rest
  | c :: _ => if isLetter c then startTagStep cs else .events [.data "<"] 1
  | [] => .events [.data "<"] 1

/-- How much of cut-off markup is text: up to the next `>` or before the next
`<`, and the bracket alone if there is neither; `cs` stands behind it. -/
def cutOffLength (cs : List Char) : Nat :=
  match find? ['>'] cs with
  | some n => n + 2
  | none =>
      match find? ['<'] cs with
      | some n => n + 1
      | none => 1

/-- The event of text that is not inside a raw text element. -/
def textEvent (cs : List Char) : Except MarkupError Event :=
  match Reference.overlong? cs with
  | some digits => .error (.overlongNumber digits)
  | none => .ok (.data (String.ofList (Reference.decode cs)))

/-- The raw text element that is open behind an event. -/
def rawTextAfter : List Event → Option String
  | [.start name _] => if isRawText name then some name else none
  | _ => none

/-- Reads inside the raw text element `name`: the events up to and with its
end tag, their length, and whether the element is still open. -/
def rawTextStep (name : String) (cs : List Char) : Option (List Event × Nat × Bool) :=
  match search? (rawTextEnd? name) cs with
  | none => none
  | some (i, n) =>
      let text := if i == 0 then [] else [Event.data (String.ofList (cs.take i))]
      let close := (cs.drop i).take n
      match endName? ((close.drop 2).dropLast) with
      | some _ => some (text ++ [.endTag name], i + n, false)
      -- spelled with folded letters, the name closes nothing
      | none => some (text ++ [.data (String.ofList close)], i + n, true)

/-- Reads markup; `raw?` is the raw text element that is open, and `skip`
characters belong to what was read last. -/
def eventsFrom : Option String → Nat → List Char → Except MarkupError (List Event)
  | _, _, [] => .ok []
  | raw?, skip + 1, _ :: cs => eventsFrom raw? skip cs
  | some name, 0, c :: cs =>
      match rawTextStep name (c :: cs) with
      | none => .ok []
      | some (es, n, stays) =>
          (eventsFrom (if stays then some name else none) (n - 1) cs).map (es ++ ·)
  | none, 0, c :: cs =>
      if c == '<' then
        match tagStep cs with
        | .error e => .error e
        | .events es n => (eventsFrom (rawTextAfter es) (n - 1) cs).map (es ++ ·)
        | .cutOff =>
            -- text, up to where markup may begin again
            let n := cutOffLength cs
            (textEvent (c :: cs.take (n - 1))).bind fun e =>
              (eventsFrom none (n - 1) cs).map (e :: ·)
      else
        let text := (c :: cs).takeWhile (· != '<')
        (textEvent text).bind fun e => (eventsFrom none (text.length - 1) cs).map (e :: ·)

def events (s : String) : Except MarkupError (List Event) := eventsFrom none 0 s.toList

end PageTemplates.Markup
