import PageTemplates.Markup.Node
import PageTemplates.Text.Digit
import PageTemplates.Text.Quoted

/-!
# Events of markup

What a reader of markup meets, one event after the other, and the few ways in
which markup can be ill-formed. All other markup is read one way or another, if
only as text.
-/

namespace PageTemplates.Markup

/-- One piece of markup. `startEnd` is a start tag that ends itself;
`bracketed` is a declaration `<![...`, without its opening and closing. -/
inductive Event where
  | start (name : String) (attributes : List Attribute)
  | startEnd (name : String) (attributes : List Attribute)
  | endTag (name : String)
  | data (s : String)
  | comment (s : String)
  | declaration (s : String)
  | instruction (s : String)
  | bracketed (s : String)
deriving Repr, DecidableEq

/-- Why markup cannot be read: a bracketed declaration without a name, shown
with what follows it, one with an unknown name, or a reference with more digits
than a number may have. -/
inductive MarkupError where
  | nameExpected (near : String)
  | unknownSection (keyword : String)
  | overlongNumber (digits : Nat)
deriving Repr, DecidableEq

/-- The wording of a markup error. -/
def MarkupError.message : MarkupError → String
  | .nameExpected near => "expected name token at " ++ Text.quoted near
  | .unknownSection keyword =>
      "unknown status keyword " ++ Text.quoted keyword ++ " in marked section"
  | .overlongNumber digits => Text.tooManyDigits digits

end PageTemplates.Markup
