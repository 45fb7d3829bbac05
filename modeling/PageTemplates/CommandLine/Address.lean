import PageTemplates.Text.Blank

/-!
# Addresses of servers

A server listens at a host and a port. Whether they exist shows later; here they
only have to be of a form in which one can ask for them. The labels of a host
name, which dots divide, have fewer than 64 characters, and only the last one
may be empty. A port fits into a machine word.
-/

namespace PageTemplates.CommandLine

/-- Why one cannot ask for an address. -/
inductive AddressError where
  | badLabel
  | longLastLabel
  | encodedLabel
  | hugePort
deriving Repr, DecidableEq

namespace AddressError

/-- The wording for a host name at fault. -/
def hostMessage (reason : String) : String :=
  "encoding with 'idna' codec failed (UnicodeError: " ++ reason ++ ")"

/-- The wording of an address error. -/
def message : AddressError → String
  | badLabel => hostMessage "label empty or too long"
  | longLastLabel => hostMessage "label too long"
  | encodedLabel => hostMessage "Label starts with ACE prefix"
  | hugePort => "Python int too large to convert to C long"

end AddressError

namespace Address

/-- The length that a label stays below. -/
def labelBound : Nat := 64

/-- What an encoded label begins with. -/
def encodedMark : List Char := "xn--".toList

def isAscii (c : Char) : Bool := c.toNat < 0x80

/-- A dot of a host name that is not all ASCII. -/
def isWideDot (c : Char) : Bool := c == '.' || c == '。' || c == '．' || c == '｡'

/-- Checks the labels of a host name in ASCII. -/
def checkLabels : List (List Char) → Except AddressError Unit
  | [] => .ok ()
  | [last] => if labelBound ≤ last.length then .error .longLastLabel else .ok ()
  | label :: labels =>
      if label.isEmpty || labelBound ≤ label.length then .error .badLabel else checkLabels labels

/-- Checks one label of a host name that is not all ASCII. Other characters
make a label longer by its mark at least. -/
def checkWideLabel (label : List Char) : Except AddressError Unit :=
  if label.all isAscii then
    if label.isEmpty || labelBound ≤ label.length then .error .badLabel else .ok ()
  else if encodedMark.isPrefixOf label then .error .encodedLabel
  else if labelBound ≤ label.length + encodedMark.length then .error .badLabel
  else .ok ()

def checkHost (host : String) : Except AddressError Unit :=
  let cs := host.toList
  if cs.all isAscii then checkLabels (Text.splitAtEach (· == '.') cs)
  else
    let labels := Text.splitAtEach isWideDot cs
    (if labels.getLast? == some [] then labels.dropLast else labels).forM checkWideLabel

/-- The first number that a machine word with a sign cannot hold. -/
def wordLimit : Int := 0x8000000000000000

def checkPort (n : Int) : Except AddressError Unit :=
  if -wordLimit ≤ n && n < wordLimit then .ok () else .error .hugePort

/-- Checks an address, the host first. -/
def check (host : String) (port : Int) : Except AddressError Unit := do
  checkHost host
  checkPort port

end Address

end PageTemplates.CommandLine
