/-!
# Markup trees

A template as a tree. Attributes keep the order in which they are written and
may repeat; a lookup sees the first of a name. Names are kept in lower case by
whoever builds a tree.
-/

namespace PageTemplates.Markup

/-- An attribute: its name, and its value unless it was written without one. -/
abbrev Attribute := String × Option String

/-- A start tag. `joined` marks an element that belongs to the group of a
sibling before it, `page` the body that a page is split at; markup as it is
read has neither mark. -/
structure Tag where
  name : String
  attributes : List Attribute := []
  joined : Bool := false
  page : Bool := false
deriving Repr, DecidableEq

/-- A node of a template. `markup` holds processing instructions and
declarations as they are written. -/
inductive Node where
  | document (children : List Node)
  | element (tag : Tag) (children : List Node)
  | text (s : String)
  | comment (s : String)
  | doctype (s : String)
  | markup (s : String)
deriving Repr, BEq, Inhabited

/-- A whole template, as the list of its outermost nodes. -/
abbrev Document := List Node

namespace Tag

/-- The value of an attribute; it is empty for one written without a value. -/
def get? (t : Tag) (name : String) : Option String :=
  (t.attributes.find? (·.1 == name)).map fun a => a.2.getD ""

/-- The value of an attribute, empty when there is none. -/
def value (t : Tag) (name : String) : String := (t.get? name).getD ""

def has (t : Tag) (name : String) : Bool := t.attributes.any (·.1 == name)

/-- Gives the first attribute of a name another value. -/
def setFirst (name : String) (v : Option String) : List Attribute → List Attribute
  | [] => []
  | a :: rest => if a.1 == name then (name, v) :: rest else a :: setFirst name v rest

/-- Sets an attribute, in its place if it is present and at the end if not. -/
def set (t : Tag) (name : String) (v : Option String) : Tag :=
  if t.has name then { t with attributes := setFirst name v t.attributes }
  else { t with attributes := t.attributes ++ [(name, v)] }

/-- Removes every attribute of a name. -/
def unset (t : Tag) (name : String) : Tag :=
  { t with attributes := t.attributes.filter (·.1 != name) }

end Tag

namespace Node

/-- What a node is called: an element by its tag, any other node by its kind. -/
def name : Node → String
  | document _ => "#document"
  | element t _ => t.name
  | text _ => "#text"
  | comment _ => "#comment"
  | doctype _ => "#doctype"
  | markup _ => "#markup"

def children : Node → List Node
  | document cs | element _ cs => cs
  | _ => []

/-- Changes the nodes directly below. -/
def mapChildren (f : List Node → List Node) : Node → Node
  | document cs => document (f cs)
  | element t cs => element t (f cs)
  | n => n

/-- Changes the tag of an element. -/
def mapTag (f : Tag → Tag) : Node → Node
  | element t cs => element (f t) cs
  | n => n

/-- Whether a node is an element. -/
def isElement : Node → Bool
  | element _ _ => true
  | _ => false

/-- A script element with a text inside. -/
def script (attributes : List Attribute) (code : String) : Node :=
  element { name := "script", attributes } [text code]

end Node

/-- Whether a tag is one of a name. -/
def Tag.isNamed (name : String) (t : Tag) : Bool := t.name == name

/-- The elements that hold nothing and have no end tag. -/
def voidElements : List String :=
  ["area", "base", "br", "col", "embed", "hr", "img", "input", "link", "meta", "param",
   "source", "track", "wbr"]

/-- Whether elements of a name hold nothing. -/
def isVoid (name : String) : Bool := voidElements.contains name

/-- Whether text directly inside elements of a name is printed as it is. -/
def isRawText (name : String) : Bool := name == "script" || name == "style"

end PageTemplates.Markup
