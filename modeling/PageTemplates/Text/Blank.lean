/-!
# Blank characters

The characters that separate words in running text: the ASCII controls tab to
carriage return and the four separators `U+001C`-`U+001F`, the space, and the
spaces and line breaks of the Unicode character database. Trimming removes
them from the ends of a text and nothing else.
-/

namespace PageTemplates.Text

/-- A blank of running text. -/
def isBlank (c : Char) : Bool :=
  let n := c.toNat
  (0x09 ≤ n && n ≤ 0x0D) || (0x1C ≤ n && n ≤ 0x20) || n == 0x85 || n == 0xA0
    || n == 0x1680 || (0x2000 ≤ n && n ≤ 0x200A) || n == 0x2028 || n == 0x2029
    || n == 0x202F || n == 0x205F || n == 0x3000

def trimStart (cs : List Char) : List Char := cs.dropWhile isBlank

def trimEnd (cs : List Char) : List Char := (cs.reverse.dropWhile isBlank).reverse

def trim (cs : List Char) : List Char := trimEnd (trimStart cs)

def strip (s : String) : String := String.ofList (trim s.toList)

/-- A text of blanks only; the empty text is one. -/
def allBlank (s : String) : Bool := s.toList.all isBlank

/-- The pieces of a text between characters of a kind. -/
def splitAtEach (isCut : Char → Bool) : List Char → List (List Char)
  | [] => [[]]
  | c :: cs =>
      if isCut c then [] :: splitAtEach isCut cs
      else
        match splitAtEach isCut cs with
        | [] => [[c]]
        | p :: ps => (c :: p) :: ps

/-- The words of a text, which blanks divide. -/
def words (s : String) : List String :=
  ((splitAtEach isBlank s.toList).filter (!·.isEmpty)).map String.ofList

@[simp] theorem toList_strip (s : String) : (strip s).toList = trim s.toList := by
  simp [strip]

end PageTemplates.Text
