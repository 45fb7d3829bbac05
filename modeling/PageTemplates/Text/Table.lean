import PageTemplates.Text.Blank
import PageTemplates.Text.Digit

/-!
# Tables of characters

A class of characters is kept as a list of closed intervals of code points.

Long tables of names are kept as lines of text. A line holds rows, divided by
semicolons; a row is a code and the names that stand for it. The code is written
in hexadecimal, with a dash between one character and the next.
-/

namespace PageTemplates.Text

/-- Whether a code point lies in one of the intervals. -/
def inRanges (ranges : List (Nat × Nat)) (n : Nat) : Bool :=
  ranges.any fun (lo, hi) => lo ≤ n && n ≤ hi

/-- The names of a table, each with the code in front of its row. -/
def entries (table : List String) : List (String × String) :=
  let rows := table.flatMap fun line => splitAtEach (· == ';') line.toList
  rows.flatMap fun row =>
    match words (String.ofList row) with
    | [] => []
    | code :: names => names.map (·, code)

/-- The characters of a code of hexadecimal numbers. -/
def ofCode (code : String) : List Char :=
  (splitAtEach (· == '-') code.toList).map fun ds => Char.ofNat (digitsValue 16 ds)

end PageTemplates.Text
