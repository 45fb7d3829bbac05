/-!
# Searching a word in a sequence

Search and replacement of a fixed word, for characters and for bytes alike.
Positions count from the front of the sequence searched.
-/

namespace PageTemplates.Text

variable {α : Type} [BEq α]

/-- Where `word` occurs first in `xs`. -/
def find? (word : List α) : List α → Option Nat
  | [] => if word.isEmpty then some 0 else none
  | x :: xs =>
      if word.isPrefixOf (x :: xs) then some 0 else (find? word xs).map (· + 1)

/-- Replaces the occurrences of `word`, front to back and without overlap;
`skip` elements belong to the occurrence replaced last. -/
def replaceFrom (word repl : List α) : Nat → List α → List α
  | _, [] => []
  | skip + 1, _ :: xs => replaceFrom word repl skip xs
  | 0, x :: xs =>
      if word.isPrefixOf (x :: xs) then repl ++ replaceFrom word repl (word.length - 1) xs
      else x :: replaceFrom word repl 0 xs

/-- Replaces every occurrence of a non-empty `word`. -/
def replaceAll (word repl xs : List α) : List α := replaceFrom word repl 0 xs

def replace (s word repl : String) : String :=
  String.ofList (replaceAll word.toList repl.toList s.toList)

/-- The parts before and behind the last occurrence of `c`. -/
def splitLast? (c : α) (xs : List α) : Option (List α × List α) :=
  let tail := xs.reverse.takeWhile (· != c)
  if tail.length = xs.length then none
  else some (xs.take (xs.length - tail.length - 1), tail.reverse)

end PageTemplates.Text
