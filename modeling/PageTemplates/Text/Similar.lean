/-!
# Similar texts

How much two texts have in common, counted in blocks: the longest block that
stands in both, and then the same again on either side of it. Texts are close
if at least three fifths of their characters are in such blocks.
-/

namespace PageTemplates.Text

/-- The length of the common beginning of two texts. -/
def commonLength : List Char → List Char → Nat
  | a :: as, b :: bs => if a == b then commonLength as bs + 1 else 0
  | _, _ => 0

/-- A block that stands in two texts: where it begins in each, and its
length. -/
structure Shared where
  left : Nat := 0
  right : Nat := 0
  length : Nat := 0
deriving Repr, DecidableEq

/-- The longest block that stands in two texts; of several the one that begins
first in `a`, and of these the one that begins first in `b`. -/
def longestShared (a b : List Char) : Shared :=
  let places := (List.range a.length).flatMap fun i => (List.range b.length).map fun j => (i, j)
  places.foldl (fun best (i, j) =>
    let n := commonLength (a.drop i) (b.drop j)
    if best.length < n then ⟨i, j, n⟩ else best) {}

/-- How many characters are in shared blocks; `fuel` bounds how often texts are
cut into pieces. -/
def sharedFrom : Nat → List Char → List Char → Nat
  | 0, _, _ => 0
  | fuel + 1, a, b =>
      let s := longestShared a b
      if s.length = 0 then 0
      else
        sharedFrom fuel (a.take s.left) (b.take s.right) + s.length
          + sharedFrom fuel (a.drop (s.left + s.length)) (b.drop (s.right + s.length))

/-- How many characters of `a` are in blocks that it shares with `b`. -/
def sharedLength (a b : List Char) : Nat := sharedFrom a.length a b

/-- Whether `shared` characters in each of two texts of `total` characters
together make them close. -/
def isClose (shared total : Nat) : Bool := 3 * total ≤ 10 * shared

/-- The shared characters and all characters of two texts, if these are
close. -/
def closeness? (a b : List Char) : Option (Nat × Nat) :=
  let total := a.length + b.length
  if isClose (min a.length b.length) total then
    let shared := sharedLength a b
    if isClose shared total then some (shared, total) else none
  else none

/-- The texts closest to a word, at most `n` of them: the closest first, and of
equally close ones the last in the order of texts. -/
def closest (n : Nat) (word : String) (texts : List String) : List String :=
  let scored := texts.filterMap fun t =>
    (closeness? t.toList word.toList).map fun (shared, total) => (t, shared, total)
  let sorted := scored.mergeSort fun (t, s, k) (u, r, m) =>
    r * k < s * m || (r * k == s * m && decide (u ≤ t))
  (sorted.take n).map (·.1)

end PageTemplates.Text
