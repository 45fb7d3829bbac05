import PageTemplates.Charset.Utf8

/-!
# Punycode

A charset of ASCII bytes: first the ASCII characters of the text, then a dash,
then for each other character, from the lowest to the highest, how far it is
from the one before. These distances are numbers of digits up to thirty-six,
and how many digits a number takes adapts to the numbers before.

Where the numbers cannot be read any further, the text is what has been read
so far.
-/

namespace PageTemplates.Punycode

/-- The value of a digit, which is a letter of any case or a decimal digit. -/
def digit? (b : UInt8) : Option Nat :=
  if 0x41 ≤ b && b ≤ 0x5A then some (b.toNat - 0x41)
  else if 0x61 ≤ b && b ≤ 0x7A then some (b.toNat - 0x61)
  else if 0x30 ≤ b && b ≤ 0x39 then some (b.toNat - 0x30 + 26)
  else none

/-- The digit of a value. -/
def digit (n : Nat) : UInt8 :=
  if n < 26 then UInt8.ofNat (0x61 + n) else UInt8.ofNat (0x30 + (n - 26))

/-- The least value with which the digit at a place does not end a number. -/
def threshold (place bias : Nat) : Nat := max 1 (min 26 (36 * (place + 1) - bias))

/-- The bias of a distance, with what is added to it. -/
def biasOf (distance added : Nat) : Nat :=
  if h : distance > 455 then biasOf (distance / 35) (added + 36)
  else added + 36 * distance / (distance + 38)
termination_by distance
decreasing_by omega

/-- The bias behind a number, in a text of `count` characters. -/
def adapt (number : Nat) (isFirst : Bool) (count : Nat) : Nat :=
  let distance := if isFirst then number / 700 else number / 2
  biasOf (distance + distance / count) 0

/-- A reader of distances: the text so far, the last character and its place,
and the number that is being read with the weight of its next digit. -/
structure Reader where
  text : List Char
  code : Nat := 0x80
  place : Nat := 0
  bias : Nat := 72
  isFirst : Bool := true
  number : Nat := 0
  weight : Nat := 1
  digits : Nat := 0
deriving Repr, DecidableEq

/-- Puts the character at the distance that has been read into the text. -/
def Reader.insert (r : Reader) (number : Nat) : Reader :=
  let count := r.text.length + 1
  let place := r.place + number
  let code := r.code + place / count
  -- further distances count from what is put in its place
  let code := if code > 0x10FFFF then '?'.toNat else code
  let c := if code.isValidChar then Char.ofNat code else replacementChar
  let place := place % count
  { text := r.text.take place ++ c :: r.text.drop place
    code := code
    place := place + 1
    bias := adapt number r.isFirst count
    isFirst := false }

/-- Reads distances into a text. -/
def Reader.run (r : Reader) : Bytes → List Char
  | [] => r.text
  | b :: bs =>
      match digit? b with
      | none => r.text
      | some d =>
          let number := r.number + d * r.weight
          let t := threshold r.digits r.bias
          if d < t then (r.insert number).run bs
          else
            { r with number := number, weight := r.weight * (36 - t), digits := r.digits + 1 }.run
              bs

/-- The distances of a content: what stands behind its last dash. -/
def distancesOf (bs : Bytes) : Bytes := (bs.reverse.takeWhile (· != 0x2D)).reverse

/-- The first byte among the distances that is not ASCII, and where it is. -/
def stray? (bs : Bytes) : Option (UInt8 × Nat) :=
  let ds := distancesOf bs
  (ds.find? (0x80 ≤ ·)).map fun b => (b, (ds.takeWhile (· < 0x80)).length)

def decode (bs : Bytes) : List Char :=
  let ds := distancesOf bs
  let start := bs.take (bs.length - ds.length - 1)
  let text := start.map fun b => if b < 0x80 then Char.ofNat b.toNat else replacementChar
  Reader.run { text } ds

/-- The digits of a number, at most `fuel` of them. -/
def digits (bias : Nat) : Nat → Nat → Nat → Bytes
  | 0, _, _ => []
  | fuel + 1, place, n =>
      let t := threshold place bias
      if n < t then [digit n]
      else digit (t + (n - t) % (36 - t)) :: digits bias fuel (place + 1) ((n - t) / (36 - t))

/-- A writer of distances: the ones so far, from the last to the first, how
many characters were passed at the last of them, and the distance from there. -/
structure Writer where
  distances : List Nat := []
  last : Nat := 0
  distance : Nat := 0
deriving Repr, DecidableEq

/-- Writes the distances to all places of a character, of which `passed`
characters of the text are in front. -/
def Writer.walk (c : Char) (passed : Nat) (w : Writer) : List Char → Writer
  | [] => w
  | d :: ds =>
      if d == c then
        walk c (passed + 1)
          { distances := (w.distance + passed - w.last) :: w.distances
            last := passed + 1
            distance := 0 } ds
      else walk c (if d < c then passed + 1 else passed) w ds

/-- The distances in a text, through its characters above ASCII in order;
`code` is the character before. -/
def distances (text : List Char) (w : Writer) (code : Nat) : List Char → List Nat
  | [] => w.distances.reverse
  | c :: cs =>
      let below := (text.filter (· < c)).length
      let w := { w with distance := (below + 1) * (c.toNat - code) }
      distances text (w.walk c 0 text) c.toNat cs

/-- Writes distances into a text of `count` characters so far. -/
def encodeDistances (bias count : Nat) (isFirst : Bool) : List Nat → Bytes
  | [] => []
  | n :: ns =>
      digits bias (n + 1) 0 n
        ++ encodeDistances (adapt n isFirst (count + 1)) (count + 1) false ns

def encode (text : List Char) : Bytes :=
  let (ascii, others) := text.partition (·.toNat < 0x80)
  let ordered := (others.mergeSort (· ≤ ·)).eraseDups
  let written := encodeDistances 72 ascii.length true (distances text {} 0x80 ordered)
  if ascii.isEmpty then written
  else (ascii.map fun c => UInt8.ofNat c.toNat) ++ 0x2D :: written

end PageTemplates.Punycode
