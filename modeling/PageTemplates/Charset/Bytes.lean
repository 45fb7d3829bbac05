/-!
# Bytes

Content as it is stored and sent. Letters are compared by their ASCII codes,
which every supported charset writes the same way.
-/

namespace PageTemplates

/-- Stored content. -/
abbrev Bytes := List UInt8

namespace Bytes

/-- The bytes of an ASCII word. -/
def ofAscii (s : String) : Bytes := s.toList.map fun c => UInt8.ofNat c.toNat

/-- The lower-case form of an ASCII letter; every other byte is unchanged. -/
def lowerByte (b : UInt8) : UInt8 := if 0x41 ≤ b && b ≤ 0x5A then b + 0x20 else b

/-- The content with its ASCII letters in lower case. -/
def lower (bs : Bytes) : Bytes := bs.map lowerByte

/-- Whether the content begins with a lower-case ASCII word, in letters of any
case. -/
def beginsWith (word bs : Bytes) : Bool := lower (bs.take word.length) == word

/-- The blanks between the parts of a tag: space, tab, carriage return and
line feed. -/
def isTagBlank (b : UInt8) : Bool := b == 0x20 || b == 0x09 || b == 0x0D || b == 0x0A

/-- The ASCII blanks: the blanks of tags, vertical tab and form feed. -/
def isBlank (b : UInt8) : Bool := b == 0x20 || (0x09 ≤ b && b ≤ 0x0D)

@[simp] theorem length_lower (bs : Bytes) : (lower bs).length = bs.length := by
  simp [lower]

end Bytes

end PageTemplates
