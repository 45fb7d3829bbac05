import PageTemplates.Charset.Bytes

/-!
# UTF-8

Writing text as UTF-8, and reading it back from bytes that may not be well
formed: each maximal part of a broken sequence is read as one replacement
character, and reading goes on at the byte that broke it.
-/

namespace PageTemplates

/-- What stands for bytes that no character is written as. -/
def replacementChar : Char := '\uFFFD'

namespace Utf8

def encode (cs : List Char) : Bytes := cs.flatMap String.utf8EncodeChar

/-- A sequence that has begun: how many bytes are due, between which bounds
the next one lies, and the code point so far. -/
structure Begun where
  due : Nat
  lo : UInt8
  hi : UInt8
  code : Nat
deriving Repr, DecidableEq

/-- What a byte says at the start of a character. -/
inductive Lead where
  | single (c : Char)
  | begun (b : Begun)
  | invalid
deriving Repr, DecidableEq

/-- Reads the first byte of a character. -/
def lead (b : UInt8) : Lead :=
  if b < 0x80 then .single (Char.ofNat b.toNat)
  -- a byte from inside a character, or a form that is too long
  else if b < 0xC2 then .invalid
  else if b < 0xE0 then .begun ⟨1, 0x80, 0xBF, b.toNat - 0xC0⟩
  else if b < 0xF0 then
    -- `E0` leaves out forms that are too long, `ED` the surrogates
    .begun ⟨2, if b == 0xE0 then 0xA0 else 0x80, if b == 0xED then 0x9F else 0xBF,
      b.toNat - 0xE0⟩
  else if b < 0xF5 then
    -- `F0` leaves out forms that are too long, `F4` what lies above `U+10FFFF`
    .begun ⟨3, if b == 0xF0 then 0x90 else 0x80, if b == 0xF4 then 0x8F else 0xBF,
      b.toNat - 0xF0⟩
  else .invalid

/-- What was read after one more byte: the characters that are complete, and
the sequence that is still open. -/
def step (open? : Option Begun) (b : UInt8) : List Char × Option Begun :=
  let fresh : List Char × Option Begun :=
    match lead b with
    | .single c => ([c], none)
    | .begun s => ([], some s)
    | .invalid => ([replacementChar], none)
  match open? with
  | none => fresh
  | some s =>
      if s.lo ≤ b && b ≤ s.hi then
        let code := s.code * 64 + (b.toNat - 0x80)
        if s.due ≤ 1 then ([Char.ofNat code], none)
        else ([], some ⟨s.due - 1, 0x80, 0xBF, code⟩)
      else (replacementChar :: fresh.1, fresh.2)

/-- Reads the bytes that follow an open sequence. -/
def decodeFrom (open? : Option Begun) : Bytes → List Char
  | [] => if open?.isSome then [replacementChar] else []
  | b :: bs =>
      let (cs, open') := step open? b
      cs ++ decodeFrom open' bs

def decode (bs : Bytes) : List Char := decodeFrom none bs

/-- Whether the bytes are well-formed UTF-8. -/
def isValid (bs : Bytes) : Bool := encode (decode bs) == bs

end Utf8

end PageTemplates
