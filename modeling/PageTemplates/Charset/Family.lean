import PageTemplates.Charset.Named

/-!
# Output families

How characters outside ASCII are printed depends on the charset of the output
only through its family.
-/

namespace PageTemplates

/-- A class of charsets that markup is printed alike for: `raw` takes in every
charset that is neither Latin-1, nor a Unicode form, nor ASCII. -/
inductive Family where
  | latin1
  | utf
  | ascii
  | raw
deriving Repr, DecidableEq

namespace Family

def ofCodec : Codec → Family
  | .latin1 => .latin1
  | .utf8 | .utf8Marked | .utf16 | .utf16le | .utf16be | .utf32 | .utf32le | .utf32be | .utf7 =>
      .utf
  | .ascii => .ascii
  | _ => .raw

/-- The family of a charset name; an unknown one counts as Unicode. -/
def ofName (name : String) : Except CharsetError Family :=
  match Codec.named name with
  | .ok c => .ok (ofCodec c)
  | .error (.unknown _) => .ok .utf
  | .error e => .error e

def word : Family → String
  | latin1 => "latin1"
  | utf => "utf"
  | ascii => "ascii"
  | raw => "raw"

/-- The family a word stands for; any other word is taken for `ascii`, the
family that writes the fewest characters as they are. -/
def ofWord : String → Family
  | "latin1" => latin1
  | "utf" => utf
  | "raw" => raw
  | _ => ascii

end Family

end PageTemplates
