/-!
# A store that forgets what was used least recently

Keys with values, ordered by their last use. When there are more keys than the
store may hold, those used longest ago go first. A key may be held without a
value; looking such a key up finds nothing and does not count as a use.
-/

namespace PageTemplates.Cache

/-- Held keys with their values, the one used longest ago first. -/
structure Recency (κ ν : Type) where
  capacity : Option Nat
  held : List (κ × Option ν) := []
deriving Repr

namespace Recency

variable {κ ν : Type} [BEq κ]

/-- An empty store; the bound on its keys has to be positive. -/
def make? (capacity : Option Int) : Option (Recency κ ν) :=
  match capacity with
  | none => some { capacity := none }
  | some n => if n < 1 then none else some { capacity := some n.toNat }

def contains (s : Recency κ ν) (k : κ) : Bool := s.held.any (·.1 == k)

def size (s : Recency κ ν) : Nat := s.held.length

/-- The value of a key, if it is held with one. -/
def find? (s : Recency κ ν) (k : κ) : Option ν := (s.held.lookup k).join

def erase (s : Recency κ ν) (k : κ) : Recency κ ν :=
  { s with held := s.held.filter (!·.1 == k) }

def clear (s : Recency κ ν) : Recency κ ν := { s with held := [] }

/-- Drops the keys used longest ago until the bound is met. -/
def trim (s : Recency κ ν) : Recency κ ν :=
  match s.capacity with
  | none => s
  | some n => { s with held := s.held.drop (s.held.length - n) }

/-- Holds a key with a value, as the one used last. -/
def insert (s : Recency κ ν) (k : κ) (v : Option ν) : Recency κ ν :=
  -- trimmed from the front, so a positive bound never costs the new key
  ({ s with held := (s.erase k).held ++ [(k, v)] } : Recency κ ν).trim

/-- The value of a key; one that is found is then the one used last. -/
def get (s : Recency κ ν) (k : κ) : Option ν × Recency κ ν :=
  match s.find? k with
  | none => (none, s)
  | some v => (some v, { s with held := (s.erase k).held ++ [(k, some v)] })

end Recency

end PageTemplates.Cache
