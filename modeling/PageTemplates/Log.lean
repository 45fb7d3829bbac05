/-!
# Log records

What is told to the operator beside the result of an operation. An operation
that can only tell something is a value with the records it leaves.
-/

namespace PageTemplates

/-- How much a record matters. -/
inductive Level where
  | info
  | warning
  | error
deriving Repr, DecidableEq

def Level.word : Level → String
  | info => "INFO"
  | warning => "WARNING"
  | error => "ERROR"

/-- One record of the log. -/
structure Record where
  level : Level
  message : String
deriving Repr, DecidableEq

/-- A record as one line begins with its level. -/
def Record.line (r : Record) : String := r.level.word ++ " " ++ r.message

/-- A value with the records left on the way to it, oldest first. -/
structure Logged (α : Type) where
  value : α
  log : List Record
deriving Repr

namespace Logged

instance : Monad Logged where
  pure a := ⟨a, []⟩
  bind x f := let y := f x.value; ⟨y.value, x.log ++ y.log⟩

def warning (message : String) : Logged Unit := ⟨(), [⟨.warning, message⟩]⟩

end Logged

end PageTemplates
