import PageTemplates.Disk.Store
import PageTemplates.Log

/-!
# What operations work on

Operations read and write files, leave log records and make up names. They may
be refused half way, and what they did before stays done.
-/

namespace PageTemplates

/-- Files, the log so far, how many names were made up, and whether the log is
silent. -/
structure Host where
  disk : Disk
  log : List Record := []
  named : Nat := 0
  quiet : Bool := false

/-- An operation on a host that may be refused. -/
abbrev Act (ε α : Type) := ExceptT ε (StateM Host) α

namespace Host

/-- Adds a record to the log, unless it is silent. -/
def tell (h : Host) (level : Level) (message : String) : Host :=
  if h.quiet then h else { h with log := h.log ++ [⟨level, message⟩] }

def tellAll (h : Host) (records : List Record) : Host :=
  records.foldl (fun h r => h.tell r.level r.message) h

end Host

namespace Act

def tell {ε : Type} (level : Level) (message : String) : Act ε Unit :=
  modify (·.tell level message)

/-- Leaves the records of a value and goes on with it. -/
def logged {ε α : Type} (x : Logged α) : Act ε α := do
  modify (·.tellAll x.log)
  return x.value

/-- Changes the files. -/
def onDisk {ε : Type} (lift : DiskError → ε) (f : Disk → Except DiskError Disk) :
    Act ε Unit := do
  match f (← get).disk with
  | .ok disk => modify fun h => { h with disk }
  | .error e => throw (lift e)

/-- Asks for something about the files. -/
def ask {ε α : Type} (lift : DiskError → ε) (f : Disk → Except DiskError α) : Act ε α := do
  match f (← get).disk with
  | .ok a => return a
  | .error e => throw (lift e)

def read {ε : Type} (lift : DiskError → ε) (p : DiskPath) : Act ε Bytes := ask lift (·.read p)

end Act

end PageTemplates
