import PageTemplates.Disk.Store
import PageTemplates.Text.Digit
import PageTemplates.Text.Quoted
import PageTemplates.Text.Similar

/-!
# Arguments of a command

Arguments are read in two passes. The first one tells options from operands;
the second one checks their values:

* an option is written `--name value`, `--name=value`, `-n value` or `-nvalue`,
  and short options without values may share one dash;
* options may stand behind operands, and all behind `--` are operands;
* of an option that is given twice the last value counts;
* values are checked in the order in which they are given, the operand behind
  the options, and then the defaults.

A name that is not known is answered with the names that are close to it.
-/

namespace PageTemplates.CommandLine

/-- Why arguments are refused. -/
inductive UsageError where
  | missingOperand (name : String)
  | noSuchOption (name : String) (close : List String)
  | noSuchCommand (name : String) (close : List String)
  | missingCommand
  | needsValue (option : String)
  | takesNoValue (option : String)
  | badValue (parameter reason : String)
  | unexpected (operands : List String)
  | unopenable (file reason : String)
  | unreachable (e : DiskError)
  | other (message : String)
deriving Repr, DecidableEq

/-- A question whether one of some names was meant. -/
def suggestion (names : List String) : String :=
  match names with
  | [] => ""
  | [name] => " Did you mean " ++ Text.quoted name ++ "?"
  | names =>
      " (Did you mean one of: "
        ++ ", ".intercalate ((names.mergeSort (· ≤ ·)).map Text.quoted) ++ "?)"

def UsageError.message : UsageError → String
  | .missingOperand name => "Missing argument '" ++ name ++ "'."
  | .noSuchOption name close => "No such option " ++ Text.quoted name ++ "." ++ suggestion close
  | .noSuchCommand name close => "No such command " ++ Text.quoted name ++ "." ++ suggestion close
  | .missingCommand => "Missing command."
  | .needsValue option => "Option " ++ Text.quoted option ++ " requires an argument."
  | .takesNoValue option => "Option " ++ Text.quoted option ++ " does not take a value."
  | .badValue parameter reason => "Invalid value for " ++ parameter ++ ": " ++ reason
  | .unexpected operands =>
      "Got unexpected extra argument" ++ (if operands.length = 1 then "" else "s") ++ " ("
        ++ " ".intercalate operands ++ ")"
  | .unopenable file reason => "Could not open file " ++ Text.quoted file ++ ": " ++ reason
  | .unreachable e => e.message
  | .other message => message

/-- What a value has to be. -/
inductive ValueKind where
  | text
  | integer
  | file
  | folder (required : Bool)
deriving Repr, DecidableEq

/-- An option: its name, how it is written, how it is written to turn a flag
off, and what its value has to be; a flag has no value. -/
structure Opt where
  name : String
  written : List String
  off : List String := []
  kind : Option ValueKind := none
  default : Option String := none
deriving Repr, DecidableEq

/-- The option that every command has. -/
def help : Opt := { name := "help", written := ["--help"] }

/-- The names of options that are written with two dashes. -/
def longNames (opts : List Opt) : List String :=
  (opts.flatMap fun o => o.written ++ o.off).filter fun w => w.toList.take 2 == ['-', '-']

/-- The most names that are suggested. -/
def maxSuggestions : Nat := 3

/-- How an option is named in messages. -/
def Opt.hint (o : Opt) : String :=
  " / ".intercalate (o.written.map fun w => "'" ++ w ++ "'")

/-- An argument that was read: an option with its value, or a flag. -/
inductive Reading where
  | value (option text : String)
  | flag (option : String) (on : Bool)
deriving Repr, DecidableEq

/-- The option that an argument belongs to. -/
def Reading.option : Reading → String
  | value o _ | flag o _ => o

/-- Arguments after the first pass. -/
structure Readings where
  options : List Reading := []
  operands : List String := []
deriving Repr

/-! ## Options and operands -/

/-- The option that is written in a way. -/
def findOpt (opts : List Opt) (written : String) : Option Opt :=
  opts.find? fun o => o.written.contains written || o.off.contains written

/-- What one argument says: some readings, and maybe an option whose value is
the next argument, as it is written. -/
abbrev Said := List Reading × Option (Opt × String)

/-- Reads the letters behind one dash. -/
def readShort (opts : List Opt) : List Char → Except UsageError Said
  | [] => .ok ([], none)
  | c :: cs =>
      let written := String.ofList ['-', c]
      match findOpt opts written with
      | none => .error (.noSuchOption written [])
      | some o =>
          if o.kind.isNone then do
            let (more, pending) ← readShort opts cs
            return (.flag o.name true :: more, pending)
          else if cs.isEmpty then .ok ([], some (o, written))
          -- what is left of the argument is the value
          else .ok ([.value o.name (String.ofList cs)], none)

/-- Reads an argument that begins with a dash. -/
def readOption (opts : List Opt) (arg : String) : Except UsageError Said :=
  let cs := arg.toList
  let name := String.ofList (cs.takeWhile (· != '='))
  let value? :=
    match cs.dropWhile (· != '=') with
    | [] => none
    | _ :: value => some (String.ofList value)
  let isLong := cs.take 2 == ['-', '-']
  match (if isLong then findOpt opts name else none) with
  | none =>
      if isLong then
        .error (.noSuchOption name (Text.closest maxSuggestions name (longNames opts)))
      else readShort opts (cs.drop 1)
  | some o =>
      match o.kind, value? with
      | none, none => .ok ([.flag o.name (!o.off.contains name)], none)
      | none, some _ => .error (.takesNoValue name)
      | some _, none => .ok ([], some (o, name))
      | some _, some value => .ok ([.value o.name value], none)

/-- The first pass. Unless `mixed`, the first operand ends the options. -/
def readArguments (opts : List Opt) (mixed : Bool) : List String → Except UsageError Readings
  | [] => .ok {}
  | arg :: args =>
      if arg == "--" then .ok { operands := args }
      else if arg.toList.head? == some '-' && arg != "-" then do
        let (said, pending) ← readOption opts arg
        match pending, args with
        | none, args =>
            let r ← readArguments opts mixed args
            return { r with options := said ++ r.options }
        | some (_, written), [] => .error (.needsValue written)
        | some (o, _), value :: rest =>
            let r ← readArguments opts mixed rest
            return { r with options := said ++ .value o.name value :: r.options }
      else if mixed then do
        let r ← readArguments opts mixed args
        return { r with operands := arg :: r.operands }
      else .ok { operands := arg :: args }

/-! ## Values -/

/-- What a text leads to as a path. The empty text leads nowhere, nor does one
that is too long, and a slash at the end asks for a folder. -/
def itemAt? (disk : Disk) (s : String) : Except DiskError (Option Item) :=
  let last := ((DiskPath.pieces s.toList).getLast?).getD []
  let path := DiskPath.ofText s
  if path.hasNul then .error .nulInPath
  else
    match disk.find path with
    | .ok (some .folder) => .ok (if s.isEmpty then none else some .folder)
    | .ok (some f) => .ok (if last.isEmpty || last == ['.'] then none else some f)
    | _ => .ok none

/-- Why a value is not what it has to be. -/
def ValueKind.fault? (disk : Disk) (kind : ValueKind) (value : String) :
    Except DiskError (Option String) := do
  let name := Text.quoted value
  match kind with
  | .text => return none
  | .integer =>
      return if (Text.readInt? value).isSome then none
        else some (name ++ " is not a valid integer.")
  | .file =>
      match ← itemAt? disk value with
      | none => return some ("File " ++ name ++ " does not exist.")
      | some .folder => return some ("File " ++ name ++ " is a directory.")
      | some (.file _ _) => return none
  | .folder required =>
      match ← itemAt? disk value with
      | none =>
          return if required then some ("Directory " ++ name ++ " does not exist.") else none
      | some .folder => return none
      | some (.file _ _) => return some ("Directory " ++ name ++ " is a file.")

/-- The arguments of a command: its options, and the name and kind of its one
operand. -/
structure Grammar where
  options : List Opt
  operand : String
  operandKind : ValueKind
deriving Repr

/-- Arguments that were checked. -/
structure Values where
  operand : String
  values : List (String × String) := []
  flags : List (String × Bool) := []
deriving Repr

namespace Values

def get? (v : Values) (option : String) : Option String := v.values.lookup option

/-- The value of an option that has one by default. -/
def get (v : Values) (option : String) : String := (v.get? option).getD ""

def isOn (v : Values) (flag : String) (default : Bool) : Bool :=
  (v.flags.lookup flag).getD default

end Values

namespace Grammar

/-- The value of an option: the last one given, or its default. -/
def valueOf (r : Readings) (o : Opt) : Option String :=
  let given := r.options.filterMap fun
    | .value name text => if name == o.name then some text else none
    | .flag _ _ => none
  given.getLast?.or o.default

/-- The options with values in the order in which they are checked: those given
in front, and the operand between them and the others. -/
def inOrder (g : Grammar) (r : Readings) : List Opt × List Opt :=
  let names := (r.options.map (·.option)).eraseDups
  let given := names.filterMap fun n => g.options.find? (·.name == n)
  (given, g.options.filter fun o => !names.contains o.name)

/-- Checks a value of the parameter that messages call `parameter`. -/
def checkValue (disk : Disk) (parameter : String) (kind : ValueKind) (value : String) :
    Except UsageError Unit :=
  match kind.fault? disk value with
  | .ok none => .ok ()
  | .ok (some reason) => .error (.badValue parameter reason)
  | .error e => .error (.unreachable e)

/-- Checks the value of an option. -/
def checkOpt (disk : Disk) (r : Readings) (o : Opt) : Except UsageError Unit :=
  match o.kind, valueOf r o with
  | some kind, some value => checkValue disk o.hint kind value
  | _, _ => .ok ()

def checkOperand (g : Grammar) (disk : Disk) (r : Readings) : Except UsageError String :=
  match r.operands with
  | [] => .error (.missingOperand g.operand)
  | value :: _ => do
      checkValue disk ("'" ++ g.operand ++ "'") g.operandKind value
      return value

/-- Reads and checks the arguments of a command. If help is asked for, nothing
is checked and there are no values. -/
def read (g : Grammar) (disk : Disk) (args : List String) :
    Except UsageError (Option Values) := do
  let r ← readArguments (help :: g.options) true args
  if r.options.any (·.option == help.name) then return none
  -- in the order of the command line; what was left out comes last
  let (given, others) := g.inOrder r
  given.forM (checkOpt disk r)
  let operand ← g.checkOperand disk r
  others.forM (checkOpt disk r)
  if 1 < r.operands.length then throw (.unexpected (r.operands.drop 1))
  return some {
    operand
    values := g.options.filterMap fun o => (valueOf r o).map fun v => (o.name, v)
    flags := (r.options.filterMap fun
      | .flag name on => some (name, on)
      | .value _ _ => none).reverse }

end Grammar

end PageTemplates.CommandLine
