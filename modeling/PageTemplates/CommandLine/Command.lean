import PageTemplates.Build.File
import PageTemplates.Build.Folder
import PageTemplates.CommandLine.Address
import PageTemplates.CommandLine.Arguments
import PageTemplates.CommandLine.Console
import PageTemplates.Serve.Server

/-!
# Commands

* `translate FILE` compiles one template;
* `build FOLDER` compiles every template of a folder;
* `locate FILE` tells where the model section of a file is;
* `serve FOLDER` starts a server for the templates of a folder.

A command prints lines and ends with an exit code, or it is refused. What it
did before that stays done.
-/

namespace PageTemplates.CommandLine

open Serve (Server)

/-- Why a command is refused. -/
inductive Failure where
  | usage (e : UsageError)
  | config (e : ConfigError)
  | disk (e : DiskError)
  | compile (e : Compile.Failure)
  | address (e : AddressError)
  | start (e : Serve.StartFailure)
  | style (e : StyleError)
deriving Repr, DecidableEq

/-- What a command finds around it: the environment, the folder for temporary
files, and which sockets are taken. -/
structure Surroundings where
  environment : String → Option String
  temporary : DiskPath
  isTaken : Int → Bool

/-- A server that was started, and where it is to listen. -/
structure Listening where
  server : Server
  address : String
  socket : Int

/-- What a command works on: files and log, the lines printed so far, and the
servers started. -/
structure Terminal where
  host : Host
  lines : List String := []
  started : List Listening := []

/-- A command under way. -/
abbrev Run (α : Type) := ExceptT Failure (StateM Terminal) α

namespace Run

/-- Prints text as it is. -/
def printText (s : String) : Run Unit :=
  modify fun t => { t with lines := t.lines ++ Console.lines s }

/-- Prints text in which only names of pictures count. -/
def printUntagged (s : String) : Run Unit := printText (Console.untagged s)

/-- Prints a message with style tags. -/
def print (message : String) : Run Unit := do
  match Console.plain message with
  | .ok s => printText s
  | .error e => throw (.style e)

/-- Runs an operation on files and log. -/
def onHost {ε α : Type} (act : Act ε α) : Run (Except ε α) := do
  let t ← get
  let (result, host) := act.run.run t.host
  set { t with host }
  return result

/-- Refuses a command for a failure of one of its steps. -/
def orRefuse {ε α : Type} (lift : ε → Failure) (x : Except ε α) : Run α :=
  match x with
  | .ok a => return a
  | .error e => throw (lift e)

end Run

/-! ## The commands -/

/-- Tells about a template at fault. -/
def report (e : TemplateError) : Run Unit := do
  Run.print ("[bold red]Translation failed:[/] " ++ e.message)
  if let some markup := e.markup.filter (!·.isEmpty) then Run.printUntagged markup

/-- A path as it stands in messages. -/
def shown (p : DiskPath) : String := "[cyan]" ++ p.text ++ "[/]"

/-- The option for more output; what it adds is of no interest to users. -/
def verbose : Opt := { name := "verbose", written := ["-v", "--verbose"] }

/-- The arguments of `translate`. -/
def compileGrammar : Grammar :=
  { options :=
      [{ name := "path", written := ["-p", "--path"], kind := some (.folder false),
         default := some "." },
       { name := "output", written := ["-o", "--output"], kind := some .text },
       verbose,
       { name := "cacheable", written := ["-c", "--cacheable"] },
       { name := "hide", written := ["--hide-directives"] }]
    operand := "FILE"
    operandKind := .text }

def compileOne (v : Values) : Run Nat := do
  let folder := DiskPath.ofText (v.get "path")
  let result ← Run.onHost (Build.compileFile v.operand folder (v.get? "output")
    (v.isOn "cacheable" false) (v.isOn "hide" false))
  match result with
  | .ok f =>
      Run.print ("✅ Generated " ++ shown f.output)
      if let some body := f.body then Run.print ("✅ Generated " ++ shown body)
      return 0
  | .error (.compile (.template e)) =>
      report e
      return 1
  | .error (.compile e) => throw (.compile e)
  | .error (.disk e) =>
      if e.isRefusal then
        throw (.usage (.unopenable (folder.joinText v.operand).text e.message))
      else throw (.disk e)

/-- The arguments of `build`. -/
def buildGrammar : Grammar :=
  { options :=
      [{ name := "out", written := ["--out-dir"], kind := some (.folder false),
         default := some Build.defaultOut.text },
       { name := "cacheable", written := ["-c", "--cacheable"] },
       verbose]
    operand := "TEMPLATES_DIR"
    operandKind := .folder true }

/-- How the failure of a build refuses the command: as wrong usage if it is
about the folders, or about a name, a number or a text that cannot be. -/
def ofBuild : Build.FolderFailure → Failure
  | .folders e => .usage (.other e.message)
  | .compile (.charset e) =>
      if e.isBadValue then .usage (.other e.message) else .compile (.charset e)
  | .compile (.markup (.overlongNumber digits)) => .usage (.other (Text.tooManyDigits digits))
  | .compile e => .compile e
  | .disk .nulInPath => .usage (.other DiskError.nulInPath.message)
  | .disk e => .disk e

/-- Compiles every template of a folder. -/
def buildFolder (v : Values) : Run Nat := do
  let templates := DiskPath.ofText v.operand
  Run.print ("🔨 Building " ++ shown templates ++ "...")
  let result ← Run.onHost (Build.compileProject templates (DiskPath.ofText (v.get "out"))
    (v.isOn "cacheable" false))
  match result with
  | .ok s =>
      s.errors.forM report
      Run.print ("✅ Build complete (templates=" ++ toString s.templates ++ ", plain="
        ++ toString s.plain ++ ", bodies=" ++ toString s.bodies ++ ", out=" ++ s.out.text ++ ")")
      return if s.errors.isEmpty then 0 else 1
  | .error e => throw (ofBuild e)

/-- The arguments of `locate`. -/
def locateGrammar : Grammar := { options := [], operand := "FILE", operandKind := .file }

/-- Tells where the model section of a file starts and ends. -/
def locate (v : Values) : Run Nat := do
  let file := DiskPath.ofText v.operand
  let content ← Run.orRefuse .disk ((← get).host.disk.read file)
  match Model.locate? content with
  | some (start, stop) =>
      Run.print (toString start ++ " " ++ toString stop)
      return 0
  | none =>
      Run.print ("No model section in " ++ shown file)
      return 1

/-- The arguments of `serve`. -/
def serveGrammar : Grammar :=
  { options :=
      [{ name := "host", written := ["--host"], kind := some .text,
         default := some "127.0.0.1" },
       { name := "socket", written := ["--port"], kind := some .integer, default := some "3000" },
       { name := "compile", written := ["--translate"], off := ["--no-translate"] },
       { name := "cacheable", written := ["--cacheable"] },
       { name := "snapshots", written := ["--snapshot-dir"], kind := some (.folder false) },
       verbose]
    operand := "TEMPLATES_DIR"
    operandKind := .folder true }

/-- How many sockets are tried. -/
def attempts : Nat := 100

/-- The first socket from `first` on that is not taken. -/
def freeSocket? (isTaken : Int → Bool) (first : Int) : Option Int :=
  ((List.range attempts).map fun (i : Nat) => first + (i : Int)).find? (!isTaken ·)

/-- Settings from the environment, with those of the command line on top. -/
def serveConfig (around : Surroundings) (v : Values) : Except ConfigError Config := do
  let config ← Config.ofEnvironment around.temporary around.environment
  return { config with
    compiles := v.isOn "compile" true
    browserCacheable := v.isOn "cacheable" false
    snapshotFolder := ((v.get? "snapshots").map DiskPath.ofText).getD config.snapshotFolder }

/-- Starts a server for a folder. -/
def serve (around : Surroundings) (v : Values) : Run Nat := do
  let config ← Run.orRefuse .config (serveConfig around v)
  let address := v.get "host"
  let first := (Text.readInt? (v.get "socket")).getD 0
  Run.orRefuse .address (Address.check address first)
  match freeSocket? around.isTaken first with
  | none =>
      throw (.usage (.other ("Could not find an available port starting from " ++ toString first
        ++ " after " ++ toString attempts ++ " attempts.")))
  | some socket =>
      if socket ≠ first then
        Run.print ("⚠️  Port " ++ toString first ++ " is busy, using [bold cyan]" ++ toString socket
          ++ "[/] instead.")
      let templates := DiskPath.ofText v.operand
      let server ← Run.orRefuse .start (← Run.onHost (Server.start templates config))
      let url := "http://" ++ address ++ ":" ++ toString socket
      Run.print ("🚀 Serving " ++ shown templates ++ " on [link=" ++ url ++ "]" ++ url ++ "[/link]")
      modify fun t => { t with started := t.started ++ [⟨server, address, socket⟩] }
      return 0

/-! ## Choosing a command -/

/-- The options before the name of a command. -/
def globalOptions : List Opt :=
  [{ name := "version", written := ["--version"] }, help]

/-- Reads the arguments of a command and runs it. -/
def runWith (g : Grammar) (command : Values → Run Nat) (args : List String) : Run Nat := do
  match ← Run.orRefuse .usage (g.read (← get).host.disk args) with
  | some values => command values
  | none => return 0

def commandNames : List String := ["translate", "build", "locate", "serve"]

/-- Runs the command of a name. -/
def runNamed (around : Surroundings) (name : String) (args : List String) : Run Nat :=
  match name with
  | "translate" => runWith compileGrammar compileOne args
  | "build" => runWith buildGrammar buildFolder args
  | "locate" => runWith locateGrammar locate args
  | "serve" => runWith serveGrammar (serve around) args
  | _ => do
      -- an option in this place is refused as an option
      if name.toList.head? == some '-' && name != "-" then
        let _ ← Run.orRefuse .usage (readArguments globalOptions false (name :: args))
      throw (.usage (.noSuchCommand name (Text.closest maxSuggestions name commandNames)))

/-- Runs a command line; gives its exit code. -/
def run (around : Surroundings) (args : List String) : Run Nat := do
  let r ← Run.orRefuse .usage (readArguments globalOptions false args)
  match r.options, r.operands with
  | .flag "version" _ :: _, _ =>
      Run.printText ("yeast, version " ++ Release.version)
      return 0
  | _ :: _, _ => return 0
  | [], [] => throw (.usage .missingCommand)
  | [], name :: args => runNamed around name args

end PageTemplates.CommandLine
