import PageTemplates.CommandLine.Command

/-!
# The program

Reads the files that a command may need, runs the command on them as a value,
and writes back what has changed. A server that a command started answers
requests from standard input, one a line: a method and a decoded path.
-/

namespace PageTemplates.Program

open CommandLine Serve

/-- Files and folders as they were read. -/
abbrev Items := List (List String × Item)

def readItem (e : IO.FS.DirEntry) (modified : Int) : IO Item := do
  return .file (← IO.FS.readBinFile e.path).toList modified.toNat

/-- Reads the entries of the folder that `names` lead to, with all below. -/
partial def readEntries (names : List String) (entries : Array IO.FS.DirEntry) : IO Items := do
  let mut items : Items := []
  for e in entries do
    let place := names ++ [e.fileName]
    let about ← e.path.metadata
    match about.type with
    | .dir => items := items ++ (place, .folder) :: (← readEntries place (← e.path.readDir))
    | .file => items := items ++ [(place, ← readItem e about.modified.sec)]
    | _ => pure ()
  return items

/-- The folders above a place, the outermost first. -/
def above (names : List String) : Items :=
  (List.range names.length).tail.map fun n => (names.take n, .folder)

/-- The disk as seen from the current folder, with all below it. -/
def readDisk : IO Disk := do
  let current ← IO.currentDir
  let here := DiskPath.ofText current.toString
  let inside ← readEntries here.names (← current.readDir)
  let now := inside.foldl (fun t (_, item) =>
    match item with
    | .file _ modified => max t modified
    | .folder => t) 0
  return { items := above here.names ++ (here.names, .folder) :: inside, here, now := now + 1 }

/-- The path of a place as text. -/
def placeText (names : List String) : String := "/" ++ "/".intercalate names

/-- Writes back what has changed. -/
def writeDisk (old new : Disk) : IO Unit := do
  for (names, item) in old.items do
    if (new.item? names).isNone then
      match item with
      | .file _ _ => IO.FS.removeFile (placeText names)
      | .folder => pure ()
  for (names, item) in new.items do
    match item with
    | .folder => IO.FS.createDirAll (placeText names)
    | .file content _ =>
        if old.item? names != some item then
          IO.FS.createDirAll (placeText names.dropLast)
          IO.FS.writeBinFile (placeText names) ⟨content.toArray⟩

def readEnvironment : IO (String → Option String) := do
  let pairs ← Config.environmentNames.filterMapM fun name => do
    return (← IO.getEnv name).map fun value => (name, value)
  return fun name => pairs.lookup name

/-- The wording of a refusal, and the exit code that goes with it. -/
def refusal : CommandLine.Failure → String × UInt32
  | .usage e => (e.message, match e with
      | .unopenable _ _ => 1
      | _ => 2)
  | .config e => (e.message, 1)
  | .disk e => (e.message, 1)
  | .compile (.template e) => (e.text, 1)
  | .compile (.markup e) => (e.message, 1)
  | .compile (.charset e) => (e.message, 1)
  | .address e => (e.message, 1)
  | .start (.disk e) => (e.message, 1)
  | .start (.routes e) => (e.message, 1)
  | .style e => (e.message, 1)

/-- Answers requests until there are no more, and stops the server. -/
partial def answerRequests (stdin stdout : IO.FS.Stream) (s : Server) : IO Unit := do
  let line ← stdin.getLine
  if line.isEmpty then
    let (_, t) := Server.stop.run.run s
    writeDisk s.context.disk t.context.disk
    return
  match (String.ofList (Text.trim line.toList)).splitOn " " with
  | method :: path :: _ =>
      let (result, t) := (Server.respond { method, path }).run.run s
      writeDisk s.context.disk t.context.disk
      match result with
      | .ok r =>
          stdout.putStrLn (toString r.status ++ " " ++ r.contentType.getD "")
          stdout.write ⟨r.body.toArray⟩
      | .error _ => stdout.putStrLn "500"
      stdout.flush
      answerRequests stdin stdout t
  | _ => answerRequests stdin stdout s

end PageTemplates.Program

open PageTemplates PageTemplates.Program PageTemplates.CommandLine in
/-- Runs the command line. -/
def main (args : List String) : IO UInt32 := do
  let disk ← readDisk
  let temporary := DiskPath.ofText ((← IO.getEnv "TMPDIR").getD "/tmp")
  let around : Surroundings :=
    { environment := ← readEnvironment, temporary, isTaken := fun _ => false }
  let (result, t) := (CommandLine.run around args).run.run { host := { disk } }
  writeDisk disk t.host.disk
  for record in t.host.log do
    IO.eprintln record.line
  for line in t.lines do
    IO.println line
  match result with
  | .error e =>
      let (message, code) := refusal e
      IO.eprintln ("Error: " ++ message)
      return code
  | .ok code =>
      for l in t.started do
        answerRequests (← IO.getStdin) (← IO.getStdout) l.server
      return UInt32.ofNat code
