import PageTemplates.Cache.Entry
import PageTemplates.Cache.Recency
import PageTemplates.Disk.Host

/-!
# The template cache

All entries of one installation, with the pages that are in memory. A page is
compiled when it is asked for the first time and when its source has changed
since. A page that memory has forgotten is read back from its snapshot, or
compiled again if that cannot be done.

An operation may be refused half way, and what it did before stays done.
-/

namespace PageTemplates.Cache

/-- Why a page cannot be had: its template cannot be compiled or read, its
charset is of no use, or one of its files has a path that leads nowhere. -/
inductive Failure where
  | compile (e : Compile.Failure)
  | source (path : DiskPath) (e : DiskError)
  | charset (e : CharsetError)
  | disk (e : DiskError)
deriving Repr, DecidableEq

/-- The wording for a template that cannot be read. -/
def unreadableSource (path : DiskPath) (e : DiskError) : String :=
  "Can't read template " ++ path.text ++ ": " ++ e.message

/-- Why a snapshot is of no use. -/
inductive SnapshotError where
  | missing (templateId : String)
  | unreadable (path : DiskPath) (e : DiskError)
  | truncated (path : DiskPath)
  | disk (e : DiskError)
deriving Repr, DecidableEq

/-- The wording for a snapshot that is of no use. -/
def SnapshotError.message : SnapshotError → String
  | .missing templateId => "No snapshot for " ++ templateId
  | .unreadable path e => "Can't read snapshot " ++ path.text ++ ": " ++ e.message
  | .truncated path => "Truncated snapshot " ++ path.text
  | .disk e => e.message

/-- The cache: entries go by number, and those that are registered also by
name, in the order of their registration. An entry that was dropped may still
be in use. -/
structure Context where
  host : Host
  config : Config
  memory : Recency EntryKey Artifact
  entries : Array Entry := #[]
  registered : List (String × Nat) := []

/-- An operation on a cache that may be refused. -/
abbrev Operation (ε α : Type) := ExceptT ε (StateM Context) α

/-! ## The snapshot folder -/

/-- What the snapshot folder says about itself. -/
def readme : String :=
  "Compiled template snapshots. Do not remove while Yeast is running.\n"

def makeSnapshotFolder (folder : DiskPath) (disk : Disk) : Except DiskError Disk := do
  let disk ← disk.makeFolder folder
  let file := folder.joinText "README.txt"
  if ← disk.isThere file then return disk else disk.write file (Utf8.encode readme.toList)

/-- Writes a file into the snapshot folder, which is made if need be. What was
made before a refusal stays. -/
def writeSnapshot (path : DiskPath) (content : Bytes) (disk : Disk) : Option DiskError × Disk :=
  match makeSnapshotFolder path.parent disk with
  | .error e => (some e, disk)
  | .ok disk =>
      match disk.write path content with
      | .error e => (some e, disk)
      | .ok disk => (none, disk)

/-- An empty cache. The snapshot folder is made unless templates are served as
they are. -/
def Context.start (config : Config) (host : Host) : Except DiskError Context := do
  let host := if config.logging then host else { host with quiet := true }
  let disk ←
    if config.cacheMode = .basic then pure host.disk
    else makeSnapshotFolder config.snapshotFolder host.disk
  let host := { host with disk }.tell .info
    ("Yeast v" ++ Release.version ++ " started\n" ++ config.describe)
  return { host, config, memory := { capacity := config.memorySize.map Int.toNat } }

namespace Context

def entryAt? (c : Context) (i : Nat) : Option Entry := c.entries[i]?

def updateEntry (c : Context) (i : Nat) (f : Entry → Entry) : Context :=
  { c with entries := c.entries.modify i f }

def tell (c : Context) (level : Level) (message : String) : Context :=
  { c with host := c.host.tell level message }

def tellAll (c : Context) (records : List Record) : Context :=
  { c with host := c.host.tellAll records }

def withDisk (c : Context) (disk : Disk) : Context := { c with host := { c.host with disk } }

def disk (c : Context) : Disk := c.host.disk

/-! ## Registering -/

/-- The entry of a template, made when it is asked for the first time. -/
def register (c : Context) (templateId : String) (source : Source) (mode? : Option CacheMode) :
    Nat × Context :=
  let mode := mode?.getD c.config.cacheMode
  let name := (EntryKey.mk mode source.store templateId).name
  match c.registered.lookup name with
  | some i => (i, c)
  | none =>
      -- a template that is served as it is writes no file, and needs no number
      let number := if mode = .basic then c.host.named else c.host.named + 1
      let e := Entry.make c.config mode templateId source number
      let i := c.entries.size
      let c : Context :=
        { c with
          host := { c.host with named := number }
          entries := c.entries.push e
          registered := c.registered ++ [(name, i)] }
      (i, c.tell .info ("New " ++ mode.lowerName ++ " cache entry for " ++ templateId))

/-- The registered entries, in the order of their registration. -/
def registeredEntries (c : Context) : List Entry :=
  c.registered.filterMap fun (_, i) => c.entryAt? i

/-! ## Snapshots -/

/-- Writes the body script of a page that was just compiled. -/
def storeBody (e : Entry) (script? : Option Bytes) : Operation Failure Unit := do
  match e.body, script? with
  | some path, some script =>
      let (err?, disk) := writeSnapshot path script (← get).disk
      modify (·.withDisk disk)
      if let some err := err? then
        -- a refusal is only told about; a path that cannot be asked for ends it all
        if !err.isRefusal then throw (.disk err)
        modify (·.tell .warning ("Can't write cached body " ++ path.text ++ ": " ++ err.message))
  | _, _ => return

/-- Writes the snapshot of a page that was just compiled. If that is refused,
the entry is without a snapshot from then on. -/
def storePage (i : Nat) (e : Entry) (content : Bytes) : Operation Failure Unit := do
  if let some path := e.snapshot then
    let (err?, disk) := writeSnapshot path content (← get).disk
    modify (·.withDisk disk)
    if let some err := err? then
      if !err.isRefusal then throw (.disk err)
      modify (·.tell .warning
        ("Can't write snapshot " ++ path.text ++ ", keeping " ++ e.templateId
          ++ " in memory only: " ++ err.message))
      -- an older snapshot must never be taken for this page
      modify fun c => c.withDisk ((c.disk.remove path).toOption.getD c.disk)
      modify (·.updateEntry i fun e => { e with snapshot := none })

/-- The page in the snapshot of an entry. -/
def readSnapshot (c : Context) (e : Entry) : Except SnapshotError Artifact :=
  match e.snapshot with
  | none => .error (.missing e.templateId)
  | some path =>
      match c.disk.read path with
      | .error err => .error (if err.isRefusal then .unreadable path err else .disk err)
      | .ok content =>
          -- the bounds are those of the whole page: the file was cut off
          if content.length < e.modelEnd then .error (.truncated path)
          else .ok { content, modelInit := e.modelInit, modelEnd := e.modelEnd }

/-- Deletes a file of an entry; gives how many files went away. -/
def removeFile (path : DiskPath) : Operation DiskError Nat := do
  match (← get).disk.remove path with
  | .ok disk =>
      modify (·.withDisk disk)
      return 1
  | .error (.refused .notFound _) => return 0
  | .error e =>
      if !e.isRefusal then throw e
      modify (·.tell .warning ("Can't remove snapshot " ++ path.text ++ ": " ++ e.message))
      return 0

/-- Deletes files one after the other. -/
def removeEach : List DiskPath → Operation DiskError Nat
  | [] => return 0
  | p :: ps => do
      let n ← removeFile p
      return n + (← removeEach ps)

/-- Deletes the files of an entry; gives how many files went away. -/
def removeFiles (e : Entry) : Operation DiskError Nat := removeEach e.files

/-! ## Pages -/

/-- Takes in a page that was just compiled from a source of the time
`modified`. -/
def accept (i : Nat) (e : Entry) (p : Compile.Compilation) (modified : Nat) :
    Operation Failure Unit := do
  modify (·.updateEntry i fun e => { e with charset := some p.charset })
  storeBody e (p.bodyScript.map (·.2))
  modify (·.updateEntry i fun e =>
    { e with modelInit := p.artifact.modelInit, modelEnd := p.artifact.modelEnd })
  storePage i e p.artifact.content
  modify fun c => { c with memory := c.memory.insert e.key (some p.artifact) }
  -- last, so that a refusal on the way leaves the page to be compiled again
  modify (·.updateEntry i fun e => { e with lastLoad := some modified })

/-- Lets what depends on files fail as an operation. -/
def liftDisk {α : Type} (x : Except DiskError α) : Operation Failure α :=
  match x with
  | .ok a => return a
  | .error e => throw (.disk e)

/-- Compiles the page of an entry. -/
def load (i : Nat) (e : Entry) : Operation Failure Artifact := do
  let c ← get
  -- before the content: a change in between is noticed the next time
  let modified ← liftDisk (e.source.modified c.disk)
  match c.disk.read e.source.path with
  | .error err => throw (.source e.source.path err)
  | .ok data =>
      let result := e.compile c.config data
      modify (·.tellAll result.log)
      match result.value with
      | .error (.template err) =>
          modify (·.tell .error
            ("Error translating template " ++ e.templateId ++ ": " ++ err.message))
          throw (.compile (.template (err.forTemplate e.templateId)))
      | .error err => throw (.compile err)
      | .ok p =>
          accept i e p modified
          return p.artifact

/-- The page of an entry. -/
def pageOf (i : Nat) (e : Entry) : Operation Failure Artifact := do
  let c ← get
  if e.lastLoad.isNone then load i e
  else if ← liftDisk (e.isStale c.disk) then
    modify (·.tell .info ("New version of " ++ e.templateId ++ ", recompiling"))
    load i e
  else
    match c.memory.get e.key with
    | (some page, memory) =>
        set { c with memory }
        return page
    | (none, _) =>
        -- there is no snapshot of a template that is served as it is
        if e.mode = .basic then load i e
        else
          match c.readSnapshot e with
          | .ok page =>
              modify fun c => { c with memory := c.memory.insert e.key (some page) }
              return page
          | .error (.disk err) => throw (.disk err)
          | .error err =>
              modify (·.tell .info (err.message ++ ", recompiling " ++ e.templateId))
              load i e

/-- The page of an entry by its number; there is none of an unknown number. -/
def page (i : Nat) : Operation Failure Artifact := do
  match (← get).entryAt? i with
  | some e => pageOf i e
  | none => return { content := [] }

/-! ## Forgetting -/

/-- Drops the registered entries of a template, or all, with their pages and
files; gives the names of the entries dropped. -/
def invalidate (templateId? : Option String) : Operation DiskError (List String) := do
  let c ← get
  let isDropped (r : String × Nat) : Bool :=
    templateId?.all fun id => (c.entryAt? r.2).any (·.templateId == id)
  let dropped := c.registered.filter isDropped
  let entries := dropped.filterMap fun r => c.entryAt? r.2
  let memory := entries.foldl (fun m (e : Entry) => m.erase e.key) c.memory
  set { c with registered := c.registered.filter (!isDropped ·), memory }
  -- files go last: a refusal leaves no entry behind that has lost its files
  entries.forM fun e => discard (removeFiles e)
  return dropped.map (·.1)

/-- Drops everything. -/
def close : Operation DiskError Unit := do
  discard (invalidate none)
  modify fun c => { c with memory := c.memory.clear }

end Context

end PageTemplates.Cache
