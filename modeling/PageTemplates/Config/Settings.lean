import PageTemplates.Config.Properties
import PageTemplates.Charset.SingleByte
import PageTemplates.Disk.Store
import PageTemplates.Log
import PageTemplates.Text.Case
import PageTemplates.Text.Digit

/-!
# Configuration

The settings that all templates of one installation share. They are given one
by one, in the environment, or in a properties file.
-/

namespace PageTemplates

/-- The number of this release, as it is told to users. -/
def Release.version : String := "0.3.0"

/-- How templates are kept: as they are, compiled, or compiled with their
bodies split off for the browser to keep. -/
inductive CacheMode where
  | basic
  | compiled
  | browserCacheable
deriving Repr, DecidableEq

namespace CacheMode

/-- The letter for a mode in cache keys. -/
def letter : CacheMode → String
  | basic => "B"
  | compiled => "T"
  | browserCacheable => "C"

def name : CacheMode → String
  | basic => "BASIC"
  | compiled => "TRANSLATED"
  | browserCacheable => "BROWSER_CACHEABLE"

/-- The name of a mode in lower case. -/
def lowerName (m : CacheMode) : String := Text.lower m.name

def ofName? : String → Option CacheMode
  | "BASIC" => some basic
  | "TRANSLATED" => some compiled
  | "BROWSER_CACHEABLE" => some browserCacheable
  | _ => none

end CacheMode

/-- Why a configuration is refused. -/
inductive ConfigError where
  | notBoolean (name value : String)
  | notInteger (name value : String)
  | negative (name : String)
  | emptyMemory
  | openUrl
  | unreadable (path : DiskPath) (e : DiskError)
  | properties (path : DiskPath) (e : Config.PropertiesError)
deriving Repr, DecidableEq

def ConfigError.message : ConfigError → String
  | .notBoolean name value => name ++ ": expected a boolean, got " ++ Text.quoted value
  | .notInteger name value => name ++ ": expected an integer, got " ++ Text.quoted value
  | .negative name => name ++ ": must not be negative"
  | .emptyMemory => "memory_cache_size must be positive or None"
  | .openUrl => "body_url_prefix must start and end with '/'"
  | .unreadable path e => "Can't read " ++ path.text ++ ": " ++ e.message
  | .properties path e => "Invalid properties file " ++ path.text ++ ": " ++ e.message

/-- The settings of an installation. No `memorySize` keeps every page in
memory. -/
structure Config where
  compiles : Bool := true
  browserCacheable : Bool := false
  snapshotFolder : DiskPath
  persistSnapshots : Bool := true
  memorySize : Option Int := some 128
  hideDirectives : Bool := true
  bodyUrlRoot : String := "/_yeast/body/"
  defaultCharset : Option String := none
  defaultStore : String := "file"
  logging : Bool := true
deriving Repr, DecidableEq

namespace Config

/-- The folder for snapshots below the folder for temporary files. -/
def defaultSnapshots (temporary : DiskPath) : DiskPath := temporary.joinText "yeast-snapshots"

/-- Checks the settings that depend on more than their type. -/
def check (c : Config) : Except ConfigError Config :=
  let url := c.bodyUrlRoot.toList
  if c.memorySize.any (· < 1) then .error .emptyMemory
  else if url.head? != some '/' || url.getLast? != some '/' then .error .openUrl
  else .ok c

/-- The way templates are kept unless a template asks for another one. -/
def cacheMode (c : Config) : CacheMode :=
  if c.browserCacheable then .browserCacheable
  else if c.compiles then .compiled
  else .basic

def yesNo (b : Bool) : String := if b then "yes" else "no"

/-- The settings in words. -/
def describe (c : Config) : String :=
  "\n".intercalate
    ["Translate templates: " ++ yesNo c.compiles,
     "Browser-side cacheable: " ++ yesNo c.browserCacheable,
     "Cache mode: " ++ c.cacheMode.name,
     "Memory cache size: " ++
       (match c.memorySize with
        -- `check` lets no zero in, but not every configuration was checked
        | some n => if n == 0 then "unbounded" else toString n
        | none => "unbounded"),
     "Snapshots: " ++ (if c.persistSnapshots then c.snapshotFolder.text else "disabled"),
     "Default template store: " ++ c.defaultStore]

/-! ## Words -/

/-- Whether a text says yes. -/
def isTrue (s : String) : Bool :=
  ["yes", "true", "on", "1"].contains (Text.lower (Text.strip s))

/-- Whether a text says no. -/
def isFalse (s : String) : Bool :=
  ["no", "false", "off", "0"].contains (Text.lower (Text.strip s))

/-- A setting that says yes or no; a blank one is the default. -/
def readBool (name : String) (value? : Option String) (default : Bool) :
    Except ConfigError Bool :=
  match value? with
  | none => .ok default
  | some value =>
      if Text.allBlank value then .ok default
      else if isTrue value then .ok true
      else if isFalse value then .ok false
      else .error (.notBoolean name value)

/-- The default bound on the pages in memory. -/
def defaultMemorySize : Option Int := some 128

/-- A setting that bounds the pages in memory; a blank one is the default, and
zero stands for no bound. -/
def readSize (name : String) (value? : Option String) : Except ConfigError (Option Int) :=
  match value? with
  | none => .ok defaultMemorySize
  | some value =>
      if Text.allBlank value then .ok defaultMemorySize
      else
        match Text.readInt? value with
        | none => .error (.notInteger name value)
        | some n =>
            if n < 0 then .error (.negative name)
            else .ok (if n == 0 then none else some n)

/-- A text that is given and not empty. -/
def nonEmpty? (value? : Option String) : Option String := value?.filter (!·.isEmpty)

/-! ## Sources of settings -/

/-- The environment variables that settings are read from. -/
def environmentNames : List String :=
  ["YEAST_TRANSLATE", "YEAST_CACHEABLE", "YEAST_PERSIST_SNAPSHOTS", "YEAST_HIDE_DIRECTIVES",
   "YEAST_LOGGING", "YEAST_CACHE_SIZE", "YEAST_ENCODING", "YEAST_SNAPSHOT_DIR",
   "YEAST_BODY_URL_PREFIX", "YEAST_DEFAULT_STORE"]

/-- The settings in environment variables. -/
def ofEnvironment (temporary : DiskPath) (env : String → Option String) :
    Except ConfigError Config := do
  let bool (name : String) (default : Bool) := readBool name (env name) default
  let compiles ← bool "YEAST_TRANSLATE" true
  let browserCacheable ← bool "YEAST_CACHEABLE" false
  let persistSnapshots ← bool "YEAST_PERSIST_SNAPSHOTS" true
  let hideDirectives ← bool "YEAST_HIDE_DIRECTIVES" true
  let logging ← bool "YEAST_LOGGING" true
  let memorySize ← readSize "YEAST_CACHE_SIZE" (env "YEAST_CACHE_SIZE")
  let snapshots := nonEmpty? (env "YEAST_SNAPSHOT_DIR")
  check
    { compiles, browserCacheable, persistSnapshots, hideDirectives, logging, memorySize
      defaultCharset := nonEmpty? (env "YEAST_ENCODING")
      snapshotFolder := (snapshots.map DiskPath.ofText).getD (defaultSnapshots temporary)
      bodyUrlRoot := (nonEmpty? (env "YEAST_BODY_URL_PREFIX")).getD "/_yeast/body/"
      defaultStore := (nonEmpty? (env "YEAST_DEFAULT_STORE")).getD "file" }

/-- The settings in properties. -/
def ofProperties (temporary : DiskPath) (ps : Properties) : Except ConfigError Config := do
  let bool (name : String) (default : Bool) := readBool name (ps.get? name) default
  let compiles ← bool "manager.translate.templates" true
  let browserCacheable ← bool "manager.browser-side.cacheable" false
  let logging ← bool "ystsrv.logging" true
  let memorySize ← readSize "yeast.cache.size" (ps.get? "yeast.cache.size")
  let store := nonEmpty? (ps.get? "manager.default.templateStore")
  let snapshots := nonEmpty? (ps.get? "yeast.snapshot.dir")
  check
    { compiles, browserCacheable, logging, memorySize
      snapshotFolder :=
        (snapshots.map fun s => DiskPath.ofText (Text.strip s)).getD (defaultSnapshots temporary)
      defaultStore := (store.map Text.strip).getD "file" }

/-- The settings in a properties file, with a warning about a key that is no
longer used. -/
def ofFile (temporary : DiskPath) (disk : Disk) (path : DiskPath) :
    Logged (Except ConfigError Config) :=
  match disk.read path with
  | .error e => pure (.error (.unreadable path e))
  | .ok content =>
      match Properties.ofText (SingleByte.latin1.decode content) with
      | .error e => pure (.error (.properties path e))
      | .ok ps => do
          if (ps.get? "softReferences").isSome then
            Logged.warning
              "softReferences is ignored, use yeast.cache.size to bound the memory cache"
          return ofProperties temporary ps

end Config

end PageTemplates
