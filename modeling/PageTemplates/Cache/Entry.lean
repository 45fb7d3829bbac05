import PageTemplates.Compile.Page
import PageTemplates.Config.Settings
import PageTemplates.Disk.Names

/-!
# Cache entries

What is remembered about one template: where it is read from, what is known
about its page since the page was compiled last, and where a snapshot of the
page is kept. The page itself is not part of the entry.
-/

namespace PageTemplates.Cache

/-- Where a template is read from: a file of a template store. -/
structure Source where
  store : String := "file"
  path : DiskPath
deriving Repr, DecidableEq

/-- When a source was last changed. -/
def Source.modified (s : Source) (disk : Disk) : Except DiskError Nat := disk.modified s.path

def Source.describe (s : Source) : String := "FileSource(" ++ Text.quoted s.path.text ++ ")"

/-- What pages in memory go by: the mode, the template store, and the template. -/
structure EntryKey where
  mode : CacheMode
  store : String
  templateId : String
deriving Repr, DecidableEq

/-- The name that an entry is registered under. -/
def EntryKey.name (k : EntryKey) : String :=
  k.mode.letter ++ "_" ++ k.store ++ "_" ++ k.templateId

/-- One template in the cache. `lastLoad` is the time of the source that its
page was compiled from, and is not there before the first time. A template that
is served as it is has neither a snapshot nor a body script. -/
structure Entry where
  templateId : String
  mode : CacheMode
  source : Source
  baseName : String := ""
  snapshot : Option DiskPath := none
  body : Option DiskPath := none
  lastLoad : Option Nat := none
  charset : Option String := none
  modelInit : Int := -1
  modelEnd : Int := -1
deriving Repr, DecidableEq

namespace Entry

/-- A new entry; `number` makes the names of its snapshots unique. -/
def make (config : Config) (mode : CacheMode) (templateId : String) (source : Source)
    (number : Nat) : Entry :=
  let baseName := Names.snapshot templateId number
  let file (ending : String) := config.snapshotFolder.joinText (baseName ++ ending)
  let snapshot := if config.persistSnapshots then some (file ".html.tmp") else none
  match mode with
  | .basic => { templateId, mode, source }
  | .compiled => { templateId, mode, source, baseName, snapshot }
  -- snapshots or not, the body script is written: browsers ask for it
  | .browserCacheable =>
      { templateId, mode, source, baseName, snapshot, body := some (file ".js.tmp") }

/-- What the page of an entry goes by. -/
def key (e : Entry) : EntryKey := ⟨e.mode, e.source.store, e.templateId⟩

/-- The files that an entry writes. -/
def files (e : Entry) : List DiskPath := e.snapshot.toList ++ e.body.toList

/-- Where a browser finds the body script of a split page. -/
def bodyUrl (config : Config) (e : Entry) : String :=
  match e.mode with
  | .browserCacheable => config.bodyUrlRoot ++ e.baseName ++ ".js"
  | _ => ""

/-- How the template of an entry is compiled. -/
def settings (config : Config) (e : Entry) : Compile.Settings :=
  { mode := if e.mode = .browserCacheable then .cacheSplit else .inline
    hide := config.hideDirectives
    bodyUrl := e.bodyUrl config }

/-- Compiles the source of an entry: the page as it is served, its charset, and
the body script of a split page. -/
def compile (config : Config) (e : Entry) (data : Bytes) :
    Logged (Except Compile.Failure Compile.Compilation) := do
  match ← Charset.guess data config.defaultCharset with
  | .error e => return .error (.charset e)
  | .ok charset =>
      match e.mode with
      -- served as it is: only the model section is looked up
      | .basic => return .ok { artifact := Artifact.ofContent data, charset }
      | _ => Compile.compile (e.settings config) (some charset) data

/-- Whether the source changed since the page was compiled. -/
def isStale (e : Entry) (disk : Disk) : Except DiskError Bool :=
  match e.lastLoad with
  | none => .ok false
  | some time => do return time < (← e.source.modified disk)

/-- The name of the kind of an entry. -/
def kindName (e : Entry) : String :=
  match e.mode with
  | .basic => "BasicCachedTemplate"
  | .compiled => "TranslatedCachedTemplate"
  | .browserCacheable => "BrowserCacheableTemplate"

def describe (e : Entry) : String :=
  e.kindName ++ "(" ++ Text.quoted e.templateId ++ ", " ++ e.source.describe ++ ")"

end Entry

end PageTemplates.Cache
