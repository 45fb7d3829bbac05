import PageTemplates.Cache.Filling
import PageTemplates.Serve.Response
import PageTemplates.Serve.Route

/-!
# The server

Answers requests for the templates of a folder, and for the body scripts in
the snapshot folder. Nothing outside of these two folders is ever sent.
-/

namespace PageTemplates.Serve

open Cache (Context Filling Source)

/-- What a provider gives for a template: nothing, model data, or something
else, of which only the name of its type matters. -/
inductive Given where
  | nothing
  | model (data : Filling)
  | other (type : String)
deriving Repr, DecidableEq

/-- Where model data comes from. A provider is told the name of the template,
and may change files. -/
abbrev Provider := String → Disk → Except DiskError (Given × Disk)

/-- Why a request is not answered at all. -/
inductive Failure where
  | cache (e : Cache.Failure)
  | disk (e : DiskError)
  | notModel (type : String)
  | overlongNumber (digits : Nat)
  | header (e : HeaderError)
deriving Repr, DecidableEq

/-- Why a server cannot start. -/
inductive StartFailure where
  | disk (e : DiskError)
  | routes (e : PatternError)
deriving Repr, DecidableEq

/-- A server: the folder of the templates, from the root and without `..`, the
routes, the cache, and the provider with the templates it was asked for, oldest
first. -/
structure Server where
  templates : DiskPath
  routes : Routes
  context : Context
  provider : Option Provider := none
  asked : List String := []

/-- An operation of a server. -/
abbrev Answering (α : Type) := ExceptT Failure (StateM Server) α

namespace Server

/-- A server for a folder. -/
def start (templates : DiskPath) (config : Config) : Act StartFailure Server := do
  let templates ← Act.ask .disk (·.resolve templates)
  match Context.start config (← get) with
  | .error e => throw (.disk e)
  | .ok context =>
      set context.host
      match Routes.below config.bodyUrlRoot with
      | .ok routes => return { templates, routes, context }
      | .error e => throw (.routes e)

/-- Changes the cache. -/
def mapContext (s : Server) (f : Context → Context) : Server := { s with context := f s.context }

/-- Runs an operation of the cache; what it did before a refusal stays. -/
def onCache {ε α : Type} (act : Cache.Operation ε α) : Answering (Except ε α) := do
  let s ← get
  let (result, context) := act.run.run s.context
  set { s with context }
  return result

/-- Lets a step fail as an answer. -/
def orFail {ε α : Type} (lift : ε → Failure) (x : Except ε α) : Answering α :=
  match x with
  | .ok a => return a
  | .error e => throw (lift e)

/-- Drops everything when the server stops. -/
def stop : Answering Unit := do orFail .disk (← onCache Context.close)

/-! ## Body scripts -/

/-- Sends a body script, which has to stand in the snapshot folder itself. -/
def sendBody (method name : String) : Answering Response := do
  let c := (← get).context
  -- resolved before they are compared, so that `..` in a name is seen through
  let folder ← orFail .disk (c.disk.resolve c.config.snapshotFolder)
  let path ← orFail .disk (c.disk.resolve (folder.joinText (name ++ ".tmp")))
  if path.parent ≠ folder || !".js.tmp".toList.isSuffixOf path.name.toList then
    modify (·.mapContext (·.tell .warning
      ("Refusing body request outside the snapshot folder: " ++ name)))
    return ErrorPage.notFound name
  match ← orFail .disk (c.disk.find path) with
  | some (.file content _) =>
      return { contentType := some "application/x-javascript",
               body := if method == "HEAD" then [] else content, dated := true }
  | _ => return ErrorPage.notFound name

/-! ## Templates -/

/-- Asks the provider for the model data of a template. -/
def modelFor (name : String) : Answering (Option Filling) := do
  let s ← get
  match s.provider with
  | none => return none
  | some provider =>
      -- asked, whatever comes of it
      set { s with asked := s.asked ++ [name] }
      match provider name s.context.disk with
      | .error e => throw (.disk e)
      | .ok (given, disk) =>
          modify (·.mapContext (·.withDisk disk))
          match given with
          | .nothing => return none
          | .model data => return some data
          | .other type => throw (.notModel type)

/-- Sends the page of an entry, with the model data it was designed with if
none is given. -/
def sendPage (name : String) (i : Nat) (model? : Option Filling) : Answering Response := do
  let result ← onCache (match model? with
    | none => Context.designed i
    | some data => Context.render i (some data))
  match result with
  | .ok body => orFail .header (Response.page ((← get).context.contentType i) body)
  | .error (.compile (.template e)) => return ErrorPage.notCompiled e
  | .error (.source _ _) => return ErrorPage.notFound name
  | .error e => throw (.cache e)

/-- Sends a template, which has to stand below the folder of the templates. -/
def sendTemplate (asked : String) : Answering Response := do
  let name := templateName asked
  let s ← get
  let path ← orFail .disk (s.context.disk.resolve (s.templates.joinText (name ++ ".html")))
  if !path.isBelow s.templates then return ErrorPage.notFound name
  if ← orFail .disk (s.context.disk.isFile path) then
    -- registered only once the file is known to be there
    let (i, context) := s.context.register ("/" ++ name) { path } none
    set { s with context }
    let model? ← modelFor name
    sendPage name i model?
  else return ErrorPage.notFound name

/-! ## Requests -/

/-- Answers a request. A path that only lacks or has too many slashes at its
end is sent on. -/
def respond (r : Request) : Answering Response := do
  let routes := (← get).routes
  match ← orFail .overlongNumber (routes.target? r.path) with
  | none =>
      -- the root without its slash would be no path
      if r.path = "/" then return .plain 404 "Not Found"
      match ← orFail .overlongNumber (routes.target? (otherSlash r.path)) with
      | some _ => return { status := 307, contentType := none, body := [] }
      | none => return .plain 404 "Not Found"
  | some target =>
      if r.method ≠ "GET" && r.method ≠ "HEAD" then return .plain 405 "Method Not Allowed"
      match target with
      | .body name => sendBody r.method name
      | .template name => sendTemplate name

end Server

end PageTemplates.Serve
