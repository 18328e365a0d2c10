import Stencil.Cluster.Inventory
import Stencil.Cluster.Server

set_option autoImplicit false
set_option relaxedAutoImplicit false

/-!
The client of a server. It either passes each question on, or keeps a mirror of all objects of a kind, which it
starts at the first question for the kind and answers from as soon as the mirror holds the first list.
-/

namespace Stencil.Cluster

open Stencil.Json Stencil.Label

/-- How questions are answered: by the server, or from mirrors. -/
inductive AccessMode
  | direct
  | cached
deriving DecidableEq, Repr

def AccessMode.ofPolling (polls : Bool) : AccessMode := if polls then .cached else .direct

def sameObject (a b : Object) : Bool := name? a == name? b && namespaceOf? a == namespaceOf? b

inductive Change
  | applied (o : Object)
  | deleted (o : Object)

def Change.act (objects : List Object) : Change → List Object
  | .applied o =>
    if objects.any (sameObject o) then objects.map fun x => if sameObject o x then o else x
    else objects ++ [o]
  | .deleted o => objects.filter fun x => !sameObject o x

def Change.of? (kind : Kind) (x : Value) : Option Change := do
  let type ← (← x.get? "type").str?
  let o ← objectOf? kind (← x.get? "object")
  let version ← metadataText? o "resourceVersion"
  if version = "" then none
  else if type = "ADDED" || type = "MODIFIED" then some (.applied o)
  else if type = "DELETED" then some (.deleted o)
  else none

/-- A mirror: it has been started and waits for its first list, or holds objects. -/
inductive Mirror
  | starting
  | synced (objects : List Object)

/-- A client with its server, its mirrors, the requests it made, and whether it was told to stop. -/
structure Remote where
  mode : AccessMode
  server : Server
  mirrors : List (Kind × Mirror)
  requests : List Request
  stopped : Bool

namespace Remote

def start (mode : AccessMode) (server : Server) : Remote := ⟨mode, server, [], [], false⟩

inductive Progress
  | done (answer : Except Failure ObjectList)
  | waiting

def send (r : Remote) (q : Request) : Reply × Remote :=
  (r.server q, { r with requests := r.requests ++ [q] })

/-- The answer that the server itself has selected, in order. -/
def fromReply (q : Query) (reply : Reply) : Progress :=
  match reply with
  | .pending => .waiting
  | reply =>
    match reply.objects? q.kind with
    | some objects => .done (.ok (ObjectList.mk q.kind objects).sort)
    | none => .done (.error (.request q.kind))

def fromMirror (q : Query) (s : Selector) (objects : List Object) : ObjectList :=
  ((ObjectList.mk q.kind objects).select q.ns? s).sort

def askServer (q : Query) (r : Remote) : Progress × Remote :=
  match Request.ofQuery? q with
  | none => (.done (.error (.request q.kind)), r)
  | some request =>
    let (reply, r) := r.send request
    (fromReply q reply, r)

/-- Starts the mirror of a kind, or looks whether it holds its first list by now. A client that was told to
stop starts none. -/
def startMirror (kind : Kind) (r : Remote) : Remote :=
  let (reply, r) := r.send (Request.all kind)
  let mirror := match reply.objects? kind with
    | some objects => Mirror.synced (objects.foldl (fun xs o => (Change.applied o).act xs) [])
    | none => .starting
  { r with mirrors := (kind, mirror) :: r.mirrors }

def askMirror (q : Query) (s : Selector) (r : Remote) : Progress × Remote :=
  match r.mirrors.lookup q.kind with
  | some (.synced objects) => (.done (.ok (fromMirror q s objects)), r)
  | some .starting => if r.stopped then (.done (.error (.syncFailed q.kind)), r) else (.waiting, r)
  | none =>
    if r.stopped then (.done (.error (.syncFailed q.kind)), r)
    else
      let r := startMirror q.kind r
      match r.mirrors.lookup q.kind with
      | some (.synced objects) => (.done (.ok (fromMirror q s objects)), r)
      | _ => (.waiting, r)

/-- Asks a question. Its selector is read before anything else, so that a bad one starts nothing. -/
def ask (q : Query) (r : Remote) : Progress × Remote :=
  match q.parseSelector with
  | .error e => (.done (.error e), r)
  | .ok s =>
    match r.mode with
    | .direct => askServer q r
    | .cached => askMirror q s r

/-- Tells the client to stop. Mirrors that hold objects go on answering. -/
def stop (r : Remote) : Remote := { r with stopped := true }

/-- The answer to a question that nothing more will be heard of before the client is told to stop. -/
def list : Query → Answering Remote ObjectList := fun q r =>
  match ask q r with
  | (.done a, r) => (a, r)
  | (.waiting, r) => (.error (.syncFailed q.kind), r)

def client : Client Remote := ⟨list⟩

/-- A change reaches the mirror of a kind. A client that was told to stop listens no more. -/
def hear (kind : Kind) (c : Change) (r : Remote) : Remote :=
  if r.stopped then r
  else { r with mirrors := r.mirrors.map fun m =>
    match m with
    | (k, .synced objects) => if k = kind then (k, .synced (c.act objects)) else m
    | m => m }

end Remote

end Stencil.Cluster
