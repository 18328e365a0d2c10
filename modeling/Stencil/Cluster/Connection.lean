import Stencil.Cluster.Remote
import Stencil.Decimal.Reading
import Stencil.Settings.Config

set_option autoImplicit false
set_option relaxedAutoImplicit false

/-!
Finding the server of a cluster: from inside it, from a file that names clusters, users and their pairings, or
from an address that is given.
-/

namespace Stencil.Cluster

open Stencil.Yaml Stencil.Filesystem Stencil.Settings

/-- A text without quotes that stands for a number: digits that do not begin with a superfluous zero, digits to
another base behind their mark, or a float. -/
def isNumberText (s : List Char) : Bool :=
  let body := match s with
    | '+' :: r | '-' :: r => r
    | r => r
  let based (base : Nat) (r : List Char) : Bool := !r.isEmpty && (Decimal.digits? base r).isSome
  match body with
  | '+' :: _ | '-' :: _ => false
  | '0' :: 'x' :: r => based 16 r
  | '0' :: 'o' :: r => based 8 r
  | '0' :: 'b' :: r => based 2 r
  | _ =>
    let isPadded := 1 < body.length && body.head? == some '0' && body.all Char.isDigit
    let isWord := ["inf", "Inf", "INF", "nan", "NaN", "NAN"].contains (String.ofList (body.drop 1))
    (body.head? == some '.' && isWord)
      || !isPadded && (Decimal.float? body).any fun x => x.isFinite && !body.isEmpty

/-- The text of a node that stands for nothing else. -/
def wordOf? : Node → Option String
  | .scalar tag isPlain s =>
    let isTruth := ["true", "True", "TRUE", "false", "False", "FALSE"].contains s
    if isPlain && tag.isNone && (s.isEmpty || Node.isNullText s || isTruth || isNumberText s.toList) then none
    else some s
  | _ => none

/-- The node of a name, unless it stands for the absence of a value. -/
def present? (name : String) (fields : List (String × Node)) : Option (Option Node) := do
  match ← Node.field? name fields with
  | none => some none
  | some x => if ← x.isAbsent? then some none else some (some x)

def optionalWord? (name : String) (fields : List (String × Node)) : Option (Option String) := do
  match ← present? name fields with
  | none => some none
  | some x => (wordOf? x).map some

def entriesOf? : Node → Option (List (String × Node))
  | .mapping es => es.mapM fun e => e.1.text?.map (·, e.2)
  | _ => none

/-- How a cluster is described: the address of its server, and the certificate that vouches for it. -/
structure ClusterEntry where
  server : Option String
  authority : Option String
  authorityData : Option String

structure ContextEntry where
  cluster : String
  user : String

/-- A file that names clusters, users and their pairings. What is named may lack a description. -/
structure ClientFile where
  kind : Option String
  version : Option String
  current : Option String
  clusters : List (String × Option ClusterEntry)
  users : List (String × Option Unit)
  contexts : List (String × Option ContextEntry)

namespace ClientFile

def empty : ClientFile := ⟨none, none, none, [], [], []⟩

/-- The named descriptions in a list. -/
def named? {α : Type} (list key : String) (read : List (String × Node) → Option α)
    (fields : List (String × Node)) : Option (List (String × Option α)) := do
  match ← present? list fields with
  | none => some []
  | some (.sequence items) =>
    items.mapM fun item => do
      let fields ← entriesOf? item
      let name ← (← Node.field? "name" fields).bind wordOf?
      match ← present? key fields with
      | none => some (name, none)
      | some x => do
        let a ← read (← entriesOf? x)
        some (name, some a)
  | some _ => none

def cluster? (fields : List (String × Node)) : Option ClusterEntry := do
  let server ← optionalWord? "server" fields
  let authority ← optionalWord? "certificate-authority" fields
  let data ← optionalWord? "certificate-authority-data" fields
  some ⟨server, authority, data⟩

def context? (fields : List (String × Node)) : Option ContextEntry := do
  let cluster ← (← Node.field? "cluster" fields).bind wordOf?
  let user ← (← Node.field? "user" fields).bind wordOf?
  let _ ← optionalWord? "namespace" fields
  some ⟨cluster, user⟩

def ofNode? (x : Node) : Option ClientFile := do
  let fields ← entriesOf? x
  let kind ← optionalWord? "kind" fields
  let version ← optionalWord? "apiVersion" fields
  let current ← optionalWord? "current-context" fields
  let clusters ← named? "clusters" "cluster" cluster? fields
  let users ← named? "users" "user" (fun _ => some ()) fields
  let contexts ← named? "contexts" "context" context? fields
  some ⟨kind, version, current, clusters, users, contexts⟩

def agree (a b : Option String) : Bool :=
  match a, b with
  | some a, some b => a == b
  | _, _ => true

/-- What two documents say together. The first one counts where both speak of the same. -/
def merge? (f g : ClientFile) : Option ClientFile :=
  if agree f.kind g.kind && agree f.version g.version then
    some ⟨f.kind.or g.kind, f.version.or g.version, f.current.or g.current, f.clusters ++ g.clusters,
      f.users ++ g.users, f.contexts ++ g.contexts⟩
  else none

/-- Reads a file, which may hold several documents. -/
def read? (v : View) (path : String) : Option ClientFile := do
  let text ← (v.readText path).toOption
  let documents ← (← Node.ofStream? text.toList).mapM ofNode?
  match documents with
  | [] => some empty
  | d :: ds => ds.foldlM merge? d

/-- The certificate of a cluster can be had. Its path starts from the directory of the file. -/
def hasAuthority (v : View) (path : String) (c : ClusterEntry) : Bool :=
  match c.authorityData, c.authority with
  | some data, _ => isBase64 data.toList
  | none, some file => (v.readBytes (Path.join ((Path.parent? path).getD "") file)).isOk
  | none, none => true

/-- The address of the server that is paired with the current user. -/
def address? (v : View) (path : String) (f : ClientFile) : Option Address := do
  let context ← (← f.contexts.lookup (← f.current))
  let cluster ← (← f.clusters.lookup context.cluster)
  let _ ← (← f.users.lookup context.user)
  let address ← Address.parse? (← cluster.server).toList
  if hasAuthority v path cluster then some address else none

end ClientFile

namespace Connection

def usualFile (home : String) : String := Path.join home ".kube/config"

/-- The address in a file of clusters, or the one that is given in its place. -/
def fromFile? (v : View) (path : String) (master : Option String) : Option Address := do
  let address ← (← ClientFile.read? v path).address? v path
  match master with
  | none => some address
  | some m => Address.parse? m.toList

/-- The address of the server. A program that does not run in a cluster finds none from inside. With nothing
given, the file in the home directory is looked at. -/
def address? (v : View) (home : Option String) (a : Access) : Option Address :=
  if a.inCluster then none
  else
    match a.kubeConfig, a.master with
    | some path, master => fromFile? v path master
    | none, some m => Address.parse? m.toList
    | none, none => home.bind fun h => fromFile? v (usualFile h) none

def mode (v : View) (home : Option String) (a : Access) (polls : Bool) : Except Failure AccessMode :=
  match address? v home a with
  | some _ => .ok (AccessMode.ofPolling polls)
  | none => .error .connection

end Connection

end Stencil.Cluster
