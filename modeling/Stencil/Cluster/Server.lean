import Stencil.Cluster.Address
import Stencil.Cluster.Schema
import Stencil.Json.Reader
import Stencil.Text.Percent

set_option autoImplicit false
set_option relaxedAutoImplicit false

/-!
What is asked of the server of a cluster, and what its replies say.
-/

namespace Stencil.Cluster

open Stencil.Text

/-- A request for the objects at a path. What a path holds behind a question mark or a number sign is not part
of it. -/
structure Request where
  path : String
  parameters : List (String × String)
deriving DecidableEq, Repr

/-- What comes back: a status with a body, or nothing for ever. -/
inductive Reply
  | answered (status : Nat) (body : String)
  | pending
deriving DecidableEq, Repr

abbrev Server := Request → Reply

def Server.unreachable : Server := fun _ => .answered 503 ""

namespace Request

/-- The path that holds the objects of a kind, in a namespace or in all. Those of the whole cluster are in none. -/
def pathOf (kind : Kind) (ns? : Option String) : String :=
  match kind.scope, ns? with
  | .namespaced, some n =>
    if n = "" then "/api/v1/" ++ kind.name else "/api/v1/namespaces/" ++ n ++ "/" ++ kind.name
  | _, _ => "/api/v1/" ++ kind.name

def selectorName : String := "labelSelector"

/-- The text of the address that asks a server to select objects itself. No selector is sent when all are asked
for. -/
def addressOf (q : Query) : List Char :=
  (pathOf q.kind q.ns?).toList ++ '?' ::
    if q.selector = "" then [] else '&' :: selectorName.toList ++ '=' :: Percent.escape q.selector

def parameterOf (s : List Char) : String × String :=
  (Percent.unescape (s.takeWhile (· ≠ '=')), Percent.unescape ((s.dropWhile (· ≠ '=')).drop 1))

def parametersOf (query : List Char) : List (String × String) :=
  ((Find.splitBy ['&'] query).filter fun s => !s.isEmpty).map parameterOf

/-- The request that asks a server to select objects itself. There is none if its text is no address: the namespace may
hold what no path does, and the selector may be too long. -/
def ofQuery? (q : Query) : Option Request :=
  (Address.parse? (addressOf q)).map fun a => ⟨String.ofList a.path, parametersOf (a.query?.getD [])⟩

def all (kind : Kind) : Request := ⟨pathOf kind none, []⟩

end Request

/-- The objects in a reply. A reply with the status of a failure has none. -/
def Reply.objects? (kind : Kind) : Reply → Option (List Object)
  | .answered status body =>
    if 400 ≤ status then none else (Json.Reader.read? body.toList).bind (objectsOf? kind)
  | .pending => none

end Stencil.Cluster
