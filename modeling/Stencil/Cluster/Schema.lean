import Stencil.Cluster.ObjectList
import Stencil.Time.Moment

set_option autoImplicit false
set_option relaxedAutoImplicit false

/-!
What the objects of a cluster look like, as far as it is looked at: their metadata, and the general form of
what describes them. Members that are not named here may hold anything.
-/

namespace Stencil.Cluster

open Stencil.Json

/-- The form of a document. A record may lack any of its members, and any of them may be null. -/
inductive Shape
  | anything
  | text
  | truth
  | integer (width : Decimal.Width)
  | time
  | base64
  | list (item : Shape)
  | map (item : Shape)
  | record (members : List (String × Shape))

/-- A text in the alphabet of 64 characters, in groups of four. -/
def isBase64 (s : List Char) : Bool :=
  let isDigit (c : Char) : Bool := c.isAlphanum || c == '+' || c == '/'
  let padding := s.dropWhile isDigit
  s.length % 4 = 0 && (padding = [] || padding = ['='] || padding = ['=', '='])

mutual

def Shape.admits : Shape → Value → Bool
  | .anything, _ => true
  | .text, x => x.str?.isSome
  | .truth, x => x.bool?.isSome
  | .integer w, x =>
    match x with
    | .num (.int n) => w.holds n
    | _ => false
  | .time, x => (x.str?.bind fun s => Time.Moment.read? s.toList).isSome
  | .base64, x => x.str?.any fun s => isBase64 s.toList
  | .list item, x => x.items?.any fun xs => xs.all item.admits
  | .map item, x => x.members?.any fun ms => ms.all fun m => item.admits m.2
  | .record members, x => x.members?.any fun given => admitsMembers members given

/-- Members have the forms that are named for them. -/
def admitsMembers : List (String × Shape) → List (String × Value) → Bool
  | [], _ => true
  | (name, shape) :: rest, given =>
    (match given.lookup name with
      | none | some .null => true
      | some x => shape.admits x) && admitsMembers rest given

end

namespace Shape

def int32 : Shape := .integer .signed32

def int64 : Shape := .integer .signed64

def described : Shape := .record []

def owner : Shape := .record [("apiVersion", .text), ("kind", .text), ("name", .text), ("uid", .text),
  ("controller", .truth), ("blockOwnerDeletion", .truth)]

def metadata : Shape := .record [
  ("name", .text), ("generateName", .text), ("namespace", .text), ("uid", .text), ("selfLink", .text),
  ("resourceVersion", .text), ("labels", .map .text), ("annotations", .map .text),
  ("finalizers", .list .text), ("generation", int64), ("deletionGracePeriodSeconds", int64),
  ("creationTimestamp", .time), ("deletionTimestamp", .time), ("ownerReferences", .list owner),
  ("managedFields", .list described)]

def listMetadata : Shape := .record [("continue", .text), ("remainingItemCount", int64),
  ("resourceVersion", .text), ("selfLink", .text)]

def specification : List (String × Shape) := [("spec", described), ("status", described)]

/-- The members of the objects of a kind. -/
def ofKind : Kind → List (String × Shape)
  | .pods | .services | .replicationControllers | .persistentVolumeClaims | .resourceQuotas | .nodes
  | .namespaces | .persistentVolumes => specification
  | .limitRanges => [("spec", described)]
  | .events => [("involvedObject", described), ("message", .text), ("reason", .text), ("type", .text),
      ("count", int32), ("firstTimestamp", .time), ("lastTimestamp", .time), ("source", described),
      ("action", .text), ("reportingComponent", .text), ("reportingInstance", .text)]
  | .endpoints => [("subsets", .list described)]
  | .configMaps => [("data", .map .text), ("binaryData", .map .base64), ("immutable", .truth)]
  | .podTemplates => [("template", described)]
  | .secrets => [("data", .map .base64), ("stringData", .map .text), ("immutable", .truth),
      ("type", .text)]
  | .serviceAccounts => [("automountServiceAccountToken", .truth), ("imagePullSecrets", .list described),
      ("secrets", .list described)]
  | .componentStatuses => [("conditions", .list described)]

end Shape

/-- The object that a document is: it has the form of its kind and names no other kind. What names its kind is
left out. -/
def objectOf? (kind : Kind) (x : Value) : Option Object := do
  let members ← x.members?
  let names (key expected : String) : Bool :=
    match members.lookup key with
    | none => true
    | some v => v.str? == some expected
  if !names "apiVersion" "v1" || !names "kind" kind.objectName then none
  else if !admitsMembers (("metadata", Shape.metadata) :: Shape.ofKind kind) members then none
  else some (.obj (members.filter fun m => m.1 ≠ "apiVersion" && m.1 ≠ "kind"))

def objectsOf? (kind : Kind) (x : Value) : Option (List Object) := do
  let members ← x.members?
  let ok := match members.lookup "metadata" with
    | none => true
    | some m => Shape.listMetadata.admits m
  let items ← (← members.lookup "items").items?
  if ok then items.mapM (objectOf? kind) else none

end Stencil.Cluster
