import Stencil.Cluster.Query
import Stencil.Json.Value

set_option autoImplicit false
set_option relaxedAutoImplicit false

/-!
Lists of objects of one kind: their order, their selection and their form as data for a template.
-/

namespace Stencil.Cluster

open Stencil.Json Stencil.Label

/-- An object of a cluster, as a document without its kind. -/
abbrev Object := Value

def metadataText? (o : Object) (field : String) : Option String :=
  (o.get? "metadata").bind fun m => (m.get? field).bind Value.str?

def name? (o : Object) : Option String := metadataText? o "name"

def namespaceOf? (o : Object) : Option String := metadataText? o "namespace"

def labelsOf (o : Object) : Labels :=
  match (o.get? "metadata").bind (·.get? "labels") with
  | some (.obj members) => members.filterMap fun m => m.2.str?.map (m.1, ·)
  | _ => []

/-- The name of an object, or the beginning of the one that the cluster will give it. -/
def displayName (o : Object) : String := ((name? o).or (metadataText? o "generateName")).getD ""

structure ObjectList where
  kind : Kind
  items : List Object

def ObjectList.empty (kind : Kind) : ObjectList := ⟨kind, []⟩

def ObjectList.names (l : ObjectList) : List String := l.items.map displayName

/-- The list with the objects of another one of the same kind behind its own. -/
def ObjectList.extend (l m : ObjectList) : Except Failure ObjectList :=
  if l.kind = m.kind then .ok ⟨l.kind, l.items ++ m.items⟩ else .error (.unexpectedKind l.kind m.kind)

/-- An object together with the names of its kind and of the interface that it belongs to. -/
def describeObject (kind : Kind) (o : Object) : Value :=
  .obj (insertMember "kind" (.str kind.objectName)
    (insertMember "apiVersion" (.str "v1") (o.members?.getD [])))

def ObjectList.toValue (l : ObjectList) : Value := .arr (l.items.map (describeObject l.kind))

/-- An absent text comes before every present one; present texts stand in the order of their characters. -/
def textLe : Option String → Option String → Bool
  | none, _ => true
  | some _, none => false
  | some a, some b => decide (a ≤ b)

/-- Objects are in order by name, and by namespace where the names agree. -/
def objectLe (a b : Object) : Bool :=
  if name? a = name? b then textLe (namespaceOf? a) (namespaceOf? b) else textLe (name? a) (name? b)

/-- The list in order. Objects that the order does not tell apart keep theirs. -/
def ObjectList.sort (l : ObjectList) : ObjectList := ⟨l.kind, l.items.mergeSort objectLe⟩

/-- An object lies in the namespace asked for; no namespace and the empty one stand for all. -/
def inNamespace (ns : Option String) (o : Object) : Bool :=
  match ns with
  | none => true
  | some n => n == "" || namespaceOf? o == some n

def ObjectList.select (l : ObjectList) (ns : Option String) (s : Selector) : ObjectList :=
  ⟨l.kind, l.items.filter fun o => inNamespace ns o && s.holds (labelsOf o)⟩

end Stencil.Cluster
