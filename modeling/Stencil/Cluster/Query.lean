import Stencil.Cluster.Kind
import Stencil.Label.Selector

set_option autoImplicit false
set_option relaxedAutoImplicit false

/-!
Questions to a cluster, and the ways in which they fail.
-/

namespace Stencil.Cluster

open Stencil.Text Stencil.Label

/-- A question for the objects of a kind. The namespace is absent for kinds of the whole cluster, and empty
for all namespaces; an empty selector selects everything. -/
structure Query where
  kind : Kind
  ns? : Option String
  selector : String
deriving DecidableEq, Repr

def defaultNamespace : String := "default"

/-- The question for a kind. A kind of the whole cluster takes no namespace, and the selector loses the
blanks at its ends. -/
def Query.of (kind : Kind) (namespaceGiven : Option String) (selector : String) : Query where
  kind := kind
  ns? :=
    match kind.scope with
    | .namespaced => some (namespaceGiven.getD defaultNamespace)
    | .cluster => none
  selector := String.ofList (Blank.trim selector.toList)

/-- The text under which answers are kept: the kind, then namespace and selector in parentheses. -/
def Query.key (q : Query) : String :=
  match q.ns? with
  | some ns => q.kind.name ++ "(" ++ ns ++ "," ++ q.selector ++ ")"
  | none => q.kind.name ++ "(" ++ q.selector ++ ")"

inductive Failure
  | invalidSelector (selector : String) (error : SelectorError)
  | request (kind : Kind)
  | syncFailed (kind : Kind)
  | connection
  | unexpectedKind (expected actual : Kind)
deriving DecidableEq, Repr

/-- The causes of a failure, from the outermost inwards, as far as this library words them. -/
def Failure.chain : Failure → List String
  | .invalidSelector s e => ["invalid label selector '" ++ s ++ "': " ++ e.message, e.message]
  | .request k => ["failed to list " ++ k.name]
  | .syncFailed k => ["couldn't sync local mirror for " ++ k.name]
  | .connection => ["cluster client configuration failed"]
  | .unexpectedKind e a => ["expected a list of " ++ e.name ++ ", got " ++ a.name]

def Failure.message (f : Failure) : String := f.chain.headD ""

def Query.parseSelector (q : Query) : Except Failure Selector :=
  (Selector.parse q.selector).mapError (.invalidSelector q.selector)

end Stencil.Cluster
