import Stencil.Json.Printer
import Stencil.Template.Resource

set_option autoImplicit false
set_option relaxedAutoImplicit false

/-!
What can go wrong while a template is rendered, and how it is told.
-/

namespace Stencil.Template

open Stencil.Json Stencil.Decimal

inductive Callee
  | function
  | filter
  | test
deriving DecidableEq, Repr

def Callee.word : Callee → String
  | .function => "Function"
  | .filter => "Filter"
  | .test => "Test"

inductive CalculationFault
  | overflow
  | divisionByZero
  | notNumbers (lhs rhs : Value)
  | notFinite (x : Float)

def CalculationFault.message : CalculationFault → String
  | .overflow => "integer overflow"
  | .divisionByZero => "division by zero"
  | .notNumbers a b => "expected numbers, got " ++ Printer.compact a ++ " and " ++ Printer.compact b
  | .notFinite x => "result " ++ positional x ++ " is not a finite number"

inductive Fault
  | unbound (name : String)
  | unknown (callee : Callee) (name : String)
  | unknownDefinition (library name : String)
  | missingParameter (definition parameter : String)
  | missingArgument (callee : Callee) (name argument : String)
  | wrongArgument (callee : Callee) (name argument : String)
  | wrongInput (callee : Callee) (name : String)
  | notNumeric
  | outOfBounds
  | moduloByZero
  | incomparable
  | notTruth (function : String)
  | notJoinable
  | notContainer
  | notIterable
  | notInLoop
  | nothingOverridden
  | missingTemplates (names : List String)
  | tooDeep
  | thrown (text : String)
  | inArithmetic (text : String)
  | calculation (filter : String) (cause : CalculationFault)
  | missingOperand (filter : String)
  | notText (filter : String) (input : Value)
  | resource (cause : ResourceFault)
  | within (callee : Callee) (name : String) (cause : Fault)

def accented (name : String) : String := "\x60" ++ name ++ "\x60"

/-- The causes of a fault from the outermost inwards. -/
def Fault.chain : Fault → List String
  | .unbound n => ["Variable " ++ accented n ++ " not found in context"]
  | .unknown c n => [c.word ++ " '" ++ n ++ "' not found"]
  | .unknownDefinition l n => ["Macro " ++ accented (l ++ "::" ++ n) ++ " not found"]
  | .missingParameter d p => ["Macro " ++ accented d ++ " is missing the argument " ++ accented p]
  | .missingArgument c n a => [c.word ++ " " ++ accented n ++ " needs an argument " ++ accented a]
  | .wrongArgument c n a =>
    [c.word ++ " " ++ accented n ++ " received an incorrect argument " ++ accented a]
  | .wrongInput c n => [c.word ++ " " ++ accented n ++ " was called on an incorrect value"]
  | .notNumeric => ["Tried to do math with something that is not a number"]
  | .outOfBounds => ["Result of an operation is out of bounds"]
  | .moduloByZero => ["Tried to do a modulo by zero"]
  | .incomparable => ["Comparison to NaN"]
  | .notTruth f => ["Function " ++ accented f ++ " is used as a condition but returns no boolean"]
  | .notJoinable => ["Tried to concat a value that is not a string or a number"]
  | .notContainer => ["The " ++ accented "in" ++ " operator only supports strings, arrays and objects"]
  | .notIterable => ["Tried to iterate on a container that has an unsupported type"]
  | .notInLoop => ["Tried to leave a loop outside of one"]
  | .nothingOverridden => ["Tried to use super() in the top level block"]
  | .missingTemplates ns => ["Template '" ++ ", ".intercalate ns ++ "' not found"]
  | .tooDeep => ["Expansions are nested too deeply"]
  | .thrown s | .inArithmetic s => [s]
  | .calculation f c => ["filter " ++ accented f ++ ": " ++ c.message]
  | .missingOperand f => ["filter " ++ accented f ++ " expects argument " ++ accented "n"]
  | .notText f v => ["filter " ++ accented f ++ " expects a string, got " ++ Printer.compact v]
  | .resource c => c.chain.headD "" :: c.chain
  | .within c n cause => (c.word ++ " call '" ++ n ++ "' failed") :: cause.chain

/-- The fault of a function that lists objects, if one is behind it all. -/
def Fault.resource? : Fault → Option ResourceFault
  | .resource c => some c
  | .within _ _ cause => cause.resource?
  | _ => none

end Stencil.Template
