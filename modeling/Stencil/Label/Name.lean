import Stencil.Text.Find

set_option autoImplicit false
set_option relaxedAutoImplicit false

/-!
The names that label keys and label values are made of.
-/

namespace Stencil.Label

open Stencil.Text

/-- A name: at most 63 letters and digits of ASCII, and between them `-`, `_` and `.` too. -/
def isName (s : List Char) : Bool :=
  !s.isEmpty && Find.byteLength s ≤ 63
    && s.head?.any Char.isAlphanum && s.getLast?.any Char.isAlphanum
    && s.all fun c => c.isAlphanum || c == '-' || c == '_' || c == '.'

/-- A part of a domain: small letters and digits of ASCII, and between them `-` too. -/
def isDomainLabel (s : List Char) : Bool :=
  !s.isEmpty && s.head?.any Char.isAlphanum && s.getLast?.any Char.isAlphanum
    && s.all fun c => c.isLower || c.isDigit || c == '-'

/-- A domain: at most 253 bytes of parts separated by points. -/
def isDomain (s : List Char) : Bool :=
  !s.isEmpty && Find.byteLength s ≤ 253 && (Find.splitBy ['.'] s).all isDomainLabel

inductive NameError
  | keyDomain (domain : String)
  | key (key : String)
  | value (value : String)
deriving DecidableEq, Repr

def NameError.message : NameError → String
  | .keyDomain d => "invalid label key prefix '" ++ d ++ "'"
  | .key k => "invalid label key '" ++ k ++ "'"
  | .value v => "invalid label value '" ++ v ++ "'"

/-- What is wrong with a label key, which is a name after an optional domain and a slash. -/
def keyError? (key : List Char) : Option NameError :=
  match Find.cut? ['/'] key with
  | none => if isName key then none else some (.key (String.ofList key))
  | some (domain, name) =>
    if !isDomain domain then some (.keyDomain (String.ofList domain))
    else if !isName name then some (.key (String.ofList key))
    else none

/-- What is wrong with a label value, which is a name or empty. -/
def valueError? (value : List Char) : Option NameError :=
  if value.isEmpty || isName value then none else some (.value (String.ofList value))

end Stencil.Label
