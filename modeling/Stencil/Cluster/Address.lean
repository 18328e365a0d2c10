import Stencil.Text.Find

set_option autoImplicit false
set_option relaxedAutoImplicit false

/-!
Addresses of servers and of what they hold: scheme, authority, and path with a query. Only what is needed to
tell an address from other texts is looked at; a fragment is dropped.
-/

namespace Stencil.Cluster

open Stencil.Text

/-- An address. An authority alone is one, and so is a path alone. -/
structure Address where
  scheme? : Option (List Char)
  authority : List Char
  path : List Char
  query? : Option (List Char)
deriving DecidableEq, Repr

namespace Address

def isSchemeChar (c : Char) : Bool := c.isAlphanum || c == '+' || c == '-' || c == '.' || c == '~'

def isAuthorityChar (c : Char) : Bool :=
  c.isAlphanum || ['!', '$', '&', '\'', '(', ')', '*', '+', ',', '-', '.', ':', ';', '=', '@', '[', ']', '_',
    '~'].contains c

def endsAuthority (c : Char) : Bool := c == '/' || c == '?' || c == '#'

def isPathChar (c : Char) : Bool :=
  let n := c.toNat
  n == 0x21 || (0x24 ≤ n && n ≤ 0x3B) || n == 0x3D || (0x40 ≤ n && n ≤ 0x5F) || (0x61 ≤ n && n ≤ 0x7A)
    || n == 0x7C || 0x7E ≤ n || c == '"' || c == '\x7b' || c == '\x7d'

def isQueryChar (c : Char) : Bool :=
  let n := c.toNat
  n == 0x21 || (0x24 ≤ n && n ≤ 0x3B) || n == 0x3D || 0x3F ≤ n

/-- What has been seen of an authority: colons, brackets and percent signs since the last `@`. -/
structure Sighting where
  colons : Nat
  opened : Bool
  closed : Bool
  percent : Bool
  endsInAt : Bool

def Sighting.next? (s : Sighting) (c : Char) : Option Sighting :=
  let s := { s with endsInAt := false }
  if c = ':' then if s.colons < 8 then some { s with colons := s.colons + 1 } else none
  else if c = '[' then if s.percent || s.opened then none else some { s with opened := true }
  else if c = ']' then
    if s.opened && !s.closed then some { s with closed := true, colons := 0, percent := false } else none
  else if c = '@' then some { s with colons := 0, percent := false, endsInAt := true }
  else if c = '%' then some { s with percent := true }
  else if isAuthorityChar c then some s
  else none

/-- A text may stand as an authority: brackets are paired, and the host is followed by one colon at most. -/
def isAuthority (s : List Char) : Bool :=
  match s.foldlM Sighting.next? ⟨0, false, false, false, false⟩ with
  | some e => e.opened == e.closed && e.colons ≤ 1 && !e.endsInAt && !e.percent
  | none => false

def pathAndQuery? (s : List Char) : Option (List Char × Option (List Char)) :=
  let whole := s.takeWhile (· ≠ '#')
  let path := whole.takeWhile (· ≠ '?')
  let query := match whole.dropWhile (· ≠ '?') with
    | [] => none
    | _ :: q => some q
  if path.all isPathChar && query.all (·.all isQueryChar) then some (path, query) else none

/-- The scheme of a text with the rest behind the two slashes, or no scheme. A scheme that is too long is a
fault. -/
def splitScheme (s : List Char) : Option (Option (List Char) × List Char) :=
  let scheme := s.takeWhile isSchemeChar
  match s.dropWhile isSchemeChar with
  | ':' :: '/' :: '/' :: rest =>
    if s.length ≤ 3 then some (none, s)
    else if 64 < scheme.length then none
    else some (some scheme, rest)
  | _ => some (none, s)

def limit : Nat := 65534

def parse? (s : List Char) : Option Address :=
  if s.isEmpty || limit < Find.byteLength s then none
  else if s = ['*'] then some ⟨none, [], s, none⟩
  else if s.head? = some '/' then (pathAndQuery? s).map fun m => ⟨none, [], m.1, m.2⟩
  else do
    let (scheme, rest) ← splitScheme s
    let authority := rest.takeWhile fun c => !endsAuthority c
    let behind := rest.dropWhile fun c => !endsAuthority c
    if !isAuthority authority then none
    else if scheme.isNone then if behind.isEmpty then some ⟨none, authority, [], none⟩ else none
    else if authority.isEmpty then none
    else (pathAndQuery? behind).map fun m => ⟨scheme, authority, m.1, m.2⟩

end Address

end Stencil.Cluster
