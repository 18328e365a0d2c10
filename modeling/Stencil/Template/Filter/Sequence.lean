import Stencil.Json.Printer
import Stencil.Template.Filter.Argument
import Stencil.Text.Case

set_option autoImplicit false
set_option relaxedAutoImplicit false

/-!
Filters on arrays and objects.
-/

namespace Stencil.Template.Filter

open Stencil.Json Stencil.Text

def first : Filter := fun v _ => do
  let xs ← input "first" Value.items? v
  pure (xs.head?.getD (.str ""))

def last : Filter := fun v _ => do
  let xs ← input "last" Value.items? v
  pure (xs.getLast?.getD (.str ""))

def nth : Filter := fun v args => do
  let xs ← input "nth" Value.items? v
  let n ← argument "nth" "n" Data.count? args
  pure (xs[n]?.getD (.str ""))

/-- A separator, in which a backslash and a letter may stand for a line end or a tab. -/
def plainSeparator (s : List Char) : List Char :=
  Find.replaceAll ['\\', 't'] ['\t'] (Find.replaceAll ['\\', 'n'] ['\n'] s)

def join : Filter := fun v args => do
  let xs ← input "join" Value.items? v
  let separator ← argument? "join" "sep" chars? args
  let separator := String.ofList (plainSeparator (separator.getD []))
  pure (.str (separator.intercalate (xs.map Data.text)))

inductive SortKey
  | truth (b : Bool)
  | number (x : Float)
  | text (s : String)
  | size (n : Nat)

/-- The key of a value. Objects and `null` have none. -/
def sortKey? : Value → Option SortKey
  | .null | .obj _ => none
  | .bool b => some (.truth b)
  | .num n => some (.number n.toFloat)
  | .str s => some (.text s)
  | .arr xs => some (.size xs.length)

/-- Keys are in order; those of two sorts cannot be compared. -/
def SortKey.le? : SortKey → SortKey → Option Bool
  | .truth a, .truth b => some (!a || b)
  | .number x, .number y => some (x ≤ y)
  | .text s, .text t => some (decide (s ≤ t))
  | .size m, .size n => some (m ≤ n)
  | _, _ => none

def attributeOf (path : String) (v : Value) : Option Value := Data.at? v path

/-- The items in ascending order of what is at a path in them. Items that agree keep their order. -/
def sort : Filter := fun v args => do
  let xs ← input "sort" Value.items? v
  let path ← argument? "sort" "attribute" Value.str? args
  let fault : Fault := .wrongInput .filter "sort"
  let keyed ← xs.mapM fun x =>
    match (attributeOf (path.getD "") x).bind sortKey? with
    | some k => .ok (k, x)
    | none => .error fault
  let comparable := keyed.all fun p => (keyed.head?.bind fun q => q.1.le? p.1).isSome
  if comparable then
    pure (.arr ((keyed.mergeSort fun p q => (p.1.le? q.1).getD true).map (·.2)))
  else .error fault

/-- The text of which only one may occur, if the value is a truth value, a signed integer or a text. -/
def uniqueKey? (caseSensitive : Bool) : Value → Option (Nat × String)
  | .bool b => some (0, toString b)
  | .num n => n.signed?.map fun n => (1, toString n)
  | .str s => some (2, if caseSensitive then s else String.ofList (Case.lower s.toList))
  | _ => none

def distinct {α : Type} [BEq α] : List α → List (α × Value) → List Value
  | _, [] => []
  | seen, (k, x) :: r => if seen.contains k then distinct seen r else x :: distinct (k :: seen) r

/-- The items without repetitions of what is at a path in them. -/
def unique : Filter := fun v args => do
  let xs ← input "unique" Value.items? v
  let caseSensitive ← argument? "unique" "case_sensitive" Value.bool? args
  let path ← argument? "unique" "attribute" Value.str? args
  let path := path.getD ""
  let fault : Fault := .wrongInput .filter "unique"
  match xs with
  | [] => pure v
  | x :: _ =>
    if (attributeOf path x).isNone then .error fault
    else
      let keyed ← xs.filterMapM fun x =>
        match attributeOf path x with
        | none => .ok none
        | some y =>
          match uniqueKey? (caseSensitive.getD false) y with
          | some k => .ok (some (k, x))
          | none => .error fault
      if keyed.all fun p => (keyed.head?.map (·.1.1)) == some p.1.1 then
        pure (.arr (distinct [] keyed))
      else .error fault

/-- A position given as a number, counted from the end if it is negative. -/
def positionOf (length : Nat) (x : Float) : Nat :=
  if 0.0 ≤ x then x.toUInt64.toNat else (Decimal.ofInt length + x).toUInt64.toNat

def slice : Filter := fun v args => do
  let xs ← input "slice" Value.items? v
  let start ← argument? "slice" "start" Data.float? args
  let stop ← argument? "slice" "end" Data.float? args
  let start := (start.map (positionOf xs.length)).getD 0
  let stop := min ((stop.map (positionOf xs.length)).getD xs.length) xs.length
  pure (.arr ((xs.take stop).drop start))

def addToGroup (key : String) (x : Value) (groups : List (String × Value)) : List (String × Value) :=
  let members := match groups.lookup key with
    | some (.arr ys) => ys ++ [x]
    | _ => [x]
  insertMember key (.arr members) groups

/-- The items under what is at a path in them. Items with nothing there are left out. -/
def groupBy : Filter := fun v args => do
  let xs ← input "group_by" Value.items? v
  if xs.isEmpty then pure (.obj [])
  else
    let path ← argument "group_by" "attribute" Value.str? args
    pure (.obj (xs.foldl (fun groups x =>
      match attributeOf path x with
      | none | some .null => groups
      | some (.str key) => addToGroup key x groups
      | some y => addToGroup (Printer.compact y) x groups) []))

/-- The items with a given value at a path, or with any value there. -/
def keep : Filter := fun v args => do
  let xs ← input "filter" Value.items? v
  if xs.isEmpty then pure v
  else
    let path ← argument "filter" "attribute" Value.str? args
    let wanted := (args.lookup "value").getD .null
    pure (.arr (xs.filter fun x =>
      let found := (attributeOf path x).getD .null
      if wanted == .null then !(found == .null) else found == wanted))

def map : Filter := fun v args => do
  let xs ← input "map" Value.items? v
  if xs.isEmpty then pure v
  else
    let path ← argument "map" "attribute" Value.str? args
    pure (.arr (xs.filterMap fun x =>
      match attributeOf path x with
      | none | some .null => none
      | some y => some y))

def concat : Filter := fun v args => do
  let xs ← input "concat" Value.items? v
  match args.lookup "with" with
  | none => .error (.missingArgument .filter "concat" "with")
  | some (.arr ys) => pure (.arr (xs ++ ys))
  | some y => pure (.arr (xs ++ [y]))

/-- How many items, members or characters there are. -/
def length : Filter := fun v _ =>
  match v with
  | .arr xs => .ok (.ofNat xs.length)
  | .obj m => .ok (.ofNat m.length)
  | .str s => .ok (.ofNat s.length)
  | _ => .error (.wrongInput .filter "length")

def reverse : Filter := fun v _ =>
  match v with
  | .arr xs => .ok (.arr xs.reverse)
  | .str s => .ok (ofChars s.toList.reverse)
  | _ => .error (.wrongInput .filter "reverse")

/-- The member under a key, or a value in its place. -/
def get : Filter := fun v args => do
  let key ← argument "get" "key" Value.str? args
  let members ← input "get" Value.members? v
  match (members.lookup key).or (args.lookup "default") with
  | some x => pure x
  | none => .error (.wrongInput .filter "get")

def jsonEncode : Filter := fun v args => do
  let pretty ← argument? "json_encode" "pretty" Value.bool? args
  pure (.str (if pretty.getD false then Printer.pretty v else Printer.compact v))

/-- The filters on arrays and objects by name. -/
def sequences : List (String × Filter) := [
  ("first", first),
  ("last", last),
  ("nth", nth),
  ("join", join),
  ("sort", sort),
  ("unique", unique),
  ("slice", slice),
  ("group_by", groupBy),
  ("filter", keep),
  ("map", map),
  ("concat", concat),
  ("length", length),
  ("reverse", reverse),
  ("get", get),
  ("json_encode", jsonEncode),
  ("as_str", fun v _ => .ok (.str (Data.text v)))]

end Stencil.Template.Filter
