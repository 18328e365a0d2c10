import Stencil.Decimal.Integer
import Stencil.Machine.Task
import Stencil.Text.Regex

set_option autoImplicit false
set_option relaxedAutoImplicit false

/-!
Small programs that stand beside every shell: they make, remove, show and filter files.
-/

namespace Stencil.Machine

open Stencil.Filesystem Stencil.Text

/-- A program with its arguments. Its result is the code with which it ends. -/
abbrev Utility := List String → Task Nat

namespace Utility

/-- What a program says in front of the name of what it failed on, and behind it. -/
def complaint : String → String × String
  | "touch" => ("cannot touch '", "'")
  | "mkdir" => ("cannot create directory '", "'")
  | "rmdir" => ("failed to remove '", "'")
  | "rm" => ("cannot remove '", "'")
  | "cp" | "mv" => ("cannot stat '", "'")
  | "ln" => ("failed to access '", "'")
  | "chmod" => ("cannot access '", "'")
  | "head" | "tail" => ("cannot open '", "' for reading")
  | "sort" => ("cannot read: ", "")
  | "stat" => ("cannot statx '", "'")
  | _ => ("", "")

def complain (name about : String) (e : IoError) : Task Unit :=
  let (before, behind) := complaint name
  Task.say 2 (name ++ ": " ++ before ++ about ++ behind ++ ": " ++ Task.reason e ++ "\n")

/-- Does something with each name, and fails if that fails for one of them. -/
def forEach (name : String) (names : List String) (f : String → Task (Except IoError Unit)) : Task Nat :=
  names.foldlM (fun code path => do
    match ← f path with
    | .ok _ => pure code
    | .error e =>
      complain name path e
      pure 1) 0

/-- The letters of the options in front of the other arguments, and those arguments. -/
def options : List String → List Char × List String
  | [] => ([], [])
  | a :: r =>
    match a.toList with
    | ['-', '-'] => ([], r)
    | '-' :: c :: cs => let (ls, names) := options r; (c :: cs ++ ls, names)
    | _ => let (ls, names) := options r; (ls, a :: names)

def number? (s : String) : Option Nat := Decimal.natural? s.toList

/-- The value of an option that takes one, attached or as the next argument, and the other arguments. -/
def valued (letter : Char) : List String → Option String × List String
  | [] => (none, [])
  | a :: r =>
    match a.toList with
    | '-' :: c :: cs =>
      if c = letter then
        if cs.isEmpty then (r.head?, r.drop 1) else (some (String.ofList cs), r)
      else let (v, names) := valued letter r; (v, a :: names)
    | _ => let (v, names) := valued letter r; (v, a :: names)

/-- The lines of inputs, taken together, or of the input if none is named. -/
def gathered (name : String) (names : List String) : Task (List UInt8 × Nat) :=
  (if names.isEmpty then ["-"] else names).foldlM (fun (bytes, code) path => do
    match ← Task.withInput path Task.readAll with
    | .ok more => pure (bytes ++ more, code)
    | .error e =>
      complain name path e
      pure (bytes, 1)) ([], 0)

def filter (name : String) (names : List String) (f : List UInt8 → List UInt8) : Task Nat := do
  let (bytes, code) ← gathered name names
  let ok ← Task.write 1 (f bytes)
  pure (if ok then code else 1)

/-- Hands on files one after the other. -/
def cat : Utility := fun args =>
  let (_, names) := options args
  let names := if names.isEmpty then ["-"] else names
  if args.head? = some "-n" then do
    let (bytes, code) ← gathered "cat" names
    let lines := (linesOf bytes).zipIdx.map fun m =>
      let n := toString (m.2 + 1)
      Utf8.encode (String.ofList (List.replicate (6 - n.length) ' ') ++ n ++ "\t") ++ m.1
    let _ ← Task.write 1 lines.flatten
    pure code
  else
    forEach "cat" names fun path =>
      Task.withInput path fun file => Task.copyFrom file 1 Task.patience

def touch : Utility := fun args =>
  forEach "touch" (options args).2 fun path => Task.change fun v =>
    if v.exists? path then .ok v else v.write path []

def mkdir : Utility := fun args =>
  let (letters, names) := options args
  forEach "mkdir" names fun path => Task.change fun v =>
    if letters.contains 'p' then v.makeDirectories (path.length + 1) path else v.makeDirectory path

def rmdir : Utility := fun args =>
  forEach "rmdir" (options args).2 fun path => Task.change fun v =>
    match v.entry path with
    | .ok (p, .directory) =>
      if (v.tree.children p).isEmpty then v.remove path else .error .directoryNotEmpty
    | .ok _ => .error .notADirectory
    | .error e => .error e

def rm : Utility := fun args => do
  let (letters, names) := options args
  let forced := letters.contains 'f'
  let deep := letters.contains 'r' || letters.contains 'R'
  let isDot (path : String) : Bool := (path.toList.splitOn '/').getLast?.any fun n => n = ['.'] || n = ['.', '.']
  let dots := names.filter isDot
  dots.forM fun path =>
    Task.say 2 ("rm: refusing to remove '.' or '..' directory: skipping '" ++ path ++ "'\n")
  let code ← forEach "rm" (names.filter fun n => !isDot n) fun path => Task.change fun v =>
    match v.remove path with
    | .error .notFound => if forced then .ok v else .error .notFound
    | .error e => .error e
    | .ok w =>
      match resolve v.tree v.working false path with
      | .ok (.entry _ .directory) => if deep then .ok w else .error .isADirectory
      | _ => .ok w
  pure (if dots.isEmpty then code else 1)

/-- Where something named goes when it is put somewhere: under its own name into a directory. -/
def destination (v : View) (source target : String) : String :=
  if v.isDirectory target then Path.join target ((Path.fileName? source).getD source) else target

/-- Puts several things somewhere, one after the other. A failure that is not about the source is about the
target. -/
def putAll (name : String) (failure : String → String → String)
    (put : Bool → View → String → String → Except IoError View) : Utility := fun args => do
  let (letters, names) := options args
  let deep := letters.contains 'r' || letters.contains 'R' || letters.contains 'a'
  match names.getLast? with
  | none =>
    Task.say 2 (name ++ ": missing file operand\nTry '" ++ name ++ " --help' for more information.\n")
    pure 1
  | some target =>
    names.dropLast.foldlM (fun code source => do
      let v ← Task.view
      match v.entry source with
      | .error e =>
        complain name source e
        pure 1
      | .ok (_, .directory) =>
        if name = "cp" && !deep then
          Task.say 2 ("cp: -r not specified; omitting directory '" ++ source ++ "'\n")
          pure 1
        else carry v code source target deep
      | .ok _ => carry v code source target deep) 0
where
  carry (v : View) (code : Nat) (source target : String) (deep : Bool) : Task Nat := do
    let target := destination v source target
    match ← Task.change fun v => put deep v source target with
    | .ok _ => pure code
    | .error e =>
      Task.say 2 (name ++ ": " ++ failure source target ++ ": " ++ Task.reason e ++ "\n")
      pure 1

def mv : Utility := putAll "mv" (fun source target => "cannot move '" ++ source ++ "' to '" ++ target ++ "'")
  fun _ v source target => v.rename source target

/-- Copies files with their modes, and directories with all in them. -/
def cp : Utility := putAll "cp" (fun _ target => "cannot create regular file '" ++ target ++ "'")
  fun _ v source target =>
  match v.entry source with
  | .error e => .error e
  | .ok (_, .file mode content) =>
    if v.exists? target then v.write target content
    else (v.write target content).bind fun w => w.setMode target mode
  | .ok (p, .directory) =>
    match v.makeDirectory target with
    | .error e => .error e
    | .ok w =>
      match w.entry target with
      | .error e => .error e
      | .ok (q, _) =>
        let below := v.tree.entries.filter fun m => p.isPrefixOf m.1 && m.1 ≠ p
        .ok { w with tree := below.foldl (fun t m => t.set (q ++ m.1.drop p.length) m.2) w.tree }
  | .ok (_, _) => v.write target []

def ln : Utility := fun args =>
  let (letters, names) := options args
  match names with
  | [target, path] =>
    forEach "ln" [target] fun target => Task.change fun v =>
      let path := destination v target path
      let v := if letters.contains 'f' then (match v.remove path with
        | .ok w => w
        | .error _ => v) else v
      if letters.contains 's' then v.makeLink path target
      else
        match v.entry target, v.exists? path with
        | .error e, _ => .error e
        | .ok _, true => .error .alreadyExists
        | .ok (_, .file mode content), false =>
          (v.write path content).bind fun w => w.setMode path mode
        | .ok _, false => .error .permissionDenied
  | _ => do
    Task.say 2 "ln: missing file operand\n"
    pure 1

/-- The bits of a permission letter for all who are named. -/
def bitsOf (who : List Char) (letter : Char) : Nat :=
  let bit := if letter = 'r' then 4 else if letter = 'w' then 2 else if letter = 'x' then 1 else 0
  let all := who.isEmpty || who.contains 'a'
  (if all || who.contains 'u' then bit * 64 else 0) + (if all || who.contains 'g' then bit * 8 else 0)
    + (if all || who.contains 'o' then bit else 0)

/-- The permissions after a change that is written as digits or as letters. Without anyone named, others are not
allowed to write. -/
def changedMode (change : String) (mode : Nat) : Option Nat :=
  match Decimal.digits? 8 change.toList with
  | some n => some n
  | none => (Find.splitBy [','] change.toList).foldlM part mode
where
  part (mode : Nat) (change : List Char) : Option Nat :=
    let who := change.takeWhile fun c => ['u', 'g', 'o', 'a'].contains c
    match change.drop who.length with
    | sign :: letters =>
      let bits := letters.foldl (fun acc l =>
        acc ||| (if who.isEmpty && l = 'w' then 128 else bitsOf who l)) 0
      if !letters.all fun l => ['r', 'w', 'x'].contains l then none
      else if sign = '+' then some (mode ||| bits)
      else if sign = '-' then some (mode &&& (0o7777 ^^^ bits))
      else if sign = '=' then
        let clear := (bitsOf who 'r') ||| (bitsOf who 'w') ||| (bitsOf who 'x')
        some ((mode &&& (0o7777 ^^^ clear)) ||| bits)
      else none
    | [] => none

/-- Changes the permissions of files. -/
def chmod : Utility := fun args =>
  match args with
  | change :: names =>
    forEach "chmod" names fun path => Task.change fun v =>
      match v.entry path with
      | .ok (_, .file mode _) =>
        match changedMode change mode with
        | some mode => v.setMode path mode
        | none => .error .invalidInput
      | .ok _ => .ok v
      | .error e => .error e
  | [] => do
    Task.say 2 "chmod: missing operand\n"
    pure 1

def ordered (names : List String) : List String := names.mergeSort fun a b => decide (a ≤ b)

/-- Lists directories, one name a line. -/
def ls : Utility := fun args => do
  let (letters, names) := options args
  let names := if names.isEmpty then ["."] else names
  let v ← Task.view
  let listing (path : String) : Except IoError (Bool × List String) :=
    match v.entry path with
    | .error e => .error e
    | .ok (p, .directory) =>
      let found := ordered (v.tree.children p)
      let hidden := found.filter fun n => n.toList.head? == some '.'
      let shown := found.filter fun n => n.toList.head? != some '.'
      if letters.contains 'd' then .ok (false, [path])
      else if letters.contains 'a' then .ok (true, ordered ("." :: ".." :: found))
      else if letters.contains 'A' then .ok (true, ordered (hidden ++ shown))
      else .ok (true, shown)
    | .ok _ => .ok (false, [path])
  let bad := names.filterMap fun n => match listing n with
    | .error e => some (n, e)
    | .ok _ => none
  let plain := names.filterMap fun n => match listing n with
    | .ok (false, [s]) => some s
    | _ => none
  let directories := names.filterMap fun n => match listing n with
    | .ok (true, found) => some (n, found)
    | _ => none
  bad.forM fun m => Task.say 2 ("ls: cannot access '" ++ m.1 ++ "': " ++ Task.reason m.2 ++ "\n")
  let lines (ns : List String) : String := String.join (ns.map (· ++ "\n"))
  let parts := directories.map fun m =>
    (if names.length = 1 then "" else m.1 ++ ":\n") ++ lines m.2
  let front := lines (ordered plain)
  Task.say 1 (front ++ (if plain.isEmpty || parts.isEmpty then "" else "\n") ++ "\n".intercalate parts)
  pure (if bad.isEmpty then 0 else 2)

/-- The number of lines or bytes that `head` and `tail` are to show. -/
def amount (args : List String) : Bool × String × List String :=
  match valued 'c' args with
  | (some n, names) => (true, n, names)
  | (none, _) =>
    match valued 'n' args with
    | (some n, names) => (false, n, names)
    | (none, _) =>
      match args with
      | a :: names =>
        match a.toList with
        | '-' :: c :: cs => if c.isDigit then (false, String.ofList (c :: cs), names) else (false, "10", args)
        | _ => (false, "10", args)
      | [] => (false, "10", [])

/-- The first lines or bytes that come from a file number, and no more. -/
def headFrom (inBytes : Bool) (file : Nat) : Nat → Nat → Task (Except IoError Unit)
  | 0, _ => pure (.ok ())
  | n + 1, wanted => do
    if wanted = 0 then pure (.ok ())
    else
      match ← Task.ask (Program.read file Task.chunk) with
      | .error e => pure (.error e)
      | .ok [] => pure (.ok ())
      | .ok bytes =>
        let shown :=
          if inBytes then bytes.take wanted else ((linesOf bytes).take wanted).flatten
        let _ ← Task.write 1 shown
        let used := if inBytes then shown.length else shown.count 10
        headFrom inBytes file n (wanted - used)

def head : Utility := fun args =>
  let (inBytes, n, names) := amount args
  match number? n with
  | none => do
    Task.say 2 ("head: invalid number of lines: '" ++ n ++ "'\n")
    pure 1
  | some n =>
    let names := if names.isEmpty then ["-"] else names
    let first := names.head?
    forEach "head" names fun path =>
      Task.withInput path fun file => do
        if 1 < names.length then
          Task.say 1 ((if some path = first then "" else "\n") ++ "==> " ++ path ++ " <==\n")
        headFrom inBytes file Task.patience n

def tail : Utility := fun args =>
  let (inBytes, n, names) := amount args
  let fromStart := n.toList.head? == some '+'
  match number? (String.ofList (n.toList.dropWhile (· == '+'))) with
  | none => do
    Task.say 2 ("tail: invalid number of lines: '" ++ n ++ "'\n")
    pure 1
  | some n => filter "tail" names fun bytes =>
      let units := if inBytes then bytes.map fun b => [b] else linesOf bytes
      (units.drop (if fromStart then n - 1 else units.length - n)).flatten

/-- A number behind blanks, so that it fills some columns. -/
def columns (width n : Nat) : String :=
  let s := toString n
  String.ofList (List.replicate (width - s.length) ' ') ++ s

def wc : Utility := fun args => do
  let (letters, names) := options args
  let letters := if letters.isEmpty then ['l', 'w', 'c'] else letters
  let isSpace (b : UInt8) : Bool := b = 32 || (9 ≤ b && b ≤ 13)
  let counts (bytes : List UInt8) : List Nat :=
    let words := (bytes.foldl (fun (n, inside) b =>
      if isSpace b then (n, false) else (if inside then n else n + 1, true)) (0, false)).1
    (if letters.contains 'l' then [bytes.count 10] else []) ++ (if letters.contains 'w' then [words] else [])
      ++ (if letters.contains 'c' || letters.contains 'm' then [bytes.length] else [])
  let show_ (width : Nat) (ns : List Nat) (name : String) : String :=
    " ".intercalate (ns.map (columns width)) ++ (if name = "" then "" else " " ++ name) ++ "\n"
  match names with
  | [] =>
    let (bytes, code) ← gathered "wc" []
    let ns := counts bytes
    Task.say 1 (show_ (if ns.length = 1 then 1 else 7) ns "")
    pure code
  | names =>
    let (rows, code) ← names.foldlM (fun (rows, code) (path : String) => do
      match ← Task.withInput path Task.readAll with
      | .ok bytes => pure (rows ++ [(counts bytes, path, bytes.length)], code)
      | .error e =>
        complain "wc" path e
        pure (rows, 1)) (([] : List (List Nat × String × Nat)), 0)
    let total := rows.foldl (fun acc r => (acc.zip r.1).map fun m => m.1 + m.2)
      (List.replicate ((rows.head?.map (·.1.length)).getD 0) 0)
    let bytes := rows.foldl (fun n r => n + r.2.2) 0
    let width := if rows.length = 1 && total.length = 1 then 1 else (toString bytes).length
    rows.forM fun r => Task.say 1 (show_ width r.1 r.2.1)
    if 1 < rows.length then Task.say 1 (show_ width total "total")
    pure code

/-- The bytes that a set of `tr` names: ranges, escapes and classes. -/
def trSet : Nat → List UInt8 → List UInt8
  | 0, _ => []
  | n + 1, s =>
    match s with
    | 92 :: 110 :: r => 10 :: trSet n r
    | 92 :: 116 :: r => 9 :: trSet n r
    | 92 :: 114 :: r => 13 :: trSet n r
    | 92 :: 92 :: r => 92 :: trSet n r
    | 92 :: c :: r =>
      let digits := (c :: r).takeWhile fun b => 48 ≤ b && b ≤ 55
      let digits := digits.take 3
      if digits.isEmpty then c :: trSet n r
      else
        UInt8.ofNat (digits.foldl (fun acc b => acc * 8 + (b.toNat - 48)) 0)
          :: trSet n ((c :: r).drop digits.length)
    | 91 :: 58 :: r =>
      let name := String.ofList ((r.takeWhile (· ≠ 58)).map fun b => Char.ofNat b.toNat)
      let range (a b : Nat) : List UInt8 := (List.range (b + 1 - a)).map fun i => UInt8.ofNat (a + i)
      let rest := trSet n ((r.dropWhile (· ≠ 58)).drop 2)
      match name with
      | "lower" => range 97 122 ++ rest
      | "upper" => range 65 90 ++ rest
      | "digit" => range 48 57 ++ rest
      | "alpha" => range 65 90 ++ range 97 122 ++ rest
      | "alnum" => range 48 57 ++ range 65 90 ++ range 97 122 ++ rest
      | "space" => range 9 13 ++ [32] ++ rest
      | "blank" => [9, 32] ++ rest
      | "punct" => range 33 47 ++ range 58 64 ++ range 91 96 ++ range 123 126 ++ rest
      | _ => rest
    | a :: 45 :: b :: r =>
      ((List.range (b.toNat + 1 - a.toNat)).map fun i => UInt8.ofNat (a.toNat + i)) ++ trSet n r
    | a :: r => a :: trSet n r
    | [] => []

/-- Leaves out bytes that repeat the one before, if they are in a set. -/
def squeezed (set : List UInt8) : List UInt8 → List UInt8
  | a :: b :: r => if a = b && set.contains a then squeezed set (b :: r) else a :: squeezed set (b :: r)
  | s => s

/-- Puts bytes in place of others, or leaves them out. -/
def tr : Utility := fun args =>
  let (letters, sets) := options args
  let sets := sets.map fun s => let b := Utf8.encode s; trSet (b.length + 1) b
  let inverted := letters.contains 'c' || letters.contains 'C'
  let isIn (set : List UInt8) (b : UInt8) : Bool := set.contains b != inverted
  match sets with
  | [a, b] =>
    filter "tr" [] fun bytes =>
      let changed := bytes.map fun x =>
        if inverted then if a.contains x then x else b.getLastD x
        else match a.findIdx? (· = x) with
          | some i => (b[i]?).getD (b.getLastD x)
          | none => x
      if letters.contains 's' then squeezed b changed else changed
  | [a] =>
    filter "tr" [] fun bytes =>
      if letters.contains 'd' then bytes.filter fun x => !isIn a x
      else if letters.contains 's' then squeezed a bytes
      else bytes
  | _ => do
    Task.say 2 "tr: missing operand\n"
    pure 1

def closed (lines : List (List UInt8)) : List UInt8 := (lines.map fun l => bare l ++ [10]).flatten

def leadingNumber (line : List UInt8) : Int :=
  let s := (line.dropWhile fun b => b = 32 || b = 9)
  let (negative, s) := match s with
    | 45 :: r => (true, r)
    | r => (false, r)
  let digits := s.takeWhile fun b => 48 ≤ b && b ≤ 57
  let n : Int := digits.foldl (fun (acc : Int) b => acc * 10 + ((b.toNat : Int) - 48)) 0
  if negative then -n else n

def bytesLe : List UInt8 → List UInt8 → Bool
  | [], _ => true
  | _ :: _, [] => false
  | a :: r, b :: s => if a = b then bytesLe r s else decide (a < b)

/-- Leaves out lines that repeat the one before, and counts them. -/
def runs : List (List UInt8) → List (Nat × List UInt8)
  | [] => []
  | l :: ls =>
    match runs ls with
    | (n, m) :: r => if l = m then (n + 1, m) :: r else (1, l) :: (n, m) :: r
    | [] => [(1, l)]

def sort : Utility := fun args =>
  let (letters, names) := options args
  filter "sort" names fun bytes =>
    let lines := (linesOf bytes).map bare
    let le (a b : List UInt8) : Bool :=
      if letters.contains 'n' && leadingNumber a ≠ leadingNumber b then
        decide (leadingNumber a < leadingNumber b)
      else bytesLe a b
    let sorted := lines.mergeSort fun a b => if letters.contains 'r' then le b a else le a b
    closed (if letters.contains 'u' then (runs sorted).map (·.2) else sorted)

/-- Leaves out lines that repeat the one before. -/
def uniq : Utility := fun args =>
  let (letters, names) := options args
  filter "uniq" names fun bytes =>
    let rs := runs ((linesOf bytes).map bare)
    let rs := if letters.contains 'd' then rs.filter fun m => 1 < m.1
      else if letters.contains 'u' then rs.filter fun m => m.1 = 1 else rs
    closed (rs.map fun m =>
      if letters.contains 'c' then Utf8.encode (columns 7 m.1 ++ " ") ++ m.2 else m.2)

def integer? (s : String) : Option Int := Decimal.signed64? s.toList

/-- Counts from a first number to a last one. -/
def seq : Utility := fun args =>
  let count (first step last : Int) : Task Nat := do
    let n : Nat :=
      if step = 0 then 0
      else if 0 < step then (((last - first) / step) + 1).toNat
      else (((first - last) / (-step)) + 1).toNat
    let text := String.join ((List.range n).map fun (i : Nat) => toString (first + step * (i : Int)) ++ "\n")
    Task.say 1 text
    pure 0
  match args.map integer? with
  | [some last] => count 1 1 last
  | [some first, some last] => count first 1 last
  | [some first, some step, some last] => count first step last
  | _ => do
    Task.say 2 "seq: invalid argument\n"
    pure 1

def yesFrom (bytes : List UInt8) : Nat → Task Nat
  | 0 => pure 0
  | n + 1 => do
    if ← Task.write 1 bytes then yesFrom bytes n else pure 1

def yes : Utility := fun args =>
  let line := (if args.isEmpty then "y" else " ".intercalate args) ++ "\n"
  let times := 1024 / line.utf8ByteSize + 1
  yesFrom (Utf8.encode (String.join (List.replicate times line))) Task.patience

def selected (list : String) : List (Nat × Option Nat) :=
  ((Find.splitBy [','] list.toList).map fun s =>
    let a := s.takeWhile (· ≠ '-')
    let first := (Decimal.natural? a).getD 1
    match s.dropWhile (· ≠ '-') with
    | [] => (first, some first)
    | _ :: b => (first, Decimal.natural? b))

def cut : Utility := fun args =>
  let (delimiter, args) := valued 'd' args
  let (fields, args) := valued 'f' args
  let (places, names) := valued 'c' args
  let isIn (ranges : List (Nat × Option Nat)) (i : Nat) : Bool :=
    ranges.any fun m => m.1 ≤ i && m.2.all fun b => i ≤ b
  let keep {α : Type} (list : String) (xs : List α) : List α :=
    (xs.zipIdx.filter fun m => isIn (selected list) (m.2 + 1)).map (·.1)
  filter "cut" names fun bytes =>
    closed ((linesOf bytes).map fun line =>
      let line := bare line
      match fields, places with
      | some list, _ =>
        let d := Utf8.encode (delimiter.getD "\t")
        let parts := line.foldr (fun b (acc : List (List UInt8)) =>
          if [b] = d then [] :: acc
          else match acc with
            | [] => [[b]]
            | p :: ps => (b :: p) :: ps) [[]]
        if parts.length = 1 then line else d.intercalate (keep list parts)
      | none, some list => keep list line
      | none, none => line)

def tee : Utility := fun args => do
  let (letters, names) := options args
  match ← Task.readAll 0 with
  | .error _ => pure 1
  | .ok bytes =>
    let code ← forEach "tee" names fun path => Task.change fun v =>
      let before := if letters.contains 'a' then (v.readBytes path).toOption.getD [] else []
      v.write path (before ++ bytes)
    let _ ← Task.write 1 bytes
    pure code

def tac : Utility := fun args =>
  filter "tac" (options args).2 fun bytes => (linesOf bytes).reverse.flatten

def rev : Utility := fun args =>
  filter "rev" (options args).2 fun bytes => closed ((linesOf bytes).map fun l => (bare l).reverse)

def dirname : Utility := fun args => do
  args.forM fun p => Task.say 1 ((match Path.parent? p with
    | some "" => "."
    | some d => d
    | none => if Path.isAbsolute p then "/" else ".") ++ "\n")
  pure 0

/-- The last name of a path, without an ending that is named. -/
def basename : Utility := fun args => do
  match args with
  | [] =>
    Task.say 2 "basename: missing operand\n"
    pure 1
  | p :: r =>
    let name := (Path.fileName? p).getD "/"
    let ending := (r.head?).getD ""
    let short :=
      if ending ≠ "" && ending ≠ name && ending.toList.isSuffixOf name.toList then
        String.ofList (name.toList.take (name.length - ending.length))
      else name
    Task.say 1 (short ++ "\n")
    pure 0

def readlink : Utility := fun args => do
  let (letters, names) := options args
  let v ← Task.view
  names.foldlM (fun code path => do
    let found : Option String :=
      if letters.contains 'f' || letters.contains 'e' then (v.canonical path).toOption
      else match resolve v.tree v.working false path with
        | .ok (.entry _ (.link target)) => some target
        | _ => none
    match found with
    | some s =>
      Task.say 1 (s ++ "\n")
      pure code
    | none => pure 1) 0

def realpath : Utility := fun args => readlink ("-f" :: args)

/-- Finds the lines that hold something. -/
def grep : Utility := fun args => do
  let (letters, rest) := options args
  match rest with
  | [] =>
    Task.say 2 "Usage: grep [OPTION]... PATTERNS [FILE]...\n"
    pure 2
  | pattern :: names =>
    let (bytes, code) ← gathered "grep" names
    let folded (s : List Char) : List Char := if letters.contains 'i' then s.map Char.toLower else s
    let pattern := folded pattern.toList
    let holds (line : List UInt8) : Bool :=
      let text := folded (Utf8.decodeLossy line).toList
      let found := if letters.contains 'F' then Find.occurs pattern text
        else match Regex.parse? pattern with
          | some r => Regex.occursIn r text
          | none => false
      found != letters.contains 'v'
    let found := ((linesOf bytes).map bare).zipIdx.filter fun m => holds m.1
    let found := found.map fun m =>
      if letters.contains 'n' then Utf8.encode (toString (m.2 + 1) ++ ":") ++ m.1 else m.1
    if letters.contains 'q' then pure ()
    else if letters.contains 'c' then Task.say 1 (toString found.length ++ "\n")
    else
      let _ ← Task.write 1 (closed found)
      pure ()
    pure (if code ≠ 0 then 2 else if found.isEmpty then 1 else 0)

/-- The length of time that a text writes, in nanoseconds: a decimal number, perhaps with a unit. -/
def nanoseconds? (s : String) : Option Nat := do
  let (body, unit) := match s.toList.reverse with
    | 's' :: r => (r.reverse, 1)
    | 'm' :: r => (r.reverse, 60)
    | 'h' :: r => (r.reverse, 3600)
    | 'd' :: r => (r.reverse, 86400)
    | _ => (s.toList, 1)
  if body = "inf".toList || body = "infinity".toList then some 1000000000000000000
  else
    let whole := body.takeWhile (· ≠ '.')
    let fraction := (body.dropWhile (· ≠ '.')).drop 1
    let n ← Decimal.natural? (whole ++ fraction)
    some (n * unit * 1000000000 / Nat.pow 10 fraction.length)

def sleep : Utility := fun args => do
  match args.mapM nanoseconds? with
  | none =>
    let bad := (args.find? fun a => (nanoseconds? a).isNone).getD ""
    Task.say 2 ("sleep: invalid time interval '" ++ bad ++ "'\nTry 'sleep --help' for more information.\n")
    pure 1
  | some [] =>
    Task.say 2 "sleep: missing operand\nTry 'sleep --help' for more information.\n"
    pure 1
  | some ns =>
    Task.tell (Program.pause (ns.foldl (· + ·) 0))
    pure 0

def echo : Utility := fun args => do
  let (plain, args) := match args with
    | "-n" :: r => (true, r)
    | r => (false, r)
  Task.say 1 (" ".intercalate args ++ if plain then "" else "\n")
  pure 0

def pwd : Utility := fun _ => do
  let v ← Task.view
  Task.say 1 (pathOf v.working ++ "\n")
  pure 0

def id : Utility := fun args => do
  let (letters, _) := options args
  let line :=
    if letters.contains 'n' then "root"
    else if letters.isEmpty then "uid=0(root) gid=0(root) groups=0(root)"
    else "0"
  Task.say 1 (line ++ "\n")
  pure 0

def stat : Utility := fun args => do
  let (format, names) := valued 'c' args
  forEach "stat" names fun path => do
    let v ← Task.view
    match resolve v.tree v.working false path with
    | .ok (.entry _ e) =>
      let (mode, size) := match e with
        | .file mode content => (mode, content.length)
        | .directory => (0o755, 4096)
        | .link target => (0o777, target.utf8ByteSize)
        | .sink => (0o666, 0)
      let replace (s : List Char) (key value : String) : List Char :=
        Find.replaceAll key.toList value.toList s
      let text := (format.getD "%n").toList
      let text := replace text "%a" (String.ofList (Nat.toDigits 8 mode))
      let text := replace text "%s" (toString size)
      let text := replace text "%n" path
      Task.say 1 (String.ofList text ++ "\n")
      pure (.ok ())
    | .ok _ => pure (.error .notFound)
    | .error e => pure (.error e)

/-- What a pair of operands comes to. -/
def calculated (a o b : String) : Option String :=
  let ofBool (x : Bool) : Option String := some (if x then "1" else "0")
  match o, integer? a, integer? b with
  | "+", some m, some n => some (toString (m + n))
  | "-", some m, some n => some (toString (m - n))
  | "*", some m, some n => some (toString (m * n))
  | "/", some m, some n => if n = 0 then none else some (toString (Int.tdiv m n))
  | "%", some m, some n => if n = 0 then none else some (toString (Int.tmod m n))
  | "<", some m, some n => ofBool (decide (m < n))
  | "<=", some m, some n => ofBool (decide (m ≤ n))
  | ">", some m, some n => ofBool (decide (n < m))
  | ">=", some m, some n => ofBool (decide (n ≤ m))
  | "=", some m, some n => ofBool (decide (m = n))
  | "!=", some m, some n => ofBool (decide (m ≠ n))
  | "=", _, _ => ofBool (a == b)
  | "!=", _, _ => ofBool (a != b)
  | _, _, _ => none

/-- Calculates with its arguments, from left to right. -/
def expr : Utility := fun args => do
  let rec value : String → List String → Option String
    | a, [] => some a
    | a, o :: b :: r => (calculated a o b).bind fun x => value x r
    | _, [_] => none
  match args with
  | a :: r =>
    match value a r with
    | some x =>
      Task.say 1 (x ++ "\n")
      pure (if x = "" || x = "0" then 1 else 0)
    | none =>
      Task.say 2 "expr: syntax error\n"
      pure 2
  | [] =>
    Task.say 2 "expr: missing operand\nTry 'expr --help' for more information.\n"
    pure 2

def cmp : Utility := fun args => do
  let (letters, names) := options args
  match names with
  | [a, b] =>
    match ← Task.withInput a Task.readAll, ← Task.withInput b Task.readAll with
    | .ok x, .ok y =>
      if x = y then pure 0
      else
        let same := ((x.zip y).takeWhile fun m => m.1 = m.2).length
        let line := (x.take same).count 10 + 1
        if !letters.contains 's' then
          if same < x.length && same < y.length then
            Task.say 1 (a ++ " " ++ b ++ " differ: char " ++ toString (same + 1) ++ ", line " ++ toString line
              ++ "\n")
        pure 1
    | .error e, _ =>
      complain "cmp" a e
      pure 2
    | _, .error e =>
      complain "cmp" b e
      pure 2
  | _ => pure 2

def table : List (String × Utility) := [
  ("true", fun _ => pure 0), ("false", fun _ => pure 1), ("cat", cat), ("touch", touch), ("mkdir", mkdir),
  ("rmdir", rmdir), ("rm", rm), ("mv", mv), ("cp", cp), ("ln", ln), ("chmod", chmod), ("ls", ls),
  ("head", head), ("tail", tail), ("wc", wc), ("tr", tr), ("sort", sort), ("uniq", uniq), ("seq", seq),
  ("yes", yes), ("cut", cut), ("tee", tee), ("tac", tac), ("rev", rev), ("dirname", dirname),
  ("basename", basename), ("readlink", readlink), ("realpath", realpath), ("grep", grep), ("sleep", sleep),
  ("echo", echo), ("pwd", pwd), ("id", id), ("stat", stat), ("sync", fun _ => pure 0),
  ("whoami", fun _ => id ["-u", "-n"]), ("expr", expr), ("cmp", cmp),
  ("uname", fun _ => do
    Task.say 1 "Linux\n"
    pure 0)]

def find? (name : String) : Option Utility := table.lookup name

def starters : List String := [
  "dash", "bash", "env", "nice", "nohup", "printenv", "setsid", "timeout", "which", "xargs"]

def mark : List UInt8 := [0x7F, 0x45, 0x4C, 0x46]

def install (t : Tree) (directory : Place) : Tree :=
  let t := ((table.map (·.1)) ++ starters).foldl (fun t name =>
    t.set (directory ++ [name]) (.file 0o755 mark)) t
  t.set (directory ++ ["sh"]) (.link "dash")

end Utility

end Stencil.Machine
