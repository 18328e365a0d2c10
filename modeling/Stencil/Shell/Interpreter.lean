import Stencil.Machine.Utility
import Stencil.Shell.Condition
import Stencil.Shell.Expansion

set_option autoImplicit false
set_option relaxedAutoImplicit false

/-!
From commands to what a process does. Everything that a shell starts, other shells included, is bounded by a
number that no command comes near to.
-/

namespace Stencil.Shell

open Stencil.Machine Stencil.Filesystem Stencil.Text

/-- How things go on after a command: in order, out of loops, with the next turn of a loop, or out of a
function. -/
inductive Flow
  | on
  | leave (loops : Nat)
  | again (loops : Nat)
  | back
deriving DecidableEq, Repr

inductive Executable
  | utility (name : String)
  | script (interpreter argument : Option String) (text : Octets)
  | denied
  | missing

namespace Executable

/-- The interpreter that the first line of a script names, with an argument. -/
def interpreterOf (text : Octets) : Option String × Option String :=
  match text with
  | '#' :: '!' :: r =>
    let line := (r.takeWhile (· ≠ '\n')).dropWhile Parser.isBlank
    let line := (line.reverse.dropWhile Parser.isBlank).reverse
    let path := line.takeWhile fun c => !Parser.isBlank c
    let behind := (line.drop path.length).dropWhile Parser.isBlank
    (some (textOf path), if behind.isEmpty then none else some (textOf behind))
  | _ => (none, none)

def atPath (v : View) (path : String) : Executable :=
  match v.entry path with
  | .ok (p, .file mode content) =>
    if mode &&& 0o111 = 0 then .denied
    else if content.take 4 = Utility.mark then .utility (p.getLastD "")
    else
      let text := ofBytes content
      let (interpreter, argument) := interpreterOf text
      .script interpreter argument text
  | .ok _ => .denied
  | .error .notFound => .missing
  | .error .notADirectory => .missing
  | .error _ => .denied

/-- The path of a program with a name: the name itself if it holds a slash, otherwise that of the first file in
the directories that are searched. -/
def locate (v : View) (directories : Octets) (name : Octets) : Option String :=
  if name.contains '/' then some (textOf name)
  else
    let candidates := (Find.splitBy [':'] directories).map fun d => Path.join (textOf d) (textOf name)
    candidates.find? fun path => v.isFile path

end Executable

/-- The message about a process that a signal has ended. -/
def signalWords (n : Nat) : Option String :=
  match n with
  | 2 | 13 => none
  | 1 => some "Hangup"
  | 3 => some "Quit"
  | 4 => some "Illegal instruction"
  | 6 => some "Aborted"
  | 8 => some "Floating point exception"
  | 9 => some "Killed"
  | 10 => some "User defined signal 1"
  | 11 => some "Segmentation fault"
  | 12 => some "User defined signal 2"
  | 14 => some "Alarm clock"
  | 15 => some "Terminated"
  | n => some ("Signal " ++ toString n)

/-- The number of a signal by its name or number. Zero stands for the end of the shell. -/
def signalOf? (s : Octets) : Option Nat :=
  let name := (textOf s).toUpper
  let name := if name.startsWith "SIG" then (name.drop 3).toString else name
  if name = "EXIT" then some 0
  else match Decimal.natural? s with
    | some n => if n < 65 then some n else none
    | none => signalNumber? name

namespace Interpreter

def exported (s : State) : List (Octets × Octets) :=
  s.bindings.filterMap fun m => if m.2.exported then some (m.1, m.2.value) else none

/-- The directories in which programs are looked for. -/
def searched (s : State) : Octets :=
  (Action.held? s (octets "PATH")).getD (octets "/usr/local/sbin:/usr/local/bin:/usr/sbin:/usr/bin:/sbin:/bin")

/-- The least number under which what a redirection hides is kept. -/
def hidden : Nat := 10

/-- Starts a process of its own that carries something out. What was arranged for signals is forgotten there,
unless they are ignored. -/
def fork (body : Action Unit) : Action Nat := fun s k =>
  Program.fork
    (fun pid => Action.run body { s with
      self := pid, jobs := [], traps := s.traps.filter (·.2.isEmpty), loops := 0 })
    (fun pid => k pid s)

def report (e : Ending) : Action Unit :=
  match e with
  | .signal n =>
    match signalWords n with
    | some words => do
      let _ ← Action.write 2 (octets (words ++ "\n"))
      pure ()
    | none => pure ()
  | .code _ => pure ()

def await (pid : Nat) : Action Nat := do
  match ← Action.ask (Program.await pid false) with
  | .ended _ e =>
    report e
    pure e.number
  | _ => pure 127

/-- Opens what a redirection names, and tells under which number; nothing if a number is to be closed. -/
def openTarget (direction : Direction) (target : Octets) (documents : List (Nat × Octets)) :
    Action (Except String (Option (Nat × Bool))) := do
  let name := textOf target
  let opening (mode : OpenMode) : Action (Except String (Option (Nat × Bool))) := do
    match ← Action.ask (Program.openFile name mode) with
    | .ok file => pure (.ok (some (file, true)))
    | .error e =>
      let verb := if mode = .reading then "open" else "create"
      let words := match e with
        | .notFound => if mode = .reading then "No such file" else "Directory nonexistent"
        | e => Task.reason e
      pure (.error ("cannot " ++ verb ++ " " ++ name ++ ": " ++ words))
  match direction with
  | .read | .both => opening .reading
  | .replace => opening .replacing
  | .append => opening .appending
  | .copyIn | .copyOut =>
    if target = ['-'] then pure (.ok none)
    else match Decimal.natural? target with
      | some n => pure (.ok (some (n, false)))
      | none => pure (.error "Bad fd number")
  | .document id =>
    let (r, w) ← Action.ask fun k => Program.pipe fun r w => k (r, w)
    let _ ← Action.write w ((documents.lookup id).getD [])
    Action.tell (Program.close w)
    pure (.ok (some (r, true)))

/-- Lets a number stand for what a redirection names. -/
def redirectOne (number : Nat) (direction : Direction) (target : Octets)
    (documents : List (Nat × Octets)) : Action (Except String Unit) := do
  match ← openTarget direction target documents with
  | .error message => pure (.error message)
  | .ok none =>
    Action.tell (Program.close number)
    pure (.ok ())
  | .ok (some (file, isNew)) =>
    if file = number then pure (.ok ())
    else
      let good ← Action.ask (Program.duplicate file number)
      if isNew then Action.tell (Program.close file)
      pure (if good then .ok () else .error (toString file ++ ": Bad file descriptor"))

def hide (number : Nat) : Action (Nat × Option Nat) := do
  let place := (← Action.get).aside
  Action.modify fun s => { s with aside := place + 1 }
  let kept ← Action.ask (Program.duplicate number place)
  pure (number, if kept then some place else none)

def restore (kept : List (Nat × Option Nat)) : Action Unit :=
  kept.reverse.forM fun m => do
    match m with
    | (number, some place) =>
      let _ ← Action.ask (Program.duplicate place number)
      Action.tell (Program.close place)
    | (number, none) => Action.tell (Program.close number)
    Action.modify fun s => { s with aside := s.aside - 1 }

/-- Reads a line from the input, one octet at a time. A backslash protects what follows, unless it is taken as
it is. The second part of the result says whether the line was ended. -/
def inputLine (plain : Bool) : Nat → Octets → Action (Octets × Bool)
  | 0, done => pure (done, false)
  | n + 1, done => do
    match ← Action.ask (Program.read 0 1) with
    | .ok [b] =>
      let c := Char.ofNat b.toNat
      if c = '\n' then pure (done, true)
      else if c = '\\' && !plain then
        match ← Action.ask (Program.read 0 1) with
        | .ok [b] => inputLine plain n (if b = 10 then done else done ++ [Char.ofNat b.toNat])
        | _ => pure (done, false)
      else inputLine plain n (done ++ [c])
    | _ => pure (done, false)

/-- Gives names the fields of a line, and the last one all that is left. -/
def distribute (ifs : Octets) : List Octets → Octets → List (Octets × Octets)
  | [], _ => []
  | [name], line =>
    let line := line.dropWhile ifs.contains
    [(name, (line.reverse.dropWhile ifs.contains).reverse)]
  | name :: names, line =>
    let line := line.dropWhile ifs.contains
    let field := line.takeWhile fun c => !ifs.contains c
    (name, field) :: distribute ifs names (line.drop field.length)

def say (s : Octets) : Action Nat := do
  pure (if ← Action.write 1 s then 0 else 1)

def changeDirectory (args : List Octets) : Action Nat := do
  let s ← Action.get
  let target := match args with
    | [] => (Action.held? s (octets "HOME")).getD []
    | ['-'] :: _ => (Action.held? s (octets "OLDPWD")).getD []
    | a :: _ => a
  let outcome ← Action.ask fun (k : Except IoError (Octets × Octets) → Program) => Program.files fun v =>
    match v.entry (textOf target) with
    | .ok (p, .directory) =>
      ({ v with working := p }, k (.ok (octets (pathOf v.working), octets (pathOf p))))
    | .ok _ => (v, k (.error IoError.notADirectory))
    | .error e => (v, k (.error e))
  match outcome with
  | .error _ =>
    Action.complain ("cd: can't cd to " ++ textOf target)
    pure 2
  | .ok (before, after) =>
    Action.assign (octets "OLDPWD") before
    Action.assign (octets "PWD") after
    if args = [['-']] then say (after ++ ['\n']) else pure 0

def kill (args : List Octets) : Action Nat := do
  let (signal, targets) : Option Nat × List Octets := match args with
    | ['-', 's'] :: name :: r => (signalOf? name, r)
    | ['-', '-'] :: r => (some 15, r)
    | ('-' :: name) :: r => (signalOf? name, r)
    | r => (some 15, r)
  match signal with
  | none =>
    match args with
    | [['-', 'l']] => say (octets (String.join (signals.map fun m => m.1 ++ "\n")))
    | [['-', 'l'], n] =>
      match (Decimal.natural? n).bind fun n => signalName? (n % 128) with
      | some name => say (octets (name ++ "\n"))
      | none =>
        Action.complain ("kill: invalid signal number or exit status: " ++ textOf n)
        pure 2
    | option :: _ =>
      Action.complain ("kill: Illegal option " ++ textOf option)
      pure 2
    | [] => pure 2
  | some signal =>
    if targets.isEmpty then
      Action.complain ("kill: Usage: kill [-s sigspec | -signum | -sigspec] [pid | job]... or\n"
        ++ "kill -l [exitstatus]")
      return 2
    targets.foldlM (fun code t => do
      let target : Option Int := match t with
        | '-' :: r => (Decimal.natural? r).map fun n => -(n : Int)
        | r => (Decimal.natural? r).map fun n => (n : Int)
      match target with
      | none =>
        Action.complain ("kill: Illegal number: " ++ textOf t)
        pure 2
      | some target =>
        if ← Action.ask (Program.send target signal) then pure code
        else
          Action.complain "kill: No such process\n"
          pure 1) 0

/-- Arranges what is done when signals come, or when the shell ends. -/
def trap (args : List Octets) : Action Nat := do
  match args with
  | [] => pure 0
  | [_] => pure 0
  | action :: names =>
    names.foldlM (fun code name => do
      match signalOf? name with
      | none =>
        let _ ← Action.write 2 (octets ("trap: " ++ textOf name ++ ": bad trap\n"))
        pure 1
      | some n =>
        let others (s : State) : List (Nat × Octets) := s.traps.filter fun t => t.1 ≠ n
        if action = ['-'] then
          Action.modify fun s => { s with traps := others s }
          if n ≠ 0 then Action.tell (Program.arrange n .usual)
        else
          Action.modify fun s => { s with traps := (n, action) :: others s }
          if n ≠ 0 then Action.tell (Program.arrange n (if action.isEmpty then .ignored else .noted))
        pure code) 0

/-- Gives bindings values, and marks them. -/
def declare (mark : Variable → Variable) (args : List Octets) : Action Nat := do
  args.forM fun a => do
    let name := a.takeWhile (· ≠ '=')
    if name.length < a.length then
      Action.assign name (a.drop (name.length + 1))
    else
      let s ← Action.get
      if (s.bindings.lookup name).isNone then
        Action.assign name []
    Action.modify fun s => { s with bindings := s.bindings.map fun m =>
      if m.1 = name then (name, mark m.2) else m }
  pure 0

/-- Sets options and positional parameters. -/
def configure : List Octets → Action Nat
  | [] => pure 0
  | ['-', 'o'] :: name :: r => do
    Action.modify fun s => match textOf name with
      | "errexit" => { s with stopsOnFailure := true }
      | "nounset" => { s with stopsOnUnset := true }
      | "noglob" => { s with keepsPatterns := true }
      | "xtrace" => { s with traces := true }
      | _ => s
    if r.isEmpty then pure 0 else configure r
  | ['+', 'o'] :: name :: r => do
    Action.modify fun s => match textOf name with
      | "errexit" => { s with stopsOnFailure := false }
      | "nounset" => { s with stopsOnUnset := false }
      | "noglob" => { s with keepsPatterns := false }
      | "xtrace" => { s with traces := false }
      | _ => s
    if r.isEmpty then pure 0 else configure r
  | ['-', '-'] :: r => do
    Action.modify fun s => { s with positional := r }
    pure 0
  | ('-' :: letters) :: r => do
    let known := "abCefhIimnosuVvxE".toList
    match letters.find? fun c => !known.contains c with
    | some c =>
      Action.complain ("set: Illegal option -" ++ String.singleton c)
      Action.halt (Program.exit 2)
    | none => pure ()
    Action.modify fun s => { s with
      stopsOnFailure := s.stopsOnFailure || letters.contains 'e'
      stopsOnUnset := s.stopsOnUnset || letters.contains 'u'
      keepsPatterns := s.keepsPatterns || letters.contains 'f'
      traces := s.traces || letters.contains 'x' }
    if r.isEmpty then pure 0 else configure r
  | ('+' :: letters) :: r => do
    Action.modify fun s => { s with
      stopsOnFailure := s.stopsOnFailure && !letters.contains 'e'
      stopsOnUnset := s.stopsOnUnset && !letters.contains 'u'
      keepsPatterns := s.keepsPatterns && !letters.contains 'f'
      traces := s.traces && !letters.contains 'x' }
    if r.isEmpty then pure 0 else configure r
  | r => do
    Action.modify fun s => { s with positional := r }
    pure 0

/-- Shows a command before it is carried out, if that is asked for, where messages go outside of it. -/
def trace (place : Nat) (values : List (Octets × Octets)) (args : List Octets) : Action Unit := do
  if (← Action.get).traces then
    let words := values.map (fun m => m.1 ++ ['='] ++ m.2) ++ args
    let _ ← Action.write place (octets "+ " ++ [' '].intercalate words ++ ['\n'])

/-- The commands that a shell carries out itself and that need nothing but their arguments. -/
def builtin? (name : String) : Option (List Octets → Action Nat) :=
  match name with
  | ":" | "true" | "ulimit" | "hash" | "times" | "alias" => some fun _ => pure 0
  | "umask" => some fun args =>
    match args with
    | [] => do say ((← Action.get).mask ++ ['\n'])
    | mask :: _ => do
      Action.modify fun s => { s with mask := List.replicate (4 - mask.length) '0' ++ mask }
      pure 0
  | "false" => some fun _ => pure 1
  | "echo" => some fun args => say (Printing.echo args)
  | "printf" => some fun args =>
    match args with
    | [] => do
      Action.complain "printf: usage: printf format [arg ...]"
      pure 2
    | ['-', '-'] :: format :: args | format :: args => do
      let (text, faults) := Printing.printf format args
      faults.forM fun f => Action.complain ("printf: " ++ f.message)
      let written ← say text
      let isWrong := faults.any fun f => match f with
        | .directive _ => true
        | _ => false
      pure (max written (if isWrong then 2 else if faults.isEmpty then 0 else 1))
  | "test" => some (condition "test")
  | "[" => some fun args =>
    if args.getLast? = some [']'] then condition "[" args.dropLast
    else do
      Action.complain "[: missing ]"
      pure 2
  | "cd" | "chdir" => some changeDirectory
  | "pwd" => some fun _ => do
    let v ← Action.ask fun k => Program.files fun v => (v, k v)
    say (octets (pathOf v.working ++ "\n"))
  | "export" => some fun args => declare (fun v => { v with exported := true }) args
  | "readonly" => some fun args => declare (fun v => { v with fixed := true }) args
  | "local" => some fun args => do
    if (← Action.get).kept.isEmpty then
      Action.complain "local: not in a function"
      Action.halt (Program.exit 2)
    else
      args.forM fun a => Action.keep (a.takeWhile (· ≠ '='))
      declare id args
  | "unset" => some fun args => do
    let isFunction := args.head? = some ['-', 'f']
    let names := args.filter fun a => a.head? ≠ some '-'
    Action.modify fun s => { s with
      bindings := if isFunction then s.bindings else s.bindings.filter fun m => !names.contains m.1
      functions := if isFunction then s.functions.filter fun m => !names.contains m.1 else s.functions }
    pure 0
  | "shift" => some fun args => do
    let n := ((args.head?.bind Decimal.natural?).getD 1)
    let s ← Action.get
    if s.positional.length < n then
      Action.complain "shift: can't shift that many"
      Action.halt (Program.exit 2)
    else
      Action.modify fun s => { s with positional := s.positional.drop n }
      pure 0
  | "set" => some configure
  | "kill" => some kill
  | "trap" => some trap
  | "jobs" => some fun _ => pure 0
  | "read" => some fun args => do
    let plain := args.contains ['-', 'r']
    let names := args.filter fun a => a.head? ≠ some '-'
    if names.isEmpty then
      Action.complain "read: arg count"
      return 2
    let (line, ended) ← inputLine plain Task.patience []
    let s ← Action.get
    (distribute (Expansion.separators s) names line).forM fun m => do
      Action.assign m.1 m.2
    pure (if ended then 0 else 1)
  | _ => none
where
  condition (name : String) (args : List Octets) : Action Nat := do
    let v ← Action.ask fun k => Program.files fun v => (v, k v)
    match Condition.holds v args with
    | .ok true => pure 0
    | .ok false => pure 1
    | .error e =>
      Action.complain (name ++ ": " ++ e.message)
      pure 2

def specials : List String := ["exit", "return", "break", "continue", "eval", ".", "exec", "command", "wait", "type"]

def mainSpecials : List String := [
  "break", ":", "continue", ".", "eval", "exec", "exit", "export", "readonly", "return", "set", "shift", "times",
  "trap", "unset"]

def deepest : Nat := 1000

/-- The positional parameters and options of a shell that is started, with what it reads. -/
inductive Start
  | text (s : Octets)
  | file (path : Octets)
  | input

/-- What the arguments of a shell say: what it reads, its name, its parameters, and the letters of options. -/
def startOf (name : Octets) : List Octets → Octets → Start × Octets × List Octets × Octets
  | [], letters => (.input, name, [], letters)
  | ('-' :: c :: cs) :: r, letters =>
    if (c :: cs).contains 'c' then
      match r with
      | [] => (.text [], name, [], letters)
      | s :: r => (.text s, r.headD name, r.drop 1, letters ++ (c :: cs))
    else startOf name r (letters ++ (c :: cs))
  | path :: r, letters => (.file path, path, r, letters)

/-- What a shell remembers at first. -/
def initial (name : Octets) (pid : Nat) (environment : List (Octets × Octets)) (positional : List Octets)
    (letters : Octets) : State where
  bindings := environment.map fun m => (m.1, ⟨m.2, true, false⟩)
  positional := positional
  name := name
  root := pid
  self := pid
  status := 0
  lastJob := none
  jobs := []
  functions := []
  documents := []
  fresh := 0
  stopsOnFailure := letters.contains 'e'
  stopsOnUnset := letters.contains 'u'
  keepsPatterns := letters.contains 'f'
  traps := []
  tolerant := false
  loops := 0
  substituted := none
  line := 1
  speaker := ""
  kept := []
  traces := letters.contains 'x'
  mask := octets "0022"
  aside := hidden

mutual

/-- Becomes a program. What was arranged for signals is forgotten, and what redirections hide is closed. -/
def become (n : Nat) (s : State) (environment : List (Octets × Octets)) (args : List Octets) : Program :=
  match n with
  | 0 => Program.exit 126
  | n + 1 =>
    let name := args.headD []
    let said (message : String) (code : Nat) : Program :=
      let where_ := ": " ++ toString s.line ++ ": " ++ s.speaker
      Program.emit 2 (bytesOf (s.name ++ octets (where_ ++ textOf name ++ ": " ++ message ++ "\n"))) code
    let clear (p : Program) : Program :=
      let p := (List.range (s.aside - hidden)).foldl (fun p i => Program.close (hidden + i) p) p
      s.traps.foldl (fun p t => if t.1 = 0 || t.2.isEmpty then p else Program.arrange t.1 .usual p) p
    Program.files fun v => (v,
      match Executable.locate v (searched s) name with
      | none => said "not found" 127
      | some path =>
        match Executable.atPath v path with
        | .missing => said "not found" 127
        | .denied => said "Permission denied" 126
        | .utility u => clear (start n s environment (octets u) args)
        | .script interpreter argument text =>
          match interpreter with
          | none => clear (shell n s.self environment (octets path) [octets path] (some text) (args.drop 1))
          | some i =>
            match Executable.atPath v i with
            | .utility u =>
              clear (start n s environment (octets u)
                ([octets i] ++ (argument.map octets).toList ++ [octets path] ++ args.drop 1))
            | .denied => said "Permission denied" 126
            | _ => said "not found" 127)

/-- Starts one of the small programs, or a shell, or a program that starts another one. -/
def start (n : Nat) (s : State) (environment : List (Octets × Octets)) (u : Octets) (args : List Octets) :
    Program :=
  match n with
  | 0 => Program.exit 126
  | n + 1 =>
    let rest := args.drop 1
    match textOf u with
    | "dash" | "bash" => shell n s.self environment (args.headD []) rest none []
    | "nice" => become n s environment rest
    | "printenv" =>
      match rest with
      | [] => Program.emit 1 (bytesOf (environment.map fun m => m.1 ++ ['='] ++ m.2 ++ ['\n']).flatten) 0
      | name :: _ =>
        match environment.lookup name with
        | some v => Program.emit 1 (bytesOf (v ++ ['\n'])) 0
        | none => Program.exit 1
    | "which" =>
      Program.files fun v =>
        let found := rest.map fun name =>
          (Executable.locate v (searched s) name).bind fun p => if v.isFile p then some p else none
        let lines := found.filterMap fun p => p.map fun p => octets (p ++ "\n")
        (v, Program.emit 1 (bytesOf lines.flatten) (if found.all Option.isSome then 0 else 1))
    | "env" =>
      let isBare := rest.head? = some ['-', 'i']
      let rest := if isBare then rest.drop 1 else rest
      let environment := if isBare then [] else environment
      let isPair (a : Octets) : Bool := a.contains '=' && a.head? ≠ some '='
      let pairs := (rest.takeWhile isPair).map fun a => (a.takeWhile (· ≠ '='), (a.dropWhile (· ≠ '=')).drop 1)
      let environment := environment.filter (fun m => !(pairs.map (·.1)).contains m.1) ++ pairs
      let path := (environment.lookup (octets "PATH")).map fun p => (octets "PATH", Variable.mk p true false)
      let s := { s with bindings := path.toList ++ s.bindings.filter fun m => m.1 ≠ octets "PATH" }
      match rest.dropWhile isPair with
      | [] =>
        let lines := environment.map fun m => m.1 ++ ['='] ++ m.2 ++ ['\n']
        Program.emit 1 (bytesOf lines.flatten) 0
      | command => become n s environment command
    | "nohup" => Program.arrange 1 .ignored (become n s environment rest)
    | "setsid" => Program.lead (become n s environment rest)
    | "timeout" =>
      match (rest.head?.map textOf).bind Utility.nanoseconds? with
      | none => Program.exit 125
      | some time =>
        Program.fork (fun pid => become n { s with self := pid } environment (rest.drop 1)) fun child =>
          Program.fork (fun _ => Program.pause time (Program.send child 15 fun _ => Program.exit 0)) fun timer =>
            Program.await child false fun ended =>
              Program.send timer 9 fun _ =>
                match ended with
                | .ended _ (.code c) => Program.exit c
                | .ended _ (.signal 15) => Program.exit 124
                | .ended _ (.signal k) => Program.exit (128 + k)
                | _ => Program.exit 125
    | "xargs" =>
      (Task.readAll 0) fun
        | .error _ => Program.exit 1
        | .ok bytes =>
          let isSpace (c : Char) : Bool := c == ' ' || c == '\n' || c == '\t'
          let words := (ofBytes bytes).foldr (fun c (acc : List Octets) =>
            if isSpace c then [] :: acc
            else match acc with
              | [] => [[c]]
              | w :: ws => (c :: w) :: ws) [[]]
          let words := words.filter fun w => !w.isEmpty
          if words.isEmpty && rest.head? = some ['-', 'r'] then Program.exit 0
          else become n s environment ((if rest.isEmpty then [octets "echo"] else rest) ++ words)
    | name =>
      match Utility.find? name with
      | some f => (f (rest.map textOf)).program
      | none => Program.exit 127

/-- Starts a shell. It reads a text that it is given, or what its arguments say. -/
def shell (n : Nat) (pid : Nat) (environment : List (Octets × Octets)) (name : Octets) (args : List Octets)
    (given : Option Octets) (parameters : List Octets) : Program :=
  match n with
  | 0 => Program.exit 126
  | n + 1 =>
    let go (name : Octets) (positional : List Octets) (letters text : Octets) : Program :=
      Action.run (script n text true) (initial name pid environment positional letters)
    match given with
    | some text => go name parameters [] text
    | none =>
      let (what, name, positional, letters) := startOf name args []
      match what with
      | .text s => go name positional letters s
      | .input =>
        (Task.readAll 0) fun
          | .ok bytes => go name positional letters (ofBytes bytes)
          | .error _ => Program.exit 2
      | .file path =>
        Program.files fun v => (v,
          match v.readBytes (textOf path) with
          | .ok bytes => go name positional letters (ofBytes bytes)
          | .error _ =>
            Program.emit 2 (bytesOf (name ++ octets (": 0: cannot open " ++ textOf path ++ ": No such file\n"))) 2)

/-- Carries out a text line by line, and ends the shell if it is all that the shell does. -/
def script (n : Nat) (text : Octets) (isAll : Bool) : Action Unit :=
  match n with
  | 0 => Action.halt (Program.exit 126)
  | n + 1 => do
    let s ← Action.get
    let (commands, documents, fresh) := parse s.fresh text
    Action.modify fun s => { s with documents := documents ++ s.documents, fresh := fresh }
    let _ ← inOrder n commands isAll
    if isAll then exitWith n (← Action.get).status

def inOrder (n : Nat) (commands : List Command) (isAll : Bool) : Action Flow :=
  match n with
  | 0 => Action.halt (Program.exit 126)
  | n + 1 =>
    match commands with
    | [] => pure .on
    | c :: rest => do
      match ← execute n (isAll && rest.isEmpty) c with
      | .on => inOrder n rest isAll
      | flow => pure flow

/-- Ends the shell, after what was arranged for its end. -/
def exitWith (n : Nat) (code : Nat) : Action Unit :=
  match n with
  | 0 => Action.halt (Program.exit code)
  | n + 1 => do
    let s ← Action.get
    match s.traps.lookup 0 with
    | none => Action.halt (Program.exit code)
    | some action =>
      Action.modify fun s => { s with traps := s.traps.filter fun t => t.1 ≠ 0, status := code }
      script n action false
      Action.halt (Program.exit code)

/-- Does what was arranged for the signals that have come. -/
def answerSignals (n : Nat) : Action Unit :=
  match n with
  | 0 => Action.halt (Program.exit 126)
  | n + 1 => do
    let arrived ← Action.ask Program.noted
    actions n arrived

/-- Does what was arranged for signals, in order. The status stays what it was. -/
def actions (n : Nat) (arrived : List Nat) : Action Unit :=
  match n with
  | 0 => Action.halt (Program.exit 126)
  | n + 1 =>
    match arrived with
    | [] => pure ()
    | signal :: rest => do
      let s ← Action.get
      match s.traps.lookup signal with
      | some action =>
        script n action false
        Action.setStatus s.status
      | none => pure ()
      actions n rest

/-- The output of a command, without the ends of lines behind it. -/
def substitute (n : Nat) (c : Command) : Action Octets :=
  match n with
  | 0 => Action.halt (Program.exit 126)
  | n + 1 => do
    let (r, w) ← Action.ask fun k => Program.pipe fun r w => k (r, w)
    let pid ← fork do
      Action.tell (Program.close r)
      let _ ← Action.ask (Program.duplicate w 1)
      if w ≠ 1 then Action.tell (Program.close w)
      let _ ← execute n true c
      exitWith n (← Action.get).status
    Action.tell (Program.close w)
    let out ← Action.ask (Task.readAll r)
    Action.tell (Program.close r)
    let status ← await pid
    Action.modify fun s => { s with status := status, substituted := some status }
    let bytes := out.toOption.getD []
    let text := (ofBytes bytes).filter (· ≠ '\x00')
    pure (text.reverse.dropWhile (· == '\n')).reverse

/-- Applies redirections in order, up to the first that fails. -/
def redirect (n : Nat) (rs : List Redirection) (keeps : Bool) : Action (Except String (List (Nat × Option Nat))) :=
  match n with
  | 0 => Action.halt (Program.exit 126)
  | n + 1 =>
    match rs with
    | [] => pure (.ok [])
    | .mk number direction target :: rest => do
      let name ← Expansion.text (substitute n) target
      let s ← Action.get
      let documents ← match direction with
        | .document id => do
          let body ← Expansion.text (substitute n) ((s.documents.lookup id).getD [])
          pure [(id, body)]
        | _ => pure []
      let kept ← if keeps then (do pure [← hide number]) else pure []
      match ← redirectOne number direction name documents with
      | .error message =>
        restore kept
        pure (.error message)
      | .ok _ =>
        match ← redirect n rest keeps with
        | .error message =>
          restore kept
          pure (.error message)
        | .ok others => pure (.ok (kept ++ others))

/-- Ends the shell after a failure, if that is asked for. -/
def checkFailure (n : Nat) : Action Unit :=
  match n with
  | 0 => Action.halt (Program.exit 126)
  | n + 1 => do
    answerSignals n
    let s ← Action.get
    if s.stopsOnFailure && !s.tolerant && s.status ≠ 0 then exitWith n s.status

/-- Carries something out under redirections, which are undone afterwards. -/
def under (n : Nat) (rs : List Redirection) (body : Action Flow) : Action Flow :=
  match n with
  | 0 => Action.halt (Program.exit 126)
  | n + 1 => do
    match ← redirect n rs true with
    | .error message =>
      Action.complain message
      Action.setStatus 2
      pure .on
    | .ok kept =>
      let flow ← body
      restore kept
      pure flow

/-- Carries out one of the commands that change how things go on. -/
def special (n : Nat) (name : String) (args : List Octets) : Action Flow :=
  match n with
  | 0 => Action.halt (Program.exit 126)
  | n + 1 => do
    let s ← Action.get
    let number := args.head?.map Decimal.natural?
    match name, number with
    | "exit", none =>
      exitWith n s.status
      pure .on
    | "exit", some (some k) =>
      exitWith n (k % 256)
      pure .on
    | "return", none => pure .back
    | "return", some (some k) =>
      Action.setStatus (k % 256)
      pure .back
    | "break", k =>
      Action.setStatus 0
      pure (if s.loops = 0 then .on else .leave ((k.bind id).getD 1))
    | "continue", k =>
      Action.setStatus 0
      pure (if s.loops = 0 then .on else .again ((k.bind id).getD 1))
    | "eval", _ =>
      Action.setStatus 0
      let (commands, documents, fresh) := parse s.fresh ([' '].intercalate args)
      Action.modify fun s => { s with
        documents := documents ++ s.documents, fresh := fresh, speaker := "eval: " }
      let flow ← inOrder n commands false
      Action.modify fun t => { t with speaker := s.speaker }
      pure flow
    | ".", _ =>
      let v ← Action.ask fun k => Program.files fun v => (v, k v)
      match args with
      | [] => pure .on
      | path :: _ =>
        match (Executable.locate v (searched s) path).map v.readBytes with
        | some (.ok bytes) =>
          Action.setStatus 0
          let (commands, documents, fresh) := parse s.fresh (ofBytes bytes)
          Action.modify fun s => { s with documents := documents ++ s.documents, fresh := fresh }
          match ← inOrder n commands false with
          | .back => pure .on
          | flow => pure flow
        | _ =>
          let isPath := path.contains '/'
          let name := textOf path
          Action.complain (".: " ++ if isPath then "cannot open " ++ name ++ ": No such file"
            else name ++ ": not found")
          Action.halt (Program.exit 2)
    | "command", _ =>
      match args with
      | ['-', 'v'] :: names => describe n false names
      | ['-', 'V'] :: names => describe n true names
      | [] => pure .on
      | args => carryOut n false true [] args
    | "type", _ => describe n true args
    | "exec", _ =>
      if args.isEmpty then pure .on
      else
        let s ← Action.get
        Action.halt (become n { s with speaker := "exec: " } (exported s) args)
    | "wait", _ => awaitJobs n (if args.isEmpty then s.jobs else args.filterMap Decimal.natural?) args.isEmpty
    | name, _ =>
      Action.complain (name ++ ": Illegal number: " ++ textOf (args.headD []))
      Action.halt (Program.exit 2)

/-- Tells what names stand for, in words or so that they could be carried out. -/
def describe (n : Nat) (inWords : Bool) (names : List Octets) : Action Flow :=
  match n with
  | 0 => Action.halt (Program.exit 126)
  | n + 1 =>
    match names with
    | [] => pure .on
    | name :: rest => do
      let s ← Action.get
      let v ← Action.ask fun k => Program.files fun v => (v, k v)
      let text := textOf name
      let found : Option (String × String) :=
        if Parser.reservedWords.contains text then some (text, "a shell keyword")
        else if (s.functions.lookup name).isSome then some (text, "a shell function")
        else if mainSpecials.contains text then some (text, "a special shell builtin")
        else if (builtin? text).isSome || specials.contains text then some (text, "a shell builtin")
        else (Executable.locate v (searched s) name).bind fun p => if v.isFile p then some (p, p) else none
      match found with
      | some (short, long) =>
        let line := if inWords then text ++ " is " ++ long else short
        Action.setStatus (← say (octets (line ++ "\n")))
        describe n inWords rest
      | none =>
        if inWords then
          let _ ← say (octets (text ++ ": not found\n"))
        Action.setStatus 127
        describeRest n inWords rest

/-- Tells what further names stand for, where one stands for nothing. -/
def describeRest (n : Nat) (inWords : Bool) (names : List Octets) : Action Flow :=
  match n with
  | 0 => Action.halt (Program.exit 126)
  | n + 1 => do
    let flow ← describe n inWords names
    Action.setStatus 127
    pure flow

/-- Waits for jobs in order. A signal for which something is arranged ends the waiting. -/
def awaitJobs (n : Nat) (pids : List Nat) (all : Bool) : Action Flow :=
  match n with
  | 0 => Action.halt (Program.exit 126)
  | n + 1 =>
    match pids with
    | [] => do
      if all then Action.setStatus 0
      pure .on
    | pid :: rest => do
      match ← Action.ask (Program.await pid true) with
      | .ended _ e =>
        if !all then report e
        Action.modify fun s => { s with jobs := s.jobs.filter (· ≠ pid), status := e.number }
        awaitJobs n rest all
      | .noChild =>
        Action.setStatus 127
        awaitJobs n rest all
      | .interrupted =>
        let arrived ← Action.ask Program.noted
        Action.setStatus (128 + arrived.headD 0)
        actions n arrived
        pure .on

/-- Carries out a command with arguments: a function, a command of the shell itself, or a program. -/
def carryOut (n : Nat) (last skipsFunctions : Bool) (assignments : List (Octets × Octets))
    (args : List Octets) : Action Flow :=
  match n with
  | 0 => Action.halt (Program.exit 126)
  | n + 1 => do
    let s ← Action.get
    let name := args.headD []
    let text := textOf name
    match if skipsFunctions then none else s.functions.lookup name with
    | some body =>
      if deepest ≤ s.kept.length then
        Action.complain ("Maximum function recursion depth (" ++ toString deepest ++ ") reached")
        Action.halt (Program.exit 2)
      else
        Action.modify fun s => { s with positional := args.drop 1, kept := [] :: s.kept }
        let flow ← execute n false body
        Action.release
        Action.modify fun t => { t with positional := s.positional }
        pure (if flow = .back then .on else flow)
    | none =>
      if specials.contains text then
        assignments.forM fun m => do
          Action.assign m.1 m.2
        special n text (args.drop 1)
      else
        match builtin? text with
        | some f =>
          Action.setStatus (← f (args.drop 1))
          pure .on
        | none =>
          let environment := (exported s).filter (fun m => !(assignments.map (·.1)).contains m.1) ++ assignments
          let s := assignments.foldl (fun (s : State) m =>
            { s with bindings := (m.1, ⟨m.2, true, false⟩) :: s.bindings }) s
          if last && s.traps.isEmpty then Action.halt (become n s environment args)
          else
            let pid ← fork fun t _ => become n { s with self := t.self, traps := t.traps } environment args
            Action.setStatus (← await pid)
            pure .on

def simple (n : Nat) (last : Bool) (line : Nat) (assignments : List (Octets × Word)) (words : List Word)
    (rs : List Redirection) : Action Flow :=
  match n with
  | 0 => Action.halt (Program.exit 126)
  | n + 1 => do
    Action.modify fun s => { s with substituted := none, line := line }
    let args ← Expansion.allFields (substitute n) words
    if args = [['e', 'x', 'e', 'c']] then
      match ← redirect n rs false with
      | .ok _ =>
        Action.setStatus 0
        pure .on
      | .error message =>
        Action.complain message
        Action.halt (Program.exit 2)
    else
      let aside := (← Action.get).aside
      let place := ((rs.findIdx? fun r => match r with
        | .mk number _ _ => number = 2).map (aside + ·)).getD 2
      under n rs do
        let values ← assignments.mapM fun a => do
          let v ← Expansion.text (substitute n) a.2
          if args.isEmpty then
            Action.assign a.1 v
          pure (a.1, v)
        trace place values args
        if args.isEmpty then
          let s ← Action.get
          Action.setStatus (s.substituted.getD 0)
          pure .on
        else carryOut n (last && rs.isEmpty) false values args

/-- Starts the commands of a pipeline, each with the output of the one before, and tells their numbers. -/
def connect (n : Nat) (input : Option Nat) (parts : List Command) : Action (List Nat) :=
  match n with
  | 0 => Action.halt (Program.exit 126)
  | n + 1 =>
    match parts with
    | [] => pure []
    | c :: rest => do
      let ends ← if rest.isEmpty then pure none
        else (do pure (some (← Action.ask fun k => Program.pipe fun r w => k (r, w))))
      let pid ← fork do
        match input with
        | some r =>
          let _ ← Action.ask (Program.duplicate r 0)
          if r ≠ 0 then Action.tell (Program.close r)
        | none => pure ()
        match ends with
        | some (r, w) =>
          Action.tell (Program.close r)
          let _ ← Action.ask (Program.duplicate w 1)
          if w ≠ 1 then Action.tell (Program.close w)
        | none => pure ()
        let _ ← execute n true c
        exitWith n (← Action.get).status
      match input with
      | some r => Action.tell (Program.close r)
      | none => pure ()
      match ends with
      | some (_, w) => Action.tell (Program.close w)
      | none => pure ()
      let others ← connect n (ends.map (·.1)) rest
      pure (pid :: others)

/-- Carries out a command with failures tolerated. -/
def tolerating (n : Nat) (c : Command) : Action Flow :=
  match n with
  | 0 => Action.halt (Program.exit 126)
  | n + 1 => do
    let before := (← Action.get).tolerant
    Action.modify fun s => { s with tolerant := true }
    let flow ← execute n false c
    Action.modify fun s => { s with tolerant := before }
    pure flow

/-- Carries out the body of a loop once, and tells whether the loop goes on. -/
def turn (n : Nat) (body : Command) : Action (Bool × Flow) :=
  match n with
  | 0 => Action.halt (Program.exit 126)
  | n + 1 => do
    Action.modify fun s => { s with loops := s.loops + 1 }
    let flow ← execute n false body
    Action.modify fun s => { s with loops := s.loops - 1 }
    match flow with
    | .on => pure (true, .on)
    | .leave k => pure (false, if k ≤ 1 then .on else .leave (k - 1))
    | .again k => if k ≤ 1 then pure (true, .on) else pure (false, .again (k - 1))
    | .back => pure (false, .back)

/-- Carries out a body once for each value of a variable. -/
def eachOf (n : Nat) (name : Octets) (values : List Octets) (body : Command) : Action Flow :=
  match n with
  | 0 => Action.halt (Program.exit 126)
  | n + 1 =>
    match values with
    | [] => pure .on
    | v :: rest => do
      Action.assign name v
      match ← turn n body with
      | (true, _) => eachOf n name rest body
      | (false, flow) => pure flow

/-- The first arm with a pattern that a text meets. -/
def armFor (n : Nat) (subject : Octets) (arms : List (List Word × Command)) : Action (Option Command) :=
  match n with
  | 0 => Action.halt (Program.exit 126)
  | n + 1 =>
    match arms with
    | [] => pure none
    | (ps, body) :: rest => do
      let patterns ← ps.mapM (Expansion.pattern (substitute n))
      if patterns.any fun p => Pattern.isMet p subject then pure (some body)
      else armFor n subject rest

/-- Carries out a command. Where it is the last thing that the process does, it may take the place of the
shell. -/
def execute (n : Nat) (last : Bool) (c : Command) : Action Flow :=
  match n with
  | 0 => Action.halt (Program.exit 126)
  | n + 1 => do
    match c with
    | .nothing => pure .on
    | .simple line assignments words rs =>
      let flow ← simple n last line assignments words rs
      if flow = .on then checkFailure n
      pure flow
    | .sequence a b =>
      match ← execute n (last && b matches .nothing) a with
      | .on => execute n last b
      | flow => pure flow
    | .background a =>
      let pid ← fork do
        match ← redirectOne 0 .read (octets "/dev/null") [] with
        | _ =>
          let _ ← execute n true a
          exitWith n (← Action.get).status
      Action.modify fun s => { s with lastJob := some pid, jobs := s.jobs ++ [pid], status := 0 }
      pure .on
    | .both a b =>
      match ← tolerating n a with
      | .on => if (← Action.get).status = 0 then execute n last b else pure .on
      | flow => pure flow
    | .either a b =>
      match ← tolerating n a with
      | .on => if (← Action.get).status = 0 then pure .on else execute n last b
      | flow => pure flow
    | .negated a =>
      let flow ← tolerating n a
      Action.modify fun s => { s with status := if s.status = 0 then 1 else 0 }
      pure flow
    | .pipeline parts =>
      let pids ← connect n none parts
      let codes ← pids.mapM await
      Action.setStatus (codes.getLastD 0)
      checkFailure n
      pure .on
    | .subshell body =>
      let pid ← fork do
        let _ ← execute n true body
        exitWith n (← Action.get).status
      Action.setStatus (← await pid)
      checkFailure n
      pure .on
    | .redirected body rs => under n rs (execute n false body)
    | .choice condition yes no =>
      match ← tolerating n condition with
      | .on =>
        if (← Action.get).status = 0 then execute n last yes
        else
          Action.setStatus 0
          execute n last no
      | flow => pure flow
    | .loop untilTrue condition body =>
      match ← tolerating n condition with
      | .on =>
        let s ← Action.get
        answerSignals n
        if (s.status = 0) = untilTrue then
          Action.setStatus 0
          pure .on
        else
          match ← turn n body with
          | (true, _) => execute n last (.loop untilTrue condition body)
          | (false, flow) => pure flow
      | flow => pure flow
    | .each name words body =>
      let values ← match words with
        | some ws => Expansion.allFields (substitute n) ws
        | none => (do pure (← Action.get).positional)
      Action.setStatus 0
      eachOf n name values body
    | .branch subject arms =>
      let text ← Expansion.text (substitute n) subject
      match ← armFor n text arms with
      | some body => execute n last body
      | none =>
        Action.setStatus 0
        pure .on
    | .define name body =>
      Action.modify fun s => { s with
        functions := (name, body) :: s.functions.filter fun f => f.1 ≠ name
        status := 0 }
      pure .on
    | .malformed line message =>
      Action.modify fun s => { s with line := line }
      Action.complain message
      Action.halt (Program.exit 2)

end

def bound : Nat := 1000000000000

def ofText (environment : List (String × String)) (text : String) : Nat → Program := fun pid =>
  shell bound pid (environment.map fun m => (octets m.1, octets m.2)) (octets "/bin/sh")
    [octets "-c", octets text] none []

end Interpreter

end Stencil.Shell
