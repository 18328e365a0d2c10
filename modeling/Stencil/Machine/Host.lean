import Stencil.Machine.Program

set_option autoImplicit false
set_option relaxedAutoImplicit false

/-!
A machine with processes that share its files and talk through pipes. Time passes only where nothing else can
happen, apart from the little that each request takes.
-/

namespace Stencil.Machine

open Stencil.Filesystem

/-- What a number of a process stands for. A sink takes everything and gives nothing; zeros are given without
end. -/
inductive Channel
  | sink
  | zeros
  | directory
  | file (place : Place) (position : Nat) (appends : Bool)
  | readEnd (pipe : Nat)
  | writeEnd (pipe : Nat)
deriving DecidableEq, Repr

/-- Bytes on their way: those that come out next, and what was written behind them, the latest first. A pipe that
is collected from outside is never full, and never without a reader. -/
structure Pipe where
  front : List UInt8
  back : List (List UInt8)
  size : Nat
  collected : Bool
deriving DecidableEq, Repr

namespace Pipe

def empty (collected : Bool) : Pipe := ⟨[], [], 0, collected⟩

def content (q : Pipe) : List UInt8 := q.front ++ q.back.reverse.flatten

def push (q : Pipe) (bytes : List UInt8) : Pipe :=
  { q with back := bytes :: q.back, size := q.size + bytes.length }

/-- The next bytes, at most as many as asked for, and what is left. -/
def pull (q : Pipe) (limit : Nat) : List UInt8 × Pipe :=
  let q := if q.front.isEmpty then { q with front := q.content, back := [] } else q
  let bytes := q.front.take limit
  (bytes, { q with front := q.front.drop limit, size := q.size - bytes.length })

end Pipe

def pipeCapacity : Nat := 65536

inductive Activity
  | running (program : Program)
  | asleep (until_ : Nat) (program : Program)
  | stopped (program : Program)
  | ended (ending : Ending)

structure Process where
  pid : Nat
  parent : Nat
  group : Nat
  activity : Activity
  files : List (Nat × Nat)
  working : Place
  dispositions : List (Nat × Disposition)
  arrived : List Nat

def Process.isAlive (p : Process) : Bool :=
  match p.activity with
  | .ended _ => false
  | _ => true

def Process.disposition (p : Process) (signal : Nat) : Disposition :=
  (p.dispositions.lookup signal).getD .usual

/-- A machine: its files, its clock in nanoseconds, its processes, what is open, and the next free number. -/
structure Host where
  tree : Tree
  now : Nat
  processes : List Process
  channels : List (Nat × Channel)
  pipes : List (Nat × Pipe)
  fresh : Nat

def requestTime : Nat := 10000

namespace Host

def start (tree : Tree) : Host := ⟨tree, 0, [], [], [], 100⟩

def viewOf (h : Host) (p : Process) : View := ⟨h.tree, p.working⟩

def process? (h : Host) (pid : Nat) : Option Process := h.processes.find? (·.pid = pid)

def setProcess (h : Host) (p : Process) : Host :=
  { h with processes := h.processes.map fun q => if q.pid = p.pid then p else q }

def resume (h : Host) (p : Process) (program : Program) : Host :=
  h.setProcess { p with activity := .running program }

def finish (h : Host) (p : Process) (e : Ending) : Host :=
  h.setProcess { p with activity := .ended e, files := [] }

def reap (h : Host) (pid : Nat) : Host := { h with processes := h.processes.filter (·.pid ≠ pid) }

def channel? (h : Host) (p : Process) (file : Nat) : Option (Nat × Channel) := do
  let id ← p.files.lookup file
  let c ← h.channels.lookup id
  some (id, c)

def isOpen (h : Host) (c : Channel) : Bool :=
  h.processes.any fun p => p.files.any fun f => h.channels.lookup f.2 == some c

def setChannel (h : Host) (id : Nat) (c : Channel) : Host :=
  { h with channels := h.channels.map fun m => if m.1 = id then (id, c) else m }

def pipe (h : Host) (id : Nat) : Pipe := (h.pipes.lookup id).getD (Pipe.empty false)

def setPipe (h : Host) (id : Nat) (p : Pipe) : Host :=
  { h with pipes := h.pipes.map fun m => if m.1 = id then (id, p) else m }

def freeFile (p : Process) : Nat :=
  ((List.range (p.files.length + 1)).find? fun n => (p.files.lookup n).isNone).getD p.files.length

/-- Opens a channel for a process under its least free number. -/
def opened (h : Host) (p : Process) (c : Channel) : Host × Process × Nat :=
  let n := freeFile p
  ({ h with channels := (h.fresh, c) :: h.channels, fresh := h.fresh + 1 },
    { p with files := (n, h.fresh) :: p.files }, n)

def newPipe (h : Host) (collected : Bool) : Host × Nat :=
  ({ h with pipes := (h.fresh, Pipe.empty collected) :: h.pipes, fresh := h.fresh + 1 }, h.fresh)

def deliver (h : Host) (signal : Nat) (p : Process) : Host :=
  if !p.isAlive then h
  else if signal = killSignal then h.finish p (.signal signal)
  else
    match p.disposition signal, signalEffect signal, p.activity with
    | .ignored, _, _ => h
    | .noted, _, _ => h.setProcess { p with arrived := p.arrived ++ [signal] }
    | .usual, .nothing, _ => h
    | .usual, .continues, .stopped q => h.resume p q
    | .usual, .continues, _ => h
    | .usual, .stops, .running q => h.setProcess { p with activity := .stopped q }
    | .usual, .stops, .asleep _ q => h.setProcess { p with activity := .stopped q }
    | .usual, .stops, _ => h
    | .usual, .finishes, _ => h.finish p (.signal signal)

def deliverAll (h : Host) (signal : Nat) (ps : List Process) : Host :=
  ps.foldl (fun h p => h.deliver signal p) h

def deliverTo (h : Host) (signal pid : Nat) : Host :=
  h.deliverAll signal (h.processes.filter (·.pid = pid))

def deliverGroup (h : Host) (signal group : Nat) : Host :=
  h.deliverAll signal (h.processes.filter (·.group = group))

/-- The processes that a target names: one by its number, or a group by its number with a minus sign; zero is
the group of the sender. -/
def targets (h : Host) (sender : Process) (target : Int) : List Process :=
  h.processes.filter fun p =>
    p.isAlive &&
      if 0 < target then (p.pid : Int) == target
      else if target = 0 then p.group == sender.group
      else (p.group : Int) == -target

def overwrite (content bytes : List UInt8) (position : Nat) : List UInt8 :=
  content.take position ++ List.replicate (position - content.length) 0 ++ bytes
    ++ content.drop (position + bytes.length)

/-- Writes bytes to the file at a place, and tells the position behind them. -/
def writeFile (t : Tree) (place : Place) (position : Nat) (appends : Bool) (bytes : List UInt8) :
    Tree × Nat :=
  match t.get? place with
  | some (.file mode content) =>
    let position := if appends then content.length else position
    (t.set place (.file mode (overwrite content bytes position)), position + bytes.length)
  | _ => (t, position)

/-- The number that a path stands for in every process. -/
def deviceFile? (path : String) : Option Nat :=
  match path with
  | "/dev/stdin" | "/dev/fd/0" => some 0
  | "/dev/stdout" | "/dev/fd/1" => some 1
  | "/dev/stderr" | "/dev/fd/2" => some 2
  | _ => none

/-- Opens a file. Without writing, a directory may be opened as well. -/
def open? (h : Host) (p : Process) (path : String) (mode : OpenMode) : Except IoError (Host × Channel) :=
  match mode with
  | .reading =>
    (h.viewOf p).entry path |>.map fun
      | (_, .sink) => (h, .sink)
      | (place, .directory) => let _ := place; (h, .directory)
      | (place, _) => (h, .file place 0 false)
  | mode =>
    match (h.viewOf p).openForWriting path with
    | .error e => .error e
    | .ok (place, .file m content) =>
      let content := if mode = .replacing then [] else content
      .ok ({ h with tree := h.tree.set place (.file m content) }, .file place 0 (mode = .appending))
    | .ok _ => .ok (h, .sink)

/-- Carries out what a process asks for, unless it has to wait. -/
def act (h : Host) (p : Process) : Program → Option Host
  | .finish e => some (h.finish p e)
  | .pause n next => some (h.setProcess { p with activity := .asleep (h.now + n) next })
  | .fork child next =>
    let pid := h.fresh
    let dispositions := p.dispositions.filter fun d => d.2 ≠ .noted
    let q : Process := { p with
      pid := pid, parent := p.pid, activity := .running (child pid), dispositions := dispositions,
      arrived := [] }
    let h := { h with fresh := h.fresh + 1 }.resume p (next pid)
    some { h with processes := h.processes ++ [q] }
  | .await pid interruptible next =>
    match h.processes.find? fun q => q.pid = pid && q.parent = p.pid with
    | none => some (h.resume p (next .noChild))
    | some q =>
      match q.activity with
      | .ended e => some ((h.reap pid).resume p (next (.ended pid e)))
      | _ =>
        if interruptible && !p.arrived.isEmpty then some (h.resume p (next .interrupted)) else none
  | .pipe next =>
    let (h, id) := h.newPipe false
    let (h, p, r) := h.opened p (.readEnd id)
    let (h, p, w) := h.opened p (.writeEnd id)
    some (h.resume p (next r w))
  | .openFile path mode next =>
    match (deviceFile? path).bind fun n => p.files.lookup n with
    | some id =>
      let n := freeFile p
      some (h.resume { p with files := (n, id) :: p.files } (next (.ok n)))
    | none =>
      match if path = "/dev/zero" then .ok (h, .zeros) else h.open? p path mode with
      | .error e => some (h.resume p (next (.error e)))
      | .ok (h, c) =>
        let (h, p, n) := h.opened p c
        some (h.resume p (next (.ok n)))
  | .read file limit next =>
    match h.channel? p file with
    | none | some (_, .writeEnd _) => some (h.resume p (next (.error .invalidInput)))
    | some (_, .directory) => some (h.resume p (next (.error .isADirectory)))
    | some (_, .sink) => some (h.resume p (next (.ok [])))
    | some (_, .zeros) => some (h.resume p (next (.ok (List.replicate limit 0))))
    | some (id, .file place position appends) =>
      let content := match h.tree.get? place with
        | some (.file _ content) => content
        | _ => []
      let bytes := (content.drop position).take limit
      some ((h.setChannel id (.file place (position + bytes.length) appends)).resume p (next (.ok bytes)))
    | some (_, .readEnd id) =>
      if (h.pipe id).size = 0 && h.isOpen (.writeEnd id) then none
      else
        let (bytes, q) := (h.pipe id).pull limit
        some ((h.setPipe id q).resume p (next (.ok bytes)))
  | .write file bytes next =>
    match h.channel? p file with
    | none | some (_, .readEnd _) | some (_, .directory) => some (h.resume p (next false))
    | some (_, .sink) | some (_, .zeros) => some (h.resume p (next true))
    | some (id, .file place position appends) =>
      let (t, position) := writeFile h.tree place position appends bytes
      some (({ h with tree := t }.setChannel id (.file place position appends)).resume p (next true))
    | some (_, .writeEnd id) =>
      let q := h.pipe id
      if !q.collected && !h.isOpen (.readEnd id) then
        if p.disposition pipeSignal = .usual then some (h.finish p (.signal pipeSignal))
        else some (h.resume p (next false))
      else if !q.collected && q.size ≠ 0 && pipeCapacity < q.size + bytes.length then none
      else some ((h.setPipe id (q.push bytes)).resume p (next true))
  | .duplicate source target next =>
    match p.files.lookup source with
    | none => some (h.resume p (next false))
    | some id =>
      let files := (target, id) :: p.files.filter fun f => f.1 ≠ target
      some (h.resume { p with files := files } (next true))
  | .close file next =>
    some (h.resume { p with files := p.files.filter fun f => f.1 ≠ file } next)
  | .send target signal next =>
    let reached := h.targets p target
    let h := h.resume p (next (!reached.isEmpty))
    if signal = 0 then some h
    else some (reached.foldl (fun h q => h.deliverTo signal q.pid) h)
  | .arrange signal d next =>
    let dispositions := (signal, d) :: p.dispositions.filter fun m => m.1 ≠ signal
    some (h.resume { p with dispositions := dispositions } next)
  | .noted next => some (h.resume { p with arrived := [] } (next p.arrived))
  | .files f =>
    let (v, next) := f (h.viewOf p)
    some ({ h with tree := v.tree }.resume { p with working := v.working } next)
  | .lead next => some (h.resume { p with group := p.pid } next)

def turn? (h : Host) (pid : Nat) : Option Host :=
  match h.process? pid with
  | none => none
  | some p =>
    match p.activity with
    | .running program => h.act p program
    | .asleep t program => if t ≤ h.now then some (h.resume p program) else none
    | _ => none

/-- Gives every process a turn. There is none if all have to wait. -/
def round? (h : Host) : Option Host :=
  let (h, moved) := (h.processes.map (·.pid)).foldl (fun (h, moved) pid =>
    match h.turn? pid with
    | some h => (h, true)
    | none => (h, moved)) (h, false)
  if moved then some { h with now := h.now + requestTime } else none

def nextWake? (h : Host) : Option Nat :=
  (h.processes.filterMap fun p => match p.activity with
    | .asleep t _ => some t
    | _ => none).min?

def ending? (h : Host) (pid : Nat) : Option Ending :=
  (h.process? pid).bind fun p => match p.activity with
    | .ended e => some e
    | _ => none

/-- Starts a process that leads a group of its own, reads nothing, and writes into two pipes that are collected.
The reply names the process and the pipes. -/
def launch (h : Host) (working : Place) (program : Nat → Program) : Host × Nat × Nat × Nat :=
  let (h, out) := h.newPipe true
  let (h, err) := h.newPipe true
  let (n, o, e, pid) := (h.fresh, h.fresh + 1, h.fresh + 2, h.fresh + 3)
  let p : Process := ⟨pid, 0, pid, .running (program pid), [(0, n), (1, o), (2, e)], working, [], []⟩
  ({ h with
      channels := (n, .sink) :: (o, .writeEnd out) :: (e, .writeEnd err) :: h.channels
      processes := h.processes ++ [p]
      fresh := h.fresh + 4 }, pid, out, err)

end Host

end Stencil.Machine
