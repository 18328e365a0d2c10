set_option autoImplicit false
set_option relaxedAutoImplicit false

/-!
Signals to processes, and the ways in which processes end.
-/

namespace Stencil.Machine

def signals : List (String × Nat) := [
  ("HUP", 1), ("INT", 2), ("QUIT", 3), ("ILL", 4), ("TRAP", 5), ("ABRT", 6), ("BUS", 7), ("FPE", 8),
  ("KILL", 9), ("USR1", 10), ("SEGV", 11), ("USR2", 12), ("PIPE", 13), ("ALRM", 14), ("TERM", 15),
  ("STKFLT", 16), ("CHLD", 17), ("CONT", 18), ("STOP", 19), ("TSTP", 20), ("TTIN", 21), ("TTOU", 22),
  ("URG", 23), ("XCPU", 24), ("XFSZ", 25), ("VTALRM", 26), ("PROF", 27), ("WINCH", 28), ("IO", 29),
  ("PWR", 30), ("SYS", 31)]

def signalNumber? (name : String) : Option Nat := signals.lookup name

def signalName? (n : Nat) : Option String := (signals.find? (·.2 = n)).map (·.1)

def killSignal : Nat := 9

def pipeSignal : Nat := 13

/-- What a signal does to a process that has made no arrangement for it. -/
inductive SignalEffect
  | finishes
  | nothing
  | stops
  | continues
deriving DecidableEq, Repr

def signalEffect (n : Nat) : SignalEffect :=
  if n = 17 ∨ n = 23 ∨ n = 28 then .nothing
  else if n = 18 then .continues
  else if 19 ≤ n ∧ n ≤ 22 then .stops
  else .finishes

/-- How a process ended: by itself with a code, or by a signal. -/
inductive Ending
  | code (n : Nat)
  | signal (n : Nat)
deriving DecidableEq, Repr

def Ending.isSuccess : Ending → Bool
  | .code 0 => true
  | _ => false

def Ending.text : Ending → String
  | .code n => "exit status: " ++ toString n
  | .signal n =>
    "signal: " ++ toString n ++ match signalName? n with
      | some name => " (SIG" ++ name ++ ")"
      | none => ""

def Ending.number : Ending → Nat
  | .code n => n
  | .signal n => 128 + n

end Stencil.Machine
