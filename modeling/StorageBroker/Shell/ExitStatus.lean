/-! # Exit statuses

How a process ends: with a number of its own, or by a signal. -/

set_option autoImplicit false

namespace StorageBroker

inductive ExitStatus
  | exited (code : Nat)
  | signalled (signal : Nat)
  deriving DecidableEq, Repr

namespace ExitStatus

def signals : List (Nat × String) :=
  [(1, "HUP"), (2, "INT"), (3, "QUIT"), (4, "ILL"), (5, "TRAP"), (6, "ABRT"), (7, "BUS"),
   (8, "FPE"), (9, "KILL"), (10, "USR1"), (11, "SEGV"), (12, "USR2"), (13, "PIPE"), (14, "ALRM"),
   (15, "TERM"), (16, "STKFLT"), (24, "XCPU"), (25, "XFSZ"), (26, "VTALRM"), (27, "PROF"),
   (29, "IO"), (30, "PWR"), (31, "SYS")]

/-- Whether a process has done what it was asked to do. -/
def succeeded (s : ExitStatus) : Bool := s = .exited 0

def text : ExitStatus → String
  | .exited code => "exit status: " ++ toString code
  | .signalled signal =>
    "signal: " ++ toString signal ++
      match signals.lookup signal with
      | some name => " (SIG" ++ name ++ ")"
      | none => ""

end ExitStatus

end StorageBroker
