import StorageBroker.Shell.State

/-! # The flow of a script

What is done around commands, whatever they are: stages and cases, rounds of loops, commands of the
script's own, signals, and the end of a shell. -/

set_option autoImplicit false

namespace StorageBroker.Shell

open Act

/-- Sets the status, and ends the shell if it is to stop at a failure that nobody tests. -/
def conclude (tested : Bool) (status : Nat) : Act Unit := do
  modify fun s => { s with status }
  if status ≠ 0 && !tested && (← get).hasOption 'e' then throw (.exit status)

/-- Runs the body of the first case whose condition succeeds, or what is done otherwise. -/
def runFirst (holds : Command → Act Bool) (run : Command → Act Unit) (otherwise : Option Command) :
    List (Command × Command) → Act Unit
  | [] =>
    match otherwise with
    | none => modify fun s => { s with status := 0 }
    | some c => run c
  | (condition, body) :: rest => do
    if ← holds condition then run body else runFirst holds run otherwise rest

def firstFitting (fits : Word → Act Bool) : List (List Word × Command) → Act (Option Command)
  | [] => return none
  | (patterns, body) :: rest => do
    if ← patterns.anyM fits then return some body
    firstFitting fits rest

/-- Does one round of a loop, which tells whether there is to be another one; the loop can be left,
or the round, from within. -/
def oneRound (round : Act Bool) : Act Bool := do
  modify fun s => { s with loops := s.loops + 1 }
  let result ← attempt round
  modify fun s => { s with loops := s.loops - 1 }
  match result with
  | .error (.leave (n + 2)) => throw (.leave (n + 1))
  | .error (.again (n + 2)) => throw (.again (n + 1))
  | .error (.leave _) => return false
  | .error (.again _) => return true
  | _ => resume result

/-- How often a loop with a condition may go round. -/
def roundLimit : Nat := 1000000

/-- Does the body of a loop as long as its condition holds, at most so many times; the status is that
of the last time. -/
def goRound (holds : Act Bool) (body : Act Unit) : (rounds : Nat) → (status : Nat) → Act Unit
  | 0, _ => throw (.exit 2)
  | left + 1, status => do
    let goesOn ← oneRound do
      if ← holds then
        body
        return true
      modify fun s => { s with status }
      return false
    if goesOn then goRound holds body left (← get).status

/-- Does a round of a loop for each of some values. -/
def goThrough (act : String → Act Unit) : List String → Act Unit
  | [] => return ()
  | value :: rest => do
    let goesOn ← oneRound do
      act value
      return true
    if goesOn then goThrough act rest

/-- How deep calls of commands of the script's own may be nested. -/
def callLimit : Nat := 1000

/-- Runs the body of a command of the script's own with arguments. -/
def called (arguments : List String) (body : Act Unit) : Act Unit := do
  let before ← get
  if callLimit ≤ before.calls then
    abort ("Maximum function recursion depth (" ++ toString callLimit ++ ") reached")
  set { before with
    arguments, shadowed := some [], calls := before.calls + 1, loops := 0, optionIndex := 1
    optionOffset := none }
  let result ← attempt body
  restore ((← get).shadowed.getD [])
  modify fun s =>
    { s with
      arguments := before.arguments, shadowed := before.shadowed, calls := before.calls
      loops := before.loops
      optionIndex := before.optionIndex, optionOffset := before.optionOffset }
  match result with
  | .error (.back status) => modify fun s => { s with status }
  | _ => resume result

/-- Does what the traps say about the signals that have come. -/
def heed (follow : String → Act Unit) : Act Unit := do
  let s ← get
  set { s with arrived := [] }
  for action in s.arrived.filterMap s.traps.get? do follow action
  modify fun now => { now with status := s.status }

/-- Does everything that a shell does: at its end, what the trap for that says. -/
def wholly (follow : String → Act Unit) (act : Act Unit) : Act Unit := do
  let ended (result : Except Stop Unit) : Act Unit :=
    match result with
    | .error (.exit status) | .error (.back status) => modify fun s => { s with status }
    | .error (.killed signal) => throw (.killed signal)
    | .error .expired => throw .expired
    | _ => return ()
  ended (← attempt act)
  let s ← get
  match s.traps.get? 0 with
  | none => return ()
  | some action =>
    set { s with traps := s.traps.erase 0 }
    let result ← attempt (follow action)
    modify fun now => { now with status := s.status }
    ended result

/-- Does something in a shell of its own, which does at its end what a trap of its own says. -/
def inSubshell (follow : String → Act Unit) (act : Act Unit) : Act Unit :=
  apart (wholly follow do
    modify fun s => { s with traps := s.traps.erase 0 }
    act)

/-- Runs stages of which each reads what the one before it has written; they know the status from
before all of them. -/
def runStages (run : Command → Act Unit) (before : Nat) : List Command → Act Unit
  | [] => return ()
  | [last] => do
    modify fun s => { s with status := before }
    run last
  | stage :: rest => do
    let written ← capturing do
      modify fun s => { s with status := before }
      run stage
    withInput written (runStages run before rest)

end StorageBroker.Shell
