import StorageBroker.Shell.Utility.Files
import StorageBroker.Text.Calendar

/-! # What the system is

Utilities that tell what runs the shell, and when. The clock of a shell counts from the start of
1970. -/

set_option autoImplicit false

namespace StorageBroker.Shell

open Act

def telling (line : String) : Utility := fun _ => do
  print (line ++ "\n")
  return 0

def hostName : String := "localhost"

def uname : Utility :=
  (OptionTable.mk "asnrvmpio" "" "" [("all", 'a'), ("kernel-name", 's'), ("nodename", 'n'),
    ("machine", 'm'), ("operating-system", 'o')] true).command "uname" 1 fun given => do
  let names := [('s', "Linux"), ('n', hostName), ('r', "6.1.0"), ('v', "#1 SMP"), ('m', "x86_64"),
    ('o', "GNU/Linux")]
  let shown := names.filter fun (letter, _) =>
    given.has 'a' || given.has letter || (given.options.isEmpty && letter = 's')
  print (" ".intercalate (shown.map Prod.snd) ++ "\n")
  return 0

def id : Utility := fun arguments => do
  let letters := arguments.flatMap fun a => a.toList.drop 1
  let shown :=
    if letters.isEmpty then "uid=0(root) gid=0(root) groups=0(root)"
    else if 'n' ∈ letters then "root" else "0"
  print (shown ++ "\n")
  return 0

def tty : Utility := fun arguments => do
  if !arguments.any fun a => a ∈ ["-s", "--silent", "--quiet"] then print "not a tty\n"
  return 1

/-! ## Dates -/

/-- The format of a date that tells it up to a part of a day. -/
def isoFormat? (part : String) : Option String :=
  match part with
  | "" | "date" => some "%Y-%m-%d"
  | "hours" => some "%Y-%m-%dT%H+00:00"
  | "minutes" => some "%Y-%m-%dT%H:%M+00:00"
  | "seconds" => some "%Y-%m-%dT%H:%M:%S+00:00"
  | "ns" => some "%Y-%m-%dT%H:%M:%S,%N+00:00"
  | _ => none

def dateOptions : OptionTable :=
  ⟨"uR", "dr", "I", [("utc", 'u'), ("universal", 'u'), ("date", 'd'), ("reference", 'r'),
    ("iso-8601", 'I'), ("rfc-email", 'R')], true⟩

def date : Utility := dateOptions.command "date" 1 fun given => do
  let s ← get
  let now : Int := s.clock / 1000
  let nanoseconds := s.clock % 1000 * 1000000
  let write (seconds : Int) (nanoseconds : Nat) (format : String) : Act Nat := do
    print ((Text.Moment.ofSeconds seconds).text nanoseconds format ++ "\n")
    return 0
  let written (format : String) : Act Nat := do
    match given.value? 'd', given.value? 'r' with
    | some text, _ =>
      match Text.secondsOfText? now text with
      | some seconds => write seconds 0 format
      | none => failing 1 ("date: invalid date '" ++ text ++ "'")
    | none, some path =>
      match s.files.lookup s.here path with
      | .ok _ => write 0 0 format
      | .error e => failing 1 ("date: " ++ path ++ ": " ++ reason e)
    | none, none => write now nanoseconds format
  match given.operands with
  | [] =>
    if given.has 'R' then written "%a, %d %b %Y %H:%M:%S +0000"
    else
      match given.value? 'I' with
      | none => written "%a %b %e %H:%M:%S %Z %Y"
      | some part =>
        match isoFormat? part with
        | some format => written format
        | none => misused "date" 1 ("invalid argument '" ++ part ++ "' for '--iso-8601'")
  | [operand] =>
    if operand.startsWith "+" then written (operand.drop 1).toString
    else failing 1 ("date: invalid date '" ++ operand ++ "'")
  | _ :: extra :: _ => misused "date" 1 ("extra operand '" ++ extra ++ "'")

def systemUtilities : List (String × Utility) :=
  [("uname", uname), ("id", id), ("whoami", telling "root"), ("logname", telling "root"),
   ("groups", telling "root"), ("hostname", telling hostName), ("nproc", telling "1"),
   ("arch", telling "x86_64"), ("tty", tty), ("date", date)]

end StorageBroker.Shell
