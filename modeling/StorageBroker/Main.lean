import Std.Async.Signal
import StorageBroker.CommandLine.Launch
import StorageBroker.Host.Running

/-! # The program

Carries a command line out on the host: what it finds is read, what it comes to is written, and a
daemon serves until it is interrupted. -/

set_option autoImplicit false

namespace StorageBroker.Program

open Std.Async

def environment : IO (List (String × String)) := do
  let names := ["REEF_SERVER", "REEF_MOVER_ADDRESS", "RUST_LOG"]
  names.filterMapM fun name => do return (← IO.getEnv name).map fun value => (name, value)

def usualConfig : IO String := do
  let below ← match ← IO.getEnv "XDG_CONFIG_HOME" with
    | some directory =>
      if directory.startsWith "/" then pure directory
      else pure ((← IO.getEnv "HOME").getD "" ++ "/.config")
    | none => pure ((← IO.getEnv "HOME").getD "" ++ "/.config")
  return below ++ "/reef/reefd.toml"

/-- What a launch finds on the host. The settings are read first, then what they name. -/
def surroundings (arguments : List String) : IO Surroundings := do
  let here := Disk.place (toString (← IO.currentDir))
  let s : Surroundings := {
    files := .workspace here
    here
    usualConfig := ← usualConfig
    environment := ← environment
    listen := SocketAddress.ofText
    processId := (← Std.Internal.UV.System.osGetPid).toNat }
  let look (s : Surroundings) : IO Surroundings := do
    let files ← (Launch.paths s arguments).foldlM (fun t path => Disk.lookAlong t here path) s.files
    return { s with files }
  look (← look s)

def finish (exit : Exit) : IO UInt32 := do
  IO.print exit.out
  IO.eprint exit.err
  return UInt32.ofNat exit.code

def milliseconds (nanoseconds : Nat) : String :=
  let tenths := (nanoseconds + 50000) / 100000
  toString (tenths / 10) ++ "." ++ toString (tenths % 10)

def interrupted : IO Unit := do
  let waiter ← Signal.Waiter.mk .sigint false
  let _ ← (← waiter.wait).block

/-- Serves until an interrupt. A service then takes down what it has deployed. -/
def serve (daemon : Daemon) (here : Location) (server : TCP.Socket.Server) : IO Unit := do
  match daemon.role with
  | .service config =>
    let running ← RunningService.fresh config
    let _ ← (Socket.acceptAll server running.handle).toIO
    interrupted
    let _ ← (running.call .shutdown).block
  | .controller controller =>
    let running : RunningController := ⟨controller, here, ← Std.Mutex.new ()⟩
    let _ ← (Socket.acceptAll server running.handle).toIO
    interrupted

def run (arguments : List String) : IO UInt32 := do
  let s ← surroundings arguments
  match launch s arguments with
  | .exited exit files =>
    Disk.commit s.files files
    finish exit
  | .asking server request answered =>
    let start ← IO.monoNanosNow
    let answer ← (Socket.ask server request).block
    finish (answered (milliseconds ((← IO.monoNanosNow) - start)) answer)
  | .serving daemon files out err =>
    match ← Socket.listen daemon.address with
    | .error e =>
      match launch { s with listen := fun _ => .error e } arguments with
      | .exited exit files =>
        Disk.commit s.files files
        finish exit
      | _ => return 1
    | .ok server =>
      Disk.commit s.files files
      IO.print out
      IO.eprint err
      (← IO.getStdout).flush
      serve daemon s.here server
      Disk.commit files (daemon.leave files s.here)
      return 0

end StorageBroker.Program

def main (arguments : List String) : IO UInt32 := StorageBroker.Program.run arguments
