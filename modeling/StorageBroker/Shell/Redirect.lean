import StorageBroker.Shell.State

/-! # Redirections

How descriptors are turned to other places, and put back. -/

set_option autoImplicit false

namespace StorageBroker.Shell

open Act

def pathDescriptor? (path : String) : Option Nat :=
  match path with
  | "/dev/stdin" => some 0
  | "/dev/stdout" => some 1
  | "/dev/stderr" => some 2
  | _ => if path.startsWith "/dev/fd/" then (path.drop 8).toNat? else none

/-- Turns a descriptor to a place, to where another one leads, or to the text of a document; a message
says why that cannot be done. -/
def redirect (descriptor : Nat) (kind : RedirectionKind) (target : String) :
    Act (Option String) := do
  let s ← get
  let refused (message : String) : Act (Option String) := return some (s.messageStart ++ message)
  let duplicate (other : Nat) : Act (Option String) := do
    match s.channels.get? other with
    | some channel =>
      set (s.turned descriptor channel)
      return none
    | none => refused (toString other ++ ": Bad file descriptor")
  match kind, pathDescriptor? target with
  | .document, _ =>
    set (s.feeding descriptor target false)
    return none
  | .duplicate, _ =>
    if target = "-" then
      set { s with channels := s.channels.erase descriptor }
      return none
    match target.toNat? with
    | some other => duplicate other
    | none => abort "Syntax error: Bad fd number"
  | _, some other => duplicate other
  | .input, none =>
    match s.files.read s.here target with
    | .ok content =>
      set (s.feeding descriptor content true)
      return none
    | .error .isADirectory =>
      set (s.turned descriptor .unseen)
      return none
    | .error .permissionDenied => refused ("cannot open " ++ target ++ ": Permission denied")
    | .error _ => refused ("cannot open " ++ target ++ ": No such file")
  | kind, none =>
    let keep : String → String := if kind = .append then id else fun _ => ""
    let isKept := kind = .output && s.hasOption 'C' &&
      match s.files.lookup s.here target with
      | .ok (_, .file _) => true
      | _ => false
    if isKept then return ← refused ("cannot create " ++ target ++ ": File exists")
    match s.files.update s.here target keep with
    | .error e =>
      let why := match e with
        | .isADirectory => "Is a directory"
        | .notADirectory => "Not a directory"
        | .permissionDenied => "Permission denied"
        | _ => "Directory nonexistent"
      refused ("cannot create " ++ target ++ ": " ++ why)
    | .ok files =>
      set { s with files }
      match files.locate s.here target with
      | .ok place => modify fun s => s.turned descriptor (.file place)
      | .error _ => modify fun s => s.turned descriptor .unseen
      return none

def redirected {α : Type} (redirections : List Redirection) (turn : Act (Option String))
    (refused : String → Act α) (act : Act α) : Act α := do
  let before ← get
  let result ← attempt do
    match ← turn with
    | some message => refused message
    | none => act
  modify fun s =>
    { s with
      channels := redirections.foldl (fun channels redirection =>
        match redirection with
        | .mk descriptor _ _ =>
          match before.channels.get? descriptor with
          | some channel => channels.insert descriptor channel
          | none => channels.erase descriptor) s.channels }
  resume result

end StorageBroker.Shell
