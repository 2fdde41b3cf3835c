import StorageBroker.Shell.Utility.Basic

/-! # Permissions

The bits that say who may read, write and run a file: how they are written, and how they are
changed. -/

set_option autoImplicit false

namespace StorageBroker.Shell

open Act

/-- The bits that a letter stands for, for its owner, its group and others. -/
def permissionBits : Char → Option Nat
  | 'r' => some 0o444
  | 'w' => some 0o222
  | 'x' => some 0o111
  | 's' => some 0o6000
  | 't' => some 0o1000
  | _ => none

def holderBits : Char → Option Nat
  | 'u' => some 0o4700
  | 'g' => some 0o2070
  | 'o' => some 0o1007
  | 'a' => some 0o7777
  | _ => none

/-- Permissions that one of the holders has, given to all of them. -/
def copiedBits (mode : Nat) : Char → Option Nat
  | 'u' => some (mode / 64 % 8 * 0o111)
  | 'g' => some (mode / 8 % 8 * 0o111)
  | 'o' => some (mode % 8 * 0o111)
  | _ => none

/-- One change of permissions: a sign and the letters after it. The bits that new files never have
are left alone if nobody is named. -/
def changedMode (isDirectory : Bool) (who : List Char) (mode : Nat) (sign : Char)
    (letters : List Char) : Option Nat := do
  let holders ← who.mapM holderBits
  let reach := if who.isEmpty then 0o7755 else holders.foldl (· ||| ·) 0
  let bits ← letters.mapM fun c =>
    if c = 'X' then some (if isDirectory || mode &&& 0o111 ≠ 0 then 0o111 else 0)
    else copiedBits mode c <|> permissionBits c
  let bits := bits.foldl (· ||| ·) 0 &&& reach
  match sign with
  | '+' => some (mode ||| bits)
  | '-' => some (mode ^^^ (mode &&& bits))
  | '=' =>
    let cleared := if who.isEmpty then 0o7777 else reach
    let cleared := if isDirectory then cleared &&& 0o1777 else cleared
    some ((mode ^^^ (mode &&& cleared)) ||| bits)
  | _ => none

def changedModes (isDirectory : Bool) (who : List Char) : (fuel : Nat) → Nat → List Char →
    Option Nat
  | _, mode, [] => some mode
  | 0, _, _ => none
  | fuel + 1, mode, sign :: rest => do
    let letters := rest.takeWhile fun c => c ∉ ['+', '-', '=']
    let mode ← changedMode isDirectory who mode sign letters
    changedModes isDirectory who fuel mode (rest.drop letters.length)

/-- The permissions that a text makes of old ones: it is a number in base 8, or a list of changes. -/
def newMode? (isDirectory : Bool) (mode : Nat) (text : String) : Option Nat :=
  if text.isEmpty then none
  else if text.toList.all Char.isDigit then
    if text.toList.all fun c => '0' ≤ c && c ≤ '7' then
      let n := text.toList.foldl (fun n c => n * 8 + (c.toNat - 48)) 0
      if n ≤ 0o7777 then some n else none
    else none
  else
    (text.splitOn ",").foldlM (fun mode clause =>
      let cs := clause.toList
      let who := cs.takeWhile fun c => c ∈ ['u', 'g', 'o', 'a']
      let changes := cs.drop who.length
      if changes.isEmpty then none
      else changedModes isDirectory who (changes.length + 1) mode changes) mode

/-- Permissions as letters, after one for the kind of the file. -/
def modeText (entry : FileEntry) (mode : Nat) : String :=
  let kind : Char := match entry with
    | .directory => 'd'
    | .link _ => 'l'
    | .sink | .zeros => 'c'
    | .file _ => '-'
  let bit (n : Nat) : Bool := mode / n % 2 = 1
  let triple (place : Nat) (special : Bool) (onBoth alone : Char) : List Char :=
    [if bit (place * 4) then 'r' else '-', if bit (place * 2) then 'w' else '-',
     match special, bit place with
     | true, true => onBoth
     | true, false => alone
     | false, true => 'x'
     | false, false => '-']
  String.ofList (kind :: triple 64 (bit 2048) 's' 'S' ++ triple 8 (bit 1024) 's' 'S' ++
    triple 1 (bit 512) 't' 'T')

def placesFrom (files : FileTree) (place : Location) : List Location :=
  place :: files.entries.keys.filter fun key => place.isPrefixOf key && key ≠ place

def chmod : Utility := fun arguments =>
  let isMode (a : String) : Bool :=
    a.startsWith "-" && 1 < a.length &&
      (a.toList.drop 1).all fun c => c ∈ ['r', 'w', 'x', 'X', 's', 't', 'u', 'g', 'o', '+', '=', ',']
  let modes := arguments.filter isMode
  let table := OptionTable.mk "Rvcf" "" ""
    [("recursive", 'R'), ("verbose", 'v'), ("changes", 'c'), ("silent", 'f'), ("quiet", 'f')] true
  table.command "chmod" 1 (fun given => do
    match modes ++ given.operands with
    | [] => misused "chmod" 1 "missing operand"
    | [text] => misused "chmod" 1 ("missing operand after '" ++ text ++ "'")
    | text :: paths =>
      if (newMode? false 0 text).isNone then
        return ← misused "chmod" 1 ("invalid mode: '" ++ text ++ "'")
      forEach paths fun path => do
        let s ← get
        match s.files.lookup s.here path with
        | .error e =>
          if given.has 'f' then return some ""
          return some ("chmod: cannot access '" ++ path ++ "': " ++ reason e)
        | .ok (place, _) =>
          let places := if given.has 'R' then placesFrom s.files place else [place]
          set { s with files := places.foldl (fun files place =>
            match files.entry? place, newMode? (files.isDirectory place) (files.mode place) text with
            | some (.link _), _ | _, none => files
            | _, some mode => files.setMode place mode) s.files }
          return none) (arguments.filter fun a => !isMode a)

end StorageBroker.Shell
