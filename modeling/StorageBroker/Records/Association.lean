import StorageBroker.Records.Value
import StorageBroker.Table

/-! # Arrays

An array has a value for each of some keys. Keys are texts; those that are written as whole numbers
can be used as such. The order in which an array gives its keys hangs on where a hash of their text
puts them, and of those in one place the one comes first that was used last. -/

set_option autoImplicit false

namespace StorageBroker.Records

/-- A key: a text, or a whole number. -/
inductive Key
  | text (s : String)
  | whole (n : Int)
  deriving DecidableEq, Repr

def Key.toText : Key → String
  | text s => s
  | whole n => toString n

def Key.ofValue (format : String) (value : Value) : Key :=
  match value with
  | .number x =>
    if x == truncated x && -9007199254740992 ≤ x && x ≤ 9007199254740992 then whole (wholePart x)
    else text (numberText format x)
  | _ => text (value.toText format)

/-- An array. It knows the order in which its keys were last used as texts, if they have ever been,
and as numbers, the latest first; the order of one that was made by cutting a text into pieces stands
still at first. -/
structure Association where
  entries : Table String Value
  byText : Option (List String)
  byNumber : List Int
  isCut : Bool

namespace Association

def empty : Association := ⟨.empty, none, [], false⟩

def ofPieces (pieces : List Value) : Association :=
  { entries := pieces.zipIdx.foldl (fun t (value, n) => t.insert (toString (n + 1)) value) .empty
    byText := none
    byNumber := (List.range pieces.length).reverse.map fun n => ((n + 1 : Nat) : Int)
    isCut := true }

def hash (s : String) : UInt32 :=
  s.toUTF8.toList.foldl (fun h byte => (h ^^^ byte.toUInt32) * 16777619) 2166136261

def places (keys : Nat) : (fuel places : Nat) → Nat
  | 0, n => n
  | fuel + 1, n => if keys ≤ 12 * n then n else places keys fuel (2 * n)

def placeCount (a : Association) : Nat := places a.entries.size 40 64

def inPlaces {α : Type} (count : Nat) (place : α → Nat) (items : List α) : List α :=
  items.mergeSort fun x y => place x % count ≤ place y % count

/-- The order of keys as texts; those that were used as numbers only come in from now on. -/
def textOrder (a : Association) : List String :=
  match a.byText with
  | some order => order
  | none =>
    ((inPlaces a.placeCount (fun n => (n % 4294967296).toNat) a.byNumber).map toString).reverse

def toFront {α : Type} [DecidableEq α] (x : α) (items : List α) : List α :=
  x :: items.filter (· ≠ x)

def used (a : Association) (key : Key) : Association :=
  match key with
  | .text s => { a with byText := some (toFront s a.textOrder), isCut := false }
  | .whole n =>
    if n ∈ a.byNumber then
      if a.isCut then a else { a with byNumber := toFront n a.byNumber }
    else
      { a with
        byText := a.byText.map (toFront (toString n))
        byNumber := n :: a.byNumber
        isCut := false }

def find (a : Association) (key : Key) : Option Value × Association :=
  match a.entries.get? key.toText with
  | some value => (some value, a.used key)
  | none =>
    match key with
    | .text _ => (none, { a with byText := some a.textOrder, isCut := false })
    | .whole _ => (none, a)

def insert (a : Association) (key : Key) (value : Value) : Association :=
  { a.used key with entries := a.entries.insert key.toText value }

def erase (a : Association) (key : Key) : Association :=
  { a with
    entries := a.entries.erase key.toText
    byText := a.byText.map (·.filter (· ≠ key.toText))
    byNumber := a.byNumber.filter (toString · ≠ key.toText) }

def keys (a : Association) : List String × Association :=
  let order := a.textOrder
  (inPlaces a.placeCount (fun s => (hash s).toNat) order,
    { a with byText := some order, isCut := false })

end Association

end StorageBroker.Records
