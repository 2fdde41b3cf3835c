/-! # Identifiers

Every entity is named by a 64-bit number that one allocator hands out, so a number names at most
one entity of any kind. -/

set_option autoImplicit false

namespace StorageBroker

structure JobId where
  raw : UInt64
  deriving DecidableEq, Repr

structure AdhocId where
  raw : UInt64
  deriving DecidableEq, Repr

/-- Names a parallel file system. -/
structure PfsId where
  raw : UInt64
  deriving DecidableEq, Repr

structure TransferId where
  raw : UInt64
  deriving DecidableEq, Repr

structure OperationId where
  raw : UInt64
  deriving DecidableEq, Repr

instance : ToString JobId := ⟨fun id => toString id.raw⟩
instance : ToString AdhocId := ⟨fun id => toString id.raw⟩
instance : ToString PfsId := ⟨fun id => toString id.raw⟩
instance : ToString TransferId := ⟨fun id => toString id.raw⟩
instance : ToString OperationId := ⟨fun id => toString id.raw⟩

/-- Hands out 1, 2, 3 and so on; `issued` counts what was handed out. -/
structure IdAllocator where
  issued : Nat
  deriving DecidableEq, Repr

namespace IdAllocator

def fresh : IdAllocator := ⟨0⟩

instance : Inhabited IdAllocator := ⟨fresh⟩

/-- The next number. The largest word is never handed out, and nothing is after the one before it. -/
def allocate (ids : IdAllocator) : Option (UInt64 × IdAllocator) :=
  if ids.issued + 2 < UInt64.size then some (UInt64.ofNat (ids.issued + 1), ⟨ids.issued + 1⟩)
  else none

theorem allocate_some {ids next : IdAllocator} {raw : UInt64}
    (drawn : ids.allocate = some (raw, next)) :
    raw.toNat = ids.issued + 1 ∧ next.issued = ids.issued + 1 := by
  simp only [allocate] at drawn
  split at drawn
  · obtain ⟨rfl, rfl⟩ := Prod.mk.inj (Option.some.inj drawn)
    refine ⟨?_, rfl⟩
    rw [UInt64.toNat_ofNat', Nat.mod_eq_of_lt]
    rename_i room
    simp only [UInt64.size] at room
    omega
  · exact absurd drawn (by simp)

/-- The first `n` numbers, fewer if they run out. -/
def take : Nat → IdAllocator → List UInt64 × IdAllocator
  | 0, ids => ([], ids)
  | n + 1, ids =>
    match ids.allocate with
    | none => ([], ids)
    | some (raw, rest) =>
      let (more, last) := take n rest
      (raw :: more, last)

end IdAllocator

/-- A store together with the allocator that it draws its numbers from. -/
structure Numbered (σ : Type) where
  ids : IdAllocator
  store : σ

instance {σ : Type} [Inhabited σ] : Inhabited (Numbered σ) := ⟨⟨.fresh, default⟩⟩

end StorageBroker
