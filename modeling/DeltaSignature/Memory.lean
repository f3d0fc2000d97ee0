/-!
# Reserving memory

Buffers that grow with the input are reserved ahead of use, and a reservation may be refused.
-/

namespace DeltaSignature

/-- Why no memory is reserved: no block of memory can have so many bytes, or this one is refused. -/
inductive AllocationFailure where
  | capacityOverflow
  | refused
deriving DecidableEq, Repr

def AllocationFailure.message : AllocationFailure → String
  | .capacityOverflow =>
    "memory allocation failed because the computed capacity exceeded the collection's maximum"
  | .refused => "memory allocation failed because the memory allocator returned an error"

structure Memory where
  largest : Nat
deriving DecidableEq, Repr

namespace Memory

/-- A host that grants blocks of up to 64 GiB. -/
def ordinary : Memory :=
  ⟨0x10_0000_0000⟩

/-- Asks for a block; sizes that do not fit a signed 64-bit word are refused by every host. -/
def reserve (memory : Memory) (bytes : Nat) : Except AllocationFailure Unit :=
  if 0x8000_0000_0000_0000 ≤ bytes then .error .capacityOverflow
  else if memory.largest < bytes then .error .refused
  else .ok ()

end Memory

end DeltaSignature
