import DeltaSignature.Memory
import DeltaSignature.Params
import Std.Data.HashMap

/-!
# The signature index

The blocks of a signature, in block order and by weak sum.  Weak sums and strong sums are stored
in two columns, the second one flat with a fixed stride; a multimap from weak sums to block
numbers is kept up to date by every insertion, so the index answers look-ups at any time.
-/

namespace DeltaSignature

/-- The sums of a block, with its place in the basis counted in blocks. -/
structure Block where
  number : Nat
  weak : UInt32
  strong : ByteArray
deriving DecidableEq

/-- The place of the first byte of the block in the basis. -/
def Block.offset (block : Block) (blockLength : Nat) : Nat :=
  block.number * blockLength

/-- Why a block is not added.  Room for a block is always taken to be there, so `outOfMemory` stands
here for its text only. -/
inductive PushError where
  | strongLength (expected got : Nat)
  | outOfMemory (cause : AllocationFailure)
deriving DecidableEq, Repr

def PushError.message : PushError → String
  | .strongLength expected got => s!"strong sum is {got} bytes, index expects {expected}"
  | .outOfMemory cause => s!"out of memory growing signature index: {cause.message}"

/-- The blocks of a signature.  Those with a given weak sum are listed by number, in block order. -/
structure Index where
  params : Params
  weak : Array UInt32
  strong : ByteArray
  byWeak : Std.HashMap UInt32 (Array Nat)

namespace Index

instance : BEq Index where
  beq left right :=
    left.params == right.params && left.weak == right.weak && left.strong == right.strong
      && left.byWeak == right.byWeak

def empty (params : Params) : Index where
  params := params
  weak := #[]
  strong := .empty
  byWeak := ∅

/-- Reserves the columns and the multimap for so many blocks. -/
def reserve (memory : Memory) (params : Params) (blocks : Nat) : Except AllocationFailure Unit := do
  memory.reserve (4 * blocks)
  memory.reserve (params.strongLength * blocks)
  memory.reserve (32 * blocks)

/-- An index without blocks and with room for `hint` of them. -/
def withCapacity? (params : Params) (hint : Nat) : Except ParamsError Index :=
  match reserve .ordinary params hint with
  | .ok () => .ok (empty params)
  | .error _ => .error (.capacity hint)

def size (index : Index) : Nat :=
  index.weak.size

def distinctWeak (index : Index) : Nat :=
  index.byWeak.size

/-- Adds the next block and tells its number. -/
def push (index : Index) (weak : UInt32) (strong : ByteArray) : Except PushError (Nat × Index) :=
  if strong.size = index.params.strongLength then
    let number := index.weak.size
    .ok (number, {
      index with
      weak := index.weak.push weak
      strong := index.strong ++ strong
      byWeak := index.byWeak.alter weak fun
        | none => some #[number]
        | some numbers => some (numbers.push number) })
  else
    .error (.strongLength index.params.strongLength strong.size)

def blockAt (index : Index) (number : Nat) : Block where
  number := number
  weak := index.weak.getD number 0
  strong :=
    let start := number * index.params.strongLength
    index.strong.extract start (start + index.params.strongLength)

def block? (index : Index) (number : Nat) : Option Block :=
  if number < index.size then some (index.blockAt number) else none

def blocks (index : Index) : List Block :=
  (List.range index.size).map index.blockAt

/-- The blocks with this weak sum, in block order. -/
def lookup (index : Index) (weak : UInt32) : List Block :=
  ((index.byWeak[weak]?).getD #[]).toList.map index.blockAt

/-- The first block with this weak sum whose strong sum is a leading part of `digest`. -/
def findMatch? (index : Index) (weak : UInt32) (digest : ByteArray) : Option Block :=
  if digest.size < index.params.strongLength then none
  else
    let wanted := digest.extract 0 index.params.strongLength
    (index.lookup weak).find? fun block => block.strong == wanted

end Index

end DeltaSignature
