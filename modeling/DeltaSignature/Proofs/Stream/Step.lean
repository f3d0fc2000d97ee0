import DeltaSignature.Proofs.Index.Blocks
import DeltaSignature.Proofs.Stream.Pending
import DeltaSignature.Stream.Decoder

/-!
# What a decoder does in one step and in one run

`Stepped` lists the steps that a decoder can take: it reads the field awaited, refuses it, waits for
more input, finds the stream cut short, or comes to its end.  `Ran` is the chain of steps of one
run.  Room for an index is always granted, since the expected number of blocks is capped, so the
declared size of a stream shows in the notes only.
-/

namespace DeltaSignature

theorem Memory.reserve_ordinary {bytes : Nat} (small : bytes ≤ 0x10_0000_0000) :
    Memory.ordinary.reserve bytes = .ok () := by
  have fits : ¬ 0x8000_0000_0000_0000 ≤ bytes := by omega
  have granted : ¬ Memory.ordinary.largest < bytes := Nat.not_lt.2 small
  rw [reserve, if_neg fits, if_neg granted]

theorem Params.capacityHint_le (params : Params) (total : Option Nat) :
    params.capacityHint total ≤ maxCapacityHint := by
  cases total with
  | none => exact Nat.zero_le _
  | some total => exact Nat.min_le_right ..

theorem Index.withCapacity?_eq (params : Params) {hint : Nat}
    (capped : hint ≤ Params.maxCapacityHint) :
    withCapacity? params hint = .ok (empty params) := by
  have short := params.strongLength_le_max
  simp only [Params.maxCapacityHint, maxStrongLength] at capped short
  have strongRoom : params.strongLength * hint ≤ 32 * 0x40_0000 := Nat.mul_le_mul short capped
  have granted : reserve .ordinary params hint = .ok () := by
    rw [reserve, Memory.reserve_ordinary (by omega), Memory.reserve_ordinary (by omega),
      Memory.reserve_ordinary (by omega)]
    rfl
  rw [withCapacity?, granted]

namespace Decoder

theorem openIndex_eq (sizeHint : Option Nat) (tag : UInt32) (blockLength strongLength : Nat) :
    openIndex sizeHint tag blockLength strongLength =
      (Params.ofHeader? tag blockLength strongLength).map fun params =>
        (params.capacityHint sizeHint, Index.empty params) := by
  rw [openIndex]
  cases Params.ofHeader? tag blockLength strongLength with
  | error cause => rfl
  | ok params =>
    have granted := Index.withCapacity?_eq params (params.capacityHint_le sizeHint)
    simp only [bind, Except.bind, granted]
    rfl

/-- The field awaited, with the number of bytes that it has. -/
def State.awaited : State → Option (Field × Nat)
  | tag => some (.tag, 4)
  | blockLength _ => some (.blockLength, 4)
  | strongLength .. => some (.strongLength, 4)
  | weakSum _ => some (.weakSum, 4)
  | strongSum index _ => some (.strongSum, index.params.strongLength)
  | done _ => none
  | failed => none

/-- What a step answers and leaves behind. -/
inductive Stepped (decoder : Decoder) : Except LoadError Progress → Decoder → Prop where
  | tag (awaits : decoder.state = .tag) (complete : 4 ≤ decoder.queue.pending.size) :
      Stepped decoder (.ok .inProgress)
        { decoder with
          state := .blockLength (BigEndian.decode decoder.queue.pending)
          queue := decoder.queue.skip 4
          trace := decoder.trace.push (.event (.tag (BigEndian.decode decoder.queue.pending))) }
  | blockLengthRefused {tag : UInt32} {value : Int} (awaits : decoder.state = .blockLength tag)
      (complete : 4 ≤ decoder.queue.pending.size)
      (read : value = BigEndian.signed (BigEndian.decode decoder.queue.pending))
      (bad : value < 1) :
      Stepped decoder (.error (.malformed (.blockLength value)))
        { decoder with
          state := .failed
          queue := decoder.queue.skip 4
          trace := decoder.trace.push (.defect (.blockLength value)) }
  | blockLength {tag : UInt32} {value : Int} (awaits : decoder.state = .blockLength tag)
      (complete : 4 ≤ decoder.queue.pending.size)
      (read : value = BigEndian.signed (BigEndian.decode decoder.queue.pending))
      (good : ¬ value < 1) :
      Stepped decoder (.ok .inProgress)
        { decoder with
          state := .strongLength tag value.toNat
          queue := decoder.queue.skip 4
          trace := decoder.trace.push (.event (.blockLength value.toNat)) }
  | strongLengthRefused {tag : UInt32} {blockLength : Nat} {value : Int}
      (awaits : decoder.state = .strongLength tag blockLength)
      (complete : 4 ≤ decoder.queue.pending.size)
      (read : value = BigEndian.signed (BigEndian.decode decoder.queue.pending))
      (bad : value < 0 ∨ maxStrongLength < value) :
      Stepped decoder (.error (.malformed (.strongLength value)))
        { decoder with
          state := .failed
          queue := decoder.queue.skip 4
          trace := decoder.trace.push (.defect (.strongLength value)) }
  | paramsRefused {tag : UInt32} {blockLength : Nat} {value : Int} {cause : ParamsError}
      (awaits : decoder.state = .strongLength tag blockLength)
      (complete : 4 ≤ decoder.queue.pending.size)
      (read : value = BigEndian.signed (BigEndian.decode decoder.queue.pending))
      (good : ¬ (value < 0 ∨ maxStrongLength < value))
      (refused : Params.ofHeader? tag blockLength value.toNat = .error cause) :
      Stepped decoder (.error (.malformed (.params cause)))
        { decoder with
          state := .failed
          queue := decoder.queue.skip 4
          trace := decoder.trace.push (.event (.strongLength value.toNat)) }
  | strongLength {tag : UInt32} {blockLength : Nat} {value : Int} {params : Params}
      (awaits : decoder.state = .strongLength tag blockLength)
      (complete : 4 ≤ decoder.queue.pending.size)
      (read : value = BigEndian.signed (BigEndian.decode decoder.queue.pending))
      (good : ¬ (value < 0 ∨ maxStrongLength < value))
      (accepted : Params.ofHeader? tag blockLength value.toNat = .ok params) :
      Stepped decoder (.ok .inProgress)
        { decoder with
          state := .weakSum (.empty params)
          queue := decoder.queue.skip 4
          trace := (decoder.trace.push (.event (.strongLength value.toNat))).push
            (.event (.indexReady (params.capacityHint decoder.sizeHint))) }
  | weakSum {index : Index} (awaits : decoder.state = .weakSum index)
      (complete : 4 ≤ decoder.queue.pending.size) :
      Stepped decoder (.ok .inProgress)
        { decoder with
          state := .strongSum index (BigEndian.decode decoder.queue.pending)
          queue := decoder.queue.skip 4 }
  | strongSum {index : Index} {weak : UInt32} {strong : ByteArray}
      (awaits : decoder.state = .strongSum index weak)
      (complete : index.params.strongLength ≤ decoder.queue.pending.size)
      (read : strong = decoder.queue.pending.extract 0 index.params.strongLength) :
      Stepped decoder (.ok .inProgress)
        { decoder with
          state := .weakSum (index.add weak strong)
          queue := decoder.queue.skip index.params.strongLength
          blocks := decoder.blocks + 1
          trace := decoder.trace.push (.event (.block ⟨index.size, weak, strong⟩)) }
  | suspended {field : Field} {needed : Nat}
      (awaits : decoder.state.awaited = some (field, needed))
      (short : decoder.queue.pending.size < needed) (unended : decoder.queue.ended = false) :
      Stepped decoder (.ok .needMoreInput) decoder
  | truncated {field : Field} {needed : Nat}
      (awaits : decoder.state.awaited = some (field, needed))
      (short : decoder.queue.pending.size < needed) (ended : decoder.queue.ended = true)
      (inside : field = .weakSum → decoder.queue.pending.size ≠ 0) :
      Stepped decoder (.error (.malformed (.truncated field decoder.queue.pending.size needed)))
        { decoder with
          state := .failed
          trace := decoder.trace.push
            (.defect (.truncated field decoder.queue.pending.size needed)) }
  | finished {index : Index} (awaits : decoder.state = .weakSum index)
      (empty : decoder.queue.pending.size = 0) (ended : decoder.queue.ended = true) :
      Stepped decoder (.ok .done)
        { decoder with
          state := .done index
          trace := decoder.trace.push (.event (.done index.size)) }
  | done {index : Index} (settled : decoder.state = .done index) :
      Stepped decoder (.ok .done) decoder
  | failed (settled : decoder.state = .failed) : Stepped decoder (.error .terminated) decoder

theorem stepped_starve {decoder : Decoder} {field : Field} {needed : Nat}
    (awaits : decoder.state.awaited = some (field, needed))
    (short : decoder.queue.pending.size < needed)
    (inside : field = .weakSum → decoder.queue.ended = true → decoder.queue.pending.size ≠ 0) :
    Stepped decoder (decoder.starve field needed).1 (decoder.starve field needed).2 := by
  rw [starve, Queue.available_eq_size_pending]
  split
  next ended => exact .truncated awaits short ended fun weak => inside weak ended
  next unended => exact .suspended awaits short (by simpa using unended)

theorem stepped_step (decoder : Decoder) : Stepped decoder decoder.step.1 decoder.step.2 := by
  obtain ⟨state, queue, blocks, sizeHint, trace⟩ := decoder
  cases state with
  | tag =>
    rw [step, Queue.takeWord?_eq]
    by_cases complete : 4 ≤ queue.pending.size
    · rw [if_pos complete]
      exact .tag rfl complete
    · rw [if_neg complete]
      exact stepped_starve rfl (Nat.lt_of_not_le complete) (by simp)
  | blockLength tag =>
    rw [step, Queue.takeSigned?_eq]
    by_cases complete : 4 ≤ queue.pending.size
    · rw [if_pos complete]
      by_cases bad : BigEndian.signed (BigEndian.decode queue.pending) < 1
      · simp only [if_pos bad]
        exact .blockLengthRefused rfl complete rfl bad
      · simp only [if_neg bad]
        exact .blockLength rfl complete rfl bad
    · rw [if_neg complete]
      exact stepped_starve rfl (Nat.lt_of_not_le complete) (by simp)
  | strongLength tag blockLength =>
    rw [step, Queue.takeSigned?_eq]
    by_cases complete : 4 ≤ queue.pending.size
    · rw [if_pos complete]
      by_cases bad : BigEndian.signed (BigEndian.decode queue.pending) < 0 ∨
          maxStrongLength < BigEndian.signed (BigEndian.decode queue.pending)
      · simp only [if_pos bad]
        exact .strongLengthRefused rfl complete rfl bad
      · simp only [if_neg bad, openIndex_eq]
        cases header : Params.ofHeader? tag blockLength
            (BigEndian.signed (BigEndian.decode queue.pending)).toNat with
        | error cause => exact .paramsRefused rfl complete rfl bad header
        | ok params => exact .strongLength rfl complete rfl bad header
    · rw [if_neg complete]
      exact stepped_starve rfl (Nat.lt_of_not_le complete) (by simp)
  | weakSum index =>
    rw [step, Queue.takeWord?_eq]
    by_cases complete : 4 ≤ queue.pending.size
    · rw [if_pos complete]
      exact .weakSum rfl complete
    · rw [if_neg complete]
      simp only [Queue.available_eq_size_pending]
      by_cases atEnd : queue.ended = true ∧ queue.pending.size = 0
      · rw [if_pos atEnd]
        exact .finished rfl atEnd.2 atEnd.1
      · rw [if_neg atEnd]
        exact stepped_starve rfl (Nat.lt_of_not_le complete)
          fun _ ended empty => atEnd ⟨ended, empty⟩
  | strongSum index weak =>
    rw [step, Queue.take?_eq]
    by_cases complete : index.params.strongLength ≤ queue.pending.size
    · rw [if_pos complete]
      simp only [Index.push_eq, if_pos (size_take complete)]
      exact .strongSum rfl complete rfl
    · rw [if_neg complete]
      exact stepped_starve rfl (Nat.lt_of_not_le complete) (by simp)
  | done index => exact .done rfl
  | failed => exact .failed rfl

/-- What a run answers and leaves behind. -/
inductive Ran : Decoder → Except LoadError Progress → Decoder → Prop where
  | last {decoder next : Decoder} {answer : Except LoadError Progress}
      (stepped : Stepped decoder answer next) (stops : answer ≠ .ok .inProgress) :
      Ran decoder answer next
  | more {decoder middle next : Decoder} {answer : Except LoadError Progress}
      (stepped : Stepped decoder (.ok .inProgress) middle) (ran : Ran middle answer next) :
      Ran decoder answer next

theorem ran_run (decoder : Decoder) : Ran decoder decoder.run.1 decoder.run.2 := by
  fun_induction run decoder with
  | case1 decoder next stepped ih =>
    have first := stepped_step decoder
    rw [stepped] at first
    exact .more first ih
  | case2 decoder stops =>
    refine .last (stepped_step decoder) fun goesOn => ?_
    exact stops decoder.step.2 (Prod.ext goesOn rfl)

/-- A run that reports no error keeps what all steps keep that report none. -/
theorem Ran.keeps (keeps : Decoder → Prop)
    (step : ∀ {decoder next : Decoder} {progress : Progress},
      Stepped decoder (.ok progress) next → keeps decoder → keeps next)
    {decoder next : Decoder} {answer : Except LoadError Progress} {progress : Progress}
    (ran : Ran decoder answer next) (succeeded : answer = .ok progress) (kept : keeps decoder) :
    keeps next := by
  induction ran with
  | last stepped =>
    subst succeeded
    exact step stepped kept
  | more stepped ran ih => exact ih succeeded (step stepped kept)

end Decoder

end DeltaSignature
