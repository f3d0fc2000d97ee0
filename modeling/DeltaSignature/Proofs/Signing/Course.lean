import DeltaSignature.Proofs.Signing.Blocks
import DeltaSignature.Proofs.SlidingWindow.Steady

/-!
# The course of signing

Signing asks a window for one block after the other and adds a record for each.  It stops at the
end of the basis, at a view that is refused or at a record that the sink does not take, and each
time the sink holds the signature of the blocks so far, with a part of the next record at most.
`Walked` says how far the window has come; `Stopped` and `Ended` say once how signing can end.
-/

namespace DeltaSignature

namespace Generator

variable {σ τ : Type}

section Walking

variable [ByteSource σ] {basis : ByteArray} {stands : σ → Nat → Prop}
  {first window next : SlidingWindow σ} {blockLength number : Nat} {view : SlidingWindow.View}

/-- The window has been asked for the blocks before this one, and has shown each of them whole. -/
inductive Walked (first : SlidingWindow σ) (blockLength : Nat) : Nat → SlidingWindow σ → Prop where
  | zero : Walked first blockLength 0 first
  | succ {number : Nat} {window next : SlidingWindow σ} {view : SlidingWindow.View}
      (walked : Walked first blockLength number window)
      (answer : window.request (number * blockLength) blockLength = (.ok view, next))
      (whole : view.bytes.size = blockLength) : Walked first blockLength (number + 1) next

/-- The window is ready to be asked for a block: it reaches the start of it, or up to there. -/
structure Ready (basis : ByteArray) (stands : σ → Nat → Prop) (blockLength number : Nat)
    (window : SlidingWindow σ) : Prop where
  faithful : SlidingWindow.Faithful basis stands window
  start_le : window.start ≤ number * blockLength
  le_stop : number * blockLength ≤ window.stop
  inside : number * blockLength ≤ basis.size

/-- What the view of the next block shows. -/
structure Viewed (basis : ByteArray) (blockLength number : Nat) (view : SlidingWindow.View) :
    Prop where
  bytes_eq : view.bytes = basisBlock basis blockLength number
  ended_of_short : view.bytes.size < blockLength → view.ended = true
  size_le_of_ended : view.ended = true → basis.size ≤ number * blockLength + view.bytes.size

theorem Viewed.size_eq (viewed : Viewed basis blockLength number view) :
    view.bytes.size =
      min (number * blockLength + blockLength) basis.size - number * blockLength := by
  rw [viewed.bytes_eq, size_basisBlock, Nat.succ_mul]

theorem Ready.viewed (serves : ByteSource.Serves basis stands)
    (ready : Ready basis stands blockLength number window)
    (answer : window.request (number * blockLength) blockLength = (.ok view, next)) :
    Viewed basis blockLength number view := by
  have shows := ready.faithful.shows serves ⟨number * blockLength, blockLength⟩
    (congrArg Prod.fst answer)
  refine ⟨?_, shows.ended_of_short, shows.size_le_of_ended⟩
  rw [shows.bytes_eq, SlidingWindow.extract_min_size, basisBlock_eq]

/-- A block that was shown whole leaves the window ready for the next one. -/
theorem Ready.succ (serves : ByteSource.Serves basis stands)
    (ready : Ready basis stands blockLength number window)
    (answer : window.request (number * blockLength) blockLength = (.ok view, next))
    (whole : view.bytes.size = blockLength) :
    Ready basis stands blockLength (number + 1) next := by
  have requested := SlidingWindow.requested_of_answer answer
  obtain ⟨-, forward, -⟩ := ready.faithful.granted serves requested rfl
  have covered := ready.faithful.le_stop_of_granted serves requested rfl ready.inside
  have extent := (ready.viewed serves answer).size_eq
  have inside := ready.inside
  rw [whole] at covered extent
  refine ⟨ready.faithful.requested serves requested, ?_, ?_, ?_⟩
  all_goals rw [Nat.succ_mul]
  · exact Nat.le_add_right_of_le forward
  · exact covered
  · omega

theorem Walked.ready (serves : ByteSource.Serves basis stands)
    (faithful : SlidingWindow.Faithful basis stands first) (unmoved : first.start = 0)
    (walked : Walked first blockLength number window) :
    Ready basis stands blockLength number window := by
  induction walked with
  | zero =>
    rw [← Nat.zero_mul blockLength] at unmoved
    refine ⟨faithful, Nat.le_of_eq unmoved, ?_, ?_⟩
    all_goals
      rw [Nat.zero_mul]
      exact Nat.zero_le _
  | succ walked answer whole ready => exact ready.succ serves answer whole

theorem Walked.setting_eq (walked : Walked first blockLength number window) :
    window.limits = first.limits ∧ window.memory = first.memory := by
  induction walked with
  | zero => exact ⟨rfl, rfl⟩
  | succ walked answer whole same =>
    obtain ⟨sameLimits, sameMemory⟩ := (SlidingWindow.requested_of_answer answer).setting_eq
    exact ⟨sameLimits.trans same.1, sameMemory.trans same.2⟩

end Walking

variable {generator : Generator} {basis before : ByteArray} {stands : σ → Nat → Prop}
  {holds stuck : τ → ByteArray → Prop} {first window : SlidingWindow σ} {writer : Writer τ}
  {number : Nat} [ByteSource σ]

/-- How signing the blocks of a basis can stop, and what it leaves in the sink. -/
inductive Stopped (generator : Generator) (basis before : ByteArray)
    (holds stuck : τ → ByteArray → Prop) (first : SlidingWindow σ) :
    Except GenerateError Nat → Writer τ → SlidingWindow σ → Prop where
  | complete {writer : Writer τ} {window : SlidingWindow σ}
      (wrote : writer.Wrote holds before generator.params
        (generator.sums basis (blockCount basis.size generator.params.blockLength))) :
      Stopped generator basis before holds stuck first (.ok basis.size) writer window
  | unviewed {number : Nat} {writer : Writer τ} {window next : SlidingWindow σ}
      {cause : WindowError}
      (wrote : writer.Wrote holds before generator.params (generator.sums basis number))
      (walked : Walked first generator.params.blockLength number window)
      (refused : window.request (number * generator.params.blockLength)
        generator.params.blockLength = (.error cause, next)) :
      Stopped generator basis before holds stuck first (.error (.window cause)) writer next
  | unwritten {number taken : Nat} {writer : Writer τ} {window : SlidingWindow σ}
      {failure : IoFailure}
      (inside : number < blockCount basis.size generator.params.blockLength)
      (cut : taken < (generator.record basis number).size)
      (stopped : stuck writer.sink (before ++ generator.signature basis number ++
        (generator.record basis number).extract 0 taken)) :
      Stopped generator basis before holds stuck first (.error (.io failure)) writer window

variable [ByteSink τ]

/-- From the start of any block on, signing stops in one of these ways. -/
theorem signFrom_stopped (serves : ByteSource.Serves basis stands)
    (appends : ByteSink.Appends holds stuck)
    (faithful : SlidingWindow.Faithful basis stands first) (unmoved : first.start = 0)
    (walked : Walked first generator.params.blockLength number window)
    (wrote : writer.Wrote holds before generator.params (generator.sums basis number)) :
    Stopped generator basis before holds stuck first
      (generator.signFrom writer window (number * generator.params.blockLength)).1
      (generator.signFrom writer window (number * generator.params.blockLength)).2.1
      (generator.signFrom writer window (number * generator.params.blockLength)).2.2 := by
  generalize place : number * generator.params.blockLength = offset
  have positive := generator.params.blockLength_pos
  fun_induction Generator.signFrom generator writer window offset generalizing number with
  | case1 writer window offset cause next refused =>
    subst place
    exact .unviewed wrote walked refused
  | case2 writer window offset shown block ended next answer nothing =>
    subst place
    have ready := walked.ready serves faithful unmoved
    have extent : block.size = _ := (ready.viewed serves answer).size_eq
    have inside := ready.inside
    have atEnd : number * generator.params.blockLength = basis.size := by omega
    have last : blockCount basis.size generator.params.blockLength = number :=
      blockCount_eq (Nat.le_of_eq atEnd.symm) (by omega)
    rw [atEnd]
    exact .complete (last ▸ wrote)
  | case3 writer window offset shown block ended next answer something failure written failed =>
    subst place
    have ready := walked.ready serves faithful unmoved
    have viewed := ready.viewed serves answer
    have extent : block.size = _ := viewed.size_eq
    have inside : number < blockCount basis.size generator.params.blockLength :=
      lt_blockCount positive (by omega)
    obtain rfl : block = _ := viewed.bytes_eq
    obtain ⟨taken, cut, stopped⟩ :=
      wrote.stuck_of_add appends (generator.strong.size_sum _ generator.strongLength_le) failed
    exact .unwritten inside cut stopped
  | case4 writer window offset shown block next something written added answer =>
    subst place
    have ready := walked.ready serves faithful unmoved
    have viewed := ready.viewed serves answer
    have extent : block.size = _ := viewed.size_eq
    have reaches : basis.size ≤ _ + block.size := viewed.size_le_of_ended rfl
    have inside := ready.inside
    have atEnd : number * generator.params.blockLength + block.size = basis.size := by omega
    have last : blockCount basis.size generator.params.blockLength = number + 1 :=
      blockCount_eq (by rw [Nat.succ_mul]; omega) (by rw [Nat.succ_mul]; omega)
    obtain rfl : block = _ := viewed.bytes_eq
    have wroteNext :=
      wrote.added appends (generator.strong.size_sum _ generator.strongLength_le) added
    rw [← sums_succ, ← last] at wroteNext
    rw [atEnd]
    exact .complete wroteNext
  | case5 writer window offset shown block ended next answer something written added unended ih =>
    subst place
    have ready := walked.ready serves faithful unmoved
    have viewed := ready.viewed serves answer
    have extent : block.size = _ := viewed.size_eq
    have whole : block.size = generator.params.blockLength := by
      have short := mt viewed.ended_of_short unended
      simp only at short
      omega
    have walkedNext := walked.succ answer whole
    obtain rfl : block = _ := viewed.bytes_eq
    have wroteNext :=
      wrote.added appends (generator.strong.size_sum _ generator.strongLength_le) added
    rw [← sums_succ] at wroteNext
    apply ih walkedNext wroteNext
    rw [whole, Nat.succ_mul]

/-- How the signing of a basis can end, and what it leaves in the sink. -/
inductive Ended (generator : Generator) (basis before : ByteArray)
    (holds stuck : τ → ByteArray → Prop) (first : SlidingWindow σ) : Result σ τ → Prop where
  | headless {taken : Nat} {sink : τ} {failure : IoFailure} (cut : taken < 12)
      (stopped : stuck sink (before ++ generator.params.header.extract 0 taken)) :
      Ended generator basis before holds stuck first ⟨.error (.io failure), none, first, sink⟩
  | unviewed {number : Nat} {sink : τ} {window next : SlidingWindow σ} {cause : WindowError}
      (held : holds sink (before ++ generator.signature basis number))
      (walked : Walked first generator.params.blockLength number window)
      (refused : window.request (number * generator.params.blockLength)
        generator.params.blockLength = (.error cause, next)) :
      Ended generator basis before holds stuck first ⟨.error (.window cause), none, next, sink⟩
  | unwritten {number taken : Nat} {sink : τ} {window : SlidingWindow σ} {failure : IoFailure}
      (inside : number < blockCount basis.size generator.params.blockLength)
      (cut : taken < (generator.record basis number).size)
      (stopped : stuck sink (before ++ generator.signature basis number ++
        (generator.record basis number).extract 0 taken)) :
      Ended generator basis before holds stuck first ⟨.error (.io failure), none, window, sink⟩
  | unflushed {last sink : τ} {window : SlidingWindow σ} {stats : Stats} {failure : IoFailure}
      (held : holds last (before ++ generator.signature basis
        (blockCount basis.size generator.params.blockLength)))
      (refused : ByteSink.flush last = (.error failure, sink)) :
      Ended generator basis before holds stuck first
        ⟨.error (.io failure), some stats, window, sink⟩
  | complete {sink : τ} {window : SlidingWindow σ} {stats : Stats}
      (held : holds sink (before ++ generator.signature basis
        (blockCount basis.size generator.params.blockLength)))
      (blocks_eq : stats.blocks = blockCount basis.size generator.params.blockLength)
      (basisBytes_eq : stats.basisBytes = basis.size)
      (streamBytes_eq : stats.streamBytes =
        12 + stats.blocks * (4 + generator.params.strongLength)) :
      Ended generator basis before holds stuck first ⟨.ok stats, some stats, window, sink⟩

variable (generator) in
theorem generate_ended (serves : ByteSource.Serves basis stands)
    (appends : ByteSink.Appends holds stuck)
    (faithful : SlidingWindow.Faithful basis stands first) (unmoved : first.start = 0) {sink : τ}
    (held : holds sink before) :
    Ended generator basis before holds stuck first (generator.generate first sink) := by
  unfold generate
  split
  next failure last failed =>
    obtain ⟨taken, cut, stopped⟩ := Writer.stuck_of_start appends held failed
    exact .headless cut stopped
  next writer started =>
    have wrote := Writer.wrote_of_start appends held started
    have stopped := signFrom_stopped serves appends faithful unmoved .zero wrote
    rw [Nat.zero_mul] at stopped
    split
    next cause last window outcome =>
      rw [outcome] at stopped
      cases stopped with
      | unviewed wrote walked refused => exact .unviewed wrote.holds_stream walked refused
      | unwritten inside cut stopped => exact .unwritten inside cut stopped
    next basisBytes last window outcome =>
      rw [outcome] at stopped
      cases stopped with
      | complete wrote =>
        have blocks := wrote.blocks_eq
        have bytes := wrote.bytesOut_eq
        rw [length_sums] at blocks bytes
        unfold Writer.finish
        split
        next failure after refused => exact .unflushed wrote.holds_stream refused
        next after flushed =>
          refine .complete (appends.holds_of_flushed wrote.holds_stream flushed) blocks rfl ?_
          exact bytes.trans (congrArg (12 + · * _) blocks.symm)

end Generator

end DeltaSignature
