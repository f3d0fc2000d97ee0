import DeltaSignature.Proofs.Transfer.Delivery

/-!
# The pace of a source

Two sources of the same content may deliver it in different pieces and be interrupted at different
times.  `Twins` are two such sources that answer alike whenever they are asked to move.  A faltering
source paces the source behind it by a plan: some of its reads are interrupted, fail or come out
short.
-/

namespace DeltaSignature

/-- Both sources were moved, or both have refused, with failures that are `like` each other. -/
inductive SameOutcome (like : IoFailure → IoFailure → Prop) :
    Except IoFailure Unit → Except IoFailure Unit → Prop where
  | moved : SameOutcome like (.ok ()) (.ok ())
  | refused {failure other : IoFailure} (alike : like failure other) :
      SameOutcome like (.error failure) (.error other)

/-- Sources in related states that stand at the same place agree on whether they can be moved to
another one.  Reads of either source do not matter for this. -/
structure ByteSource.Agree {σ τ : Type} [ByteSource σ] [ByteSource τ]
    (like : IoFailure → IoFailure → Prop) (stands : σ → Nat → Prop) (standsOther : τ → Nat → Prop)
    (related : σ → τ → Prop) : Prop where
  related_of_read : ∀ {source : σ} {other : τ} (size : Nat), related source other →
    related (ByteReader.read source size).2 other
  related_of_read_other : ∀ {source : σ} {other : τ} (size : Nat), related source other →
    related source (ByteReader.read other size).2
  seek : ∀ {source : σ} {other : τ} {place : Nat} (target : Nat), related source other →
    stands source place → standsOther other place →
    SameOutcome like (ByteSource.seek source target).1 (ByteSource.seek other target).1 ∧
      related (ByteSource.seek source target).2 (ByteSource.seek other target).2

/-- Both sources serve the same content, none of their reads fails, and they agree on where they can
be moved.  How they pace their reads is left open. -/
structure ByteSource.Twins {σ τ : Type} [ByteSource σ] [ByteSource τ] (content : ByteArray)
    (like : IoFailure → IoFailure → Prop) (stands : σ → Nat → Prop) (standsOther : τ → Nat → Prop)
    (related : σ → τ → Prop) : Prop where
  serves : ByteSource.Serves content stands
  serves_other : ByteSource.Serves content standsOther
  steady : ByteReader.NeverFails stands
  steady_other : ByteReader.NeverFails standsOther
  agree : ByteSource.Agree like stands standsOther related

namespace Faltering

/-- What comes between a reader and the bytes that it is asked for.  A short read delivers at most
one byte more than it says. -/
inductive Hitch where
  | interrupted
  | failed (failure : IoFailure)
  | short (size : Nat)
deriving DecidableEq, Repr

end Faltering

/-- A source together with what is to happen to its next reads. -/
structure Faltering (σ : Type) where
  source : σ
  plan : List Faltering.Hitch

namespace Faltering

variable {σ : Type}

def read [ByteReader σ] (faltering : Faltering σ) (size : Nat) : ReadOutcome × Faltering σ :=
  match faltering with
  | ⟨source, []⟩ =>
    let answer := ByteReader.read source size
    (answer.1, ⟨answer.2, []⟩)
  | ⟨source, .interrupted :: plan⟩ => (.interrupted, ⟨source, plan⟩)
  | ⟨source, .failed failure :: plan⟩ => (.failed failure, ⟨source, plan⟩)
  | ⟨source, .short least :: plan⟩ =>
    let answer := ByteReader.read source (min size (least + 1))
    (answer.1, ⟨answer.2, plan⟩)

theorem left_read_lt [ByteReader σ] (faltering : Faltering σ) (size : Nat)
    (goesOn : (faltering.read size).1.goesOn = true) :
    ByteReader.left (faltering.read size).2.source + (faltering.read size).2.plan.length <
      ByteReader.left faltering.source + faltering.plan.length := by
  obtain ⟨source, plan⟩ := faltering
  cases plan with
  | nil => exact ByteReader.left_read_lt source size goesOn
  | cons hitch plan =>
    cases hitch with
    | interrupted => exact Nat.lt_succ_self _
    | failed failure => cases goesOn
    | short least =>
      have fewer := ByteReader.left_read_lt source (min size (least + 1)) goesOn
      exact Nat.add_lt_add_of_lt_of_le fewer (Nat.le_succ _)

theorem size_le_of_delivered [ByteReader σ] (faltering : Faltering σ) (size : Nat)
    (piece : ByteArray) (delivered : (faltering.read size).1 = .delivered piece) :
    piece.size ≤ size := by
  obtain ⟨source, plan⟩ := faltering
  cases plan with
  | nil => exact ByteReader.size_le_of_delivered source size piece delivered
  | cons hitch plan =>
    cases hitch with
    | interrupted | failed => cases delivered
    | short least =>
      have fits := ByteReader.size_le_of_delivered source _ piece delivered
      exact Nat.le_trans fits (Nat.min_le_left ..)

instance [ByteReader σ] : ByteReader (Faltering σ) where
  read := read
  left faltering := ByteReader.left faltering.source + faltering.plan.length
  left_read_lt := left_read_lt
  size_le_of_delivered := size_le_of_delivered

instance [ByteSource σ] : ByteSource (Faltering σ) where
  seek faltering target :=
    let answer := ByteSource.seek faltering.source target
    (answer.1, { faltering with source := answer.2 })

/-- A faltering source stands where the source behind it does, and what is planned for it is
allowed. -/
def Stands (stands : σ → Nat → Prop) (allowed : Hitch → Prop) (faltering : Faltering σ)
    (place : Nat) : Prop :=
  stands faltering.source place ∧ ∀ hitch ∈ faltering.plan, allowed hitch

/-- What a read of a faltering source comes to. -/
inductive Paced [ByteReader σ] (faltering : Faltering σ) (size : Nat) :
    ReadOutcome → Faltering σ → Prop where
  | interrupted {plan : List Hitch} (planned : faltering.plan = .interrupted :: plan) :
      Paced faltering size .interrupted { faltering with plan }
  | failed {failure : IoFailure} {plan : List Hitch}
      (planned : faltering.plan = .failed failure :: plan) :
      Paced faltering size (.failed failure) { faltering with plan }
  | passed {outcome : ReadOutcome} {next : σ} (asked : Nat) (nonzero : 0 < size → 0 < asked)
      (behind : ByteReader.read faltering.source asked = (outcome, next)) :
      Paced faltering size outcome ⟨next, faltering.plan.tail⟩

theorem paced_of_read [ByteReader σ] {faltering next : Faltering σ} {size : Nat}
    {outcome : ReadOutcome} (answer : ByteReader.read faltering size = (outcome, next)) :
    Paced faltering size outcome next := by
  obtain ⟨source, plan⟩ := faltering
  cases plan with
  | nil =>
    obtain ⟨rfl, rfl⟩ := Prod.mk.inj answer
    exact .passed size id rfl
  | cons hitch plan =>
    cases hitch with
    | interrupted =>
      obtain ⟨rfl, rfl⟩ := Prod.mk.inj answer
      exact .interrupted rfl
    | failed failure =>
      obtain ⟨rfl, rfl⟩ := Prod.mk.inj answer
      exact .failed rfl
    | short least =>
      obtain ⟨rfl, rfl⟩ := Prod.mk.inj answer
      refine .passed (min size (least + 1)) (fun positive => ?_) rfl
      exact Nat.lt_min.2 ⟨positive, Nat.succ_pos _⟩

section Laws

variable {content : ByteArray} {stands : σ → Nat → Prop} {allowed : Hitch → Prop}

/-- However it falters, a source serves what the source behind it serves. -/
theorem serves [ByteSource σ] (serves : ByteSource.Serves content stands) :
    ByteSource.Serves content (Stands stands allowed) where
  stands_of_interrupted := by
    rintro faltering next place size ⟨standing, planned⟩ positive answer
    cases paced_of_read answer with
    | interrupted plan_eq =>
      rw [plan_eq] at planned
      exact ⟨standing, (List.forall_mem_cons.1 planned).2⟩
    | passed asked nonzero behind =>
      exact ⟨serves.stands_of_interrupted standing (nonzero positive) behind,
        fun hitch later => planned hitch (List.mem_of_mem_tail later)⟩
  stands_of_failed := by
    rintro faltering next place size failure ⟨standing, planned⟩ positive answer
    cases paced_of_read answer with
    | failed plan_eq =>
      rw [plan_eq] at planned
      exact ⟨standing, (List.forall_mem_cons.1 planned).2⟩
    | passed asked nonzero behind =>
      exact ⟨serves.stands_of_failed standing (nonzero positive) behind,
        fun hitch later => planned hitch (List.mem_of_mem_tail later)⟩
  part_of_delivered := by
    rintro faltering next place size piece ⟨standing, planned⟩ positive answer
    cases paced_of_read answer with
    | passed asked nonzero behind =>
      obtain ⟨part, moved⟩ := serves.part_of_delivered standing (nonzero positive) behind
      exact ⟨part, moved, fun hitch later => planned hitch (List.mem_of_mem_tail later)⟩
  size_le_of_empty := by
    rintro faltering next place size piece ⟨standing, planned⟩ positive answer
    cases paced_of_read answer with
    | passed asked nonzero behind =>
      exact serves.size_le_of_empty standing (nonzero positive) behind
  stands_of_moved := by
    rintro faltering next place target ⟨standing, planned⟩ answer
    obtain ⟨moved, rfl⟩ := Prod.mk.inj answer
    exact ⟨serves.stands_of_moved standing (Prod.ext moved rfl), planned⟩
  stands_of_refused := by
    rintro faltering next place target failure ⟨standing, planned⟩ answer
    obtain ⟨refused, rfl⟩ := Prod.mk.inj answer
    exact ⟨serves.stands_of_refused standing (Prod.ext refused rfl), planned⟩

theorem neverFails [ByteReader σ] (steady : ByteReader.NeverFails stands)
    (unfailing : ∀ failure, ¬ allowed (.failed failure)) :
    ByteReader.NeverFails (Stands stands allowed) := by
  rintro faltering next place size failure ⟨standing, planned⟩ positive answer
  cases paced_of_read answer with
  | failed plan_eq =>
    rw [plan_eq] at planned
    exact unfailing failure (List.forall_mem_cons.1 planned).1
  | passed asked nonzero behind => exact steady standing (nonzero positive) behind

end Laws

end Faltering

end DeltaSignature
