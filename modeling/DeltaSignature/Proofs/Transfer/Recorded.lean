import DeltaSignature.Proofs.Transfer.Delivery
import Mathlib.Data.List.Basic

/-!
# Recorded calls

A source that keeps a record of its calls answers them like the source behind it.  The record tells
where a well-behaved source stands after every call: behind the bytes that it has delivered, or
where it was moved to.  If it was never moved back, it has delivered each byte at most once.
-/

namespace DeltaSignature

deriving instance DecidableEq for ReadOutcome

/-- What a source was asked for, and what it answered. -/
inductive SourceCall where
  | read (size : Nat) (outcome : ReadOutcome)
  | seek (target : Nat) (outcome : Except IoFailure Unit)
deriving DecidableEq

namespace SourceCall

def isRead : SourceCall → Bool
  | read .. => true
  | seek .. => false

/-- How many bytes were delivered. -/
def delivered : SourceCall → Nat
  | read _ (.delivered bytes) => bytes.size
  | _ => 0

/-- The place after a call, if it was made at `place`. -/
def next (place : Nat) : SourceCall → Nat
  | seek target (.ok ()) => target
  | call => place + call.delivered

/-- How far a call that was made at `place` moved the source without reading. -/
def gap (place : Nat) : SourceCall → Nat
  | seek target (.ok ()) => target - place
  | _ => 0

end SourceCall

namespace Record

/-- The place after the calls of a record. -/
def placeAfter : Nat → List SourceCall → Nat :=
  List.foldl SourceCall.next

/-- How many bytes were delivered in all. -/
def delivered (calls : List SourceCall) : Nat :=
  (calls.map SourceCall.delivered).sum

/-- The places of the bytes delivered, in the order of delivery. -/
def placesRead : Nat → List SourceCall → List Nat
  | _, [] => []
  | place, call :: calls =>
    List.range' place call.delivered ++ placesRead (call.next place) calls

/-- How much was passed over by moves in all. -/
def gaps : Nat → List SourceCall → Nat
  | _, [] => 0
  | place, call :: calls => call.gap place + gaps (call.next place) calls

/-- No call moves the source back. -/
def Ahead : Nat → List SourceCall → Prop
  | _, [] => True
  | place, call :: calls => place ≤ call.next place ∧ Ahead (call.next place) calls

variable {calls : List SourceCall} {place : Nat}

theorem placeAfter_append (place : Nat) (earlier later : List SourceCall) :
    placeAfter place (earlier ++ later) = placeAfter (placeAfter place earlier) later :=
  List.foldl_append ..

theorem delivered_append (earlier later : List SourceCall) :
    delivered (earlier ++ later) = delivered earlier + delivered later := by
  rw [delivered, List.map_append, List.sum_append]
  rfl

theorem ahead_append {earlier later : List SourceCall} :
    Ahead place (earlier ++ later) ↔
      Ahead place earlier ∧ Ahead (placeAfter place earlier) later := by
  induction earlier generalizing place with
  | nil => exact (and_iff_right trivial).symm
  | cons call earlier ih =>
    rw [List.cons_append, Ahead, ih, Ahead, and_assoc]
    rfl

theorem next_of_isRead {call : SourceCall} (reads : call.isRead = true) (place : Nat) :
    call.next place = place + call.delivered := by
  cases call with
  | read => rfl
  | seek => cases reads

theorem placeAfter_of_reads (reads : ∀ call ∈ calls, call.isRead = true) (place : Nat) :
    placeAfter place calls = place + delivered calls := by
  induction calls generalizing place with
  | nil => rfl
  | cons call calls ih =>
    obtain ⟨first, later⟩ := List.forall_mem_cons.1 reads
    have step := ih later (call.next place)
    rw [next_of_isRead first, Nat.add_assoc] at step
    exact (congrArg (placeAfter · calls) (next_of_isRead first place)).trans step

theorem ahead_of_reads (reads : ∀ call ∈ calls, call.isRead = true) (place : Nat) :
    Ahead place calls := by
  induction calls generalizing place with
  | nil => trivial
  | cons call calls ih =>
    obtain ⟨first, later⟩ := List.forall_mem_cons.1 reads
    refine ⟨?_, ih later _⟩
    rw [next_of_isRead first]
    exact Nat.le_add_right ..

/-- Reads deliver one stretch of bytes, in order and each byte once. -/
theorem placesRead_of_reads (reads : ∀ call ∈ calls, call.isRead = true) (place : Nat) :
    placesRead place calls = List.range' place (delivered calls) := by
  induction calls generalizing place with
  | nil => rfl
  | cons call calls ih =>
    obtain ⟨first, later⟩ := List.forall_mem_cons.1 reads
    have total : delivered (call :: calls) = call.delivered + delivered calls := List.sum_cons
    rw [placesRead, ih later, next_of_isRead first, total]
    exact List.range'_append_1

/-- A call that does not move the source back has delivered or passed over all that it moved by. -/
theorem next_eq_of_le {call : SourceCall} (ahead : place ≤ call.next place) :
    place + call.delivered + call.gap place = call.next place := by
  cases call with
  | read => rfl
  | seek target outcome =>
    cases outcome with
    | ok => exact Nat.add_sub_cancel' ahead
    | error => rfl

namespace Ahead

theorem delivered_add_gaps (ahead : Ahead place calls) :
    place + delivered calls + gaps place calls = placeAfter place calls := by
  induction calls generalizing place with
  | nil => rfl
  | cons call calls ih =>
    have first := next_eq_of_le ahead.1
    have later := ih ahead.2
    have total : delivered (call :: calls) = call.delivered + delivered calls := List.sum_cons
    calc place + delivered (call :: calls) + gaps place (call :: calls)
      _ = place + call.delivered + call.gap place + delivered calls +
          gaps (call.next place) calls := by
        rw [total, gaps]
        omega
      _ = placeAfter (call.next place) calls := by rw [first, later]

theorem le_placeAfter (ahead : Ahead place calls) : place ≤ placeAfter place calls := by
  have total := ahead.delivered_add_gaps
  omega

theorem le_of_mem_placesRead (ahead : Ahead place calls) :
    ∀ read ∈ placesRead place calls, place ≤ read := by
  induction calls generalizing place with
  | nil => simp [placesRead]
  | cons call calls ih =>
    intro read listed
    rcases List.mem_append.1 listed with now | later
    · exact (List.mem_range'_1.1 now).1
    · exact Nat.le_trans ahead.1 (ih ahead.2 read later)

/-- A source that never moves back delivers each byte at most once. -/
theorem pairwise_placesRead (ahead : Ahead place calls) :
    (placesRead place calls).Pairwise (· < ·) := by
  induction calls generalizing place with
  | nil => exact .nil
  | cons call calls ih =>
    refine List.pairwise_append.2 ⟨List.pairwise_lt_range', ih ahead.2, ?_⟩
    intro earlier now later listed
    have before := (List.mem_range'_1.1 now).2
    have behind := ahead.2.le_of_mem_placesRead later listed
    have moved := next_eq_of_le ahead.1
    omega

end Ahead

end Record

/-- A source together with the calls that were made of it. -/
structure Recorded (σ : Type) where
  source : σ
  calls : List SourceCall

namespace Recorded

variable {σ : Type}

instance [ByteReader σ] : ByteReader (Recorded σ) where
  read recorded size :=
    let answer := ByteReader.read recorded.source size
    (answer.1, ⟨answer.2, recorded.calls ++ [.read size answer.1]⟩)
  left recorded := ByteReader.left recorded.source
  left_read_lt recorded size goesOn := ByteReader.left_read_lt recorded.source size goesOn
  size_le_of_delivered recorded := ByteReader.size_le_of_delivered recorded.source

instance [ByteSource σ] : ByteSource (Recorded σ) where
  seek recorded target :=
    let answer := ByteSource.seek recorded.source target
    (answer.1, ⟨answer.2, recorded.calls ++ [.seek target answer.1]⟩)

theorem read_eq [ByteReader σ] {source next : σ} {size : Nat} {outcome : ReadOutcome}
    (answer : ByteReader.read source size = (outcome, next)) (calls : List SourceCall) :
    ByteReader.read (⟨source, calls⟩ : Recorded σ) size =
      (outcome, ⟨next, calls ++ [.read size outcome]⟩) := by
  change ((ByteReader.read source size).1, Recorded.mk (ByteReader.read source size).2
    (calls ++ [.read size (ByteReader.read source size).1])) = _
  rw [answer]

theorem seek_eq [ByteSource σ] {source next : σ} {target : Nat} {outcome : Except IoFailure Unit}
    (answer : ByteSource.seek source target = (outcome, next)) (calls : List SourceCall) :
    ByteSource.seek (⟨source, calls⟩ : Recorded σ) target =
      (outcome, ⟨next, calls ++ [.seek target outcome]⟩) := by
  change ((ByteSource.seek source target).1, Recorded.mk (ByteSource.seek source target).2
    (calls ++ [.seek target (ByteSource.seek source target).1])) = _
  rw [answer]

theorem calls_of_read [ByteReader σ] {recorded next : Recorded σ} {size : Nat}
    {outcome : ReadOutcome} (answer : ByteReader.read recorded size = (outcome, next)) :
    next.calls = recorded.calls ++ [.read size outcome] := by
  obtain ⟨rfl, rfl⟩ := Prod.mk.inj answer
  rfl

theorem calls_of_seek [ByteSource σ] {recorded next : Recorded σ} {target : Nat}
    {outcome : Except IoFailure Unit}
    (answer : ByteSource.seek recorded target = (outcome, next)) :
    next.calls = recorded.calls ++ [.seek target outcome] := by
  obtain ⟨rfl, rfl⟩ := Prod.mk.inj answer
  rfl

/-- A recorded source stands where the source behind it does. -/
def Stands (stands : σ → Nat → Prop) (recorded : Recorded σ) (place : Nat) : Prop :=
  stands recorded.source place

theorem serves [ByteSource σ] {content : ByteArray} {stands : σ → Nat → Prop}
    (serves : ByteSource.Serves content stands) : ByteSource.Serves content (Stands stands) where
  toDelivers := serves.toDelivers.comap Recorded.source fun _ _ => rfl
  stands_of_moved := by
    intro recorded next place target standing answer
    obtain ⟨moved, rfl⟩ := Prod.mk.inj answer
    exact serves.stands_of_moved standing (Prod.ext moved rfl)
  stands_of_refused := by
    intro recorded next place target failure standing answer
    obtain ⟨refused, rfl⟩ := Prod.mk.inj answer
    exact serves.stands_of_refused standing (Prod.ext refused rfl)

end Recorded

end DeltaSignature
