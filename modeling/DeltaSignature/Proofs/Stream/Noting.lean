import DeltaSignature.Proofs.Stream.Schedule
import DeltaSignature.Stream.Load

/-!
# Defects that are noted

A decoder that refuses a field notes the defect, and it notes no defect otherwise.  So what a log
says at a level above mere information is what the error says that loading comes to.
-/

namespace DeltaSignature

/-- The lines that matter at least as much as a warning. -/
def Log.urgent (log : List Line) : List Line :=
  log.filter fun line => line.level.rank ≤ Level.warn.rank

/-- The defect that is noted with an error.  Header fields that do not agree with each other are
reported without a note. -/
def LoadError.noted? : LoadError → Option Malformed
  | malformed (.params _) => none
  | malformed defect => some defect
  | _ => none

/-- The defects that are noted with an answer. -/
def noted {α : Type} : Except LoadError α → List Malformed
  | .ok _ => []
  | .error cause => cause.noted?.toList

namespace Decoder

def Note.defect? : Note → Option Malformed
  | event _ => none
  | defect cause => some cause

def defects (decoder : Decoder) : List Malformed :=
  decoder.trace.toList.filterMap Note.defect?

variable {decoder next : Decoder} {answer : Except LoadError Progress}

theorem filterMap_defect?_push (trace : Array Note) (note : Note) :
    (trace.push note).toList.filterMap Note.defect? =
      trace.toList.filterMap Note.defect? ++ (Note.defect? note).toList := by
  rw [Array.toList_push, List.filterMap_append]
  cases note <;> rfl

theorem Stepped.defects_eq (stepped : Stepped decoder answer next) :
    next.defects = decoder.defects ++ noted answer := by
  cases stepped with
  | weakSum | suspended | done | failed => exact (List.append_nil _).symm
  | strongLength =>
    refine (filterMap_defect?_push ..).trans ?_
    rw [filterMap_defect?_push, List.append_assoc]
    rfl
  | tag | blockLength | strongSum | finished | blockLengthRefused | strongLengthRefused
  | paramsRefused | truncated => exact filterMap_defect?_push ..

theorem Ran.defects_eq (ran : Ran decoder answer next) :
    next.defects = decoder.defects ++ noted answer := by
  induction ran with
  | last stepped => exact stepped.defects_eq
  | more stepped ran ih =>
    have same := stepped.defects_eq
    rw [noted, List.append_nil] at same
    rw [ih, same]

/-- Events are logged as information only, and defects as errors. -/
theorem urgent_log (decoder : Decoder) :
    Log.urgent decoder.log = decoder.defects.map fun defect => (Note.defect defect).line := by
  rw [log, defects, Log.urgent]
  induction decoder.trace.toList with
  | nil => rfl
  | cons note notes ih =>
    rw [List.map_cons, List.filter_cons, ih]
    cases note with
    | event progress => cases progress <;> rfl
    | defect cause => cases cause <;> rfl

end Decoder

namespace Load

open Decoder (Progress)

theorem defects_feed (decoder : Decoder) (piece : ByteArray) :
    (feed decoder piece).2.defects = decoder.defects ++ noted (feed decoder piece).1 := by
  unfold feed
  split
  next => exact (Decoder.ran_run decoder.finish).defects_eq
  next =>
    obtain refused | ⟨-, pushed⟩ := decoder.push_cases piece
    · rw [refused]
      exact (List.append_nil _).symm
    · rw [pushed]
      exact (Decoder.ran_run _).defects_eq

theorem noted_signature? (decoder : Decoder) (reads : Nat) :
    noted (signature? decoder reads) = [] := by
  unfold signature? Decoder.signature?
  cases decoder.state <;> rfl

theorem defects_loop {σ : Type} [ByteReader σ] (decoder : Decoder) (reads : Nat) (reader : σ) :
    (loop decoder reads reader).decoder.defects =
      decoder.defects ++ noted (loop decoder reads reader).outcome := by
  fun_induction loop decoder reads reader with
  | case1 decoder reads reader failure next answer => exact (List.append_nil _).symm
  | case2 decoder reads reader next answer ih => exact ih
  | case3 decoder reads reader piece next answer cause last failed =>
    have fed := defects_feed decoder piece
    rw [failed] at fed
    exact fed
  | case4 decoder reads reader piece next answer last fed =>
    have same := defects_feed decoder piece
    rw [fed] at same
    rw [noted_signature?]
    exact same
  | case5 decoder reads reader piece next answer last fed ih
  | case6 decoder reads reader piece next answer last fed ih =>
    have same := defects_feed decoder piece
    rw [fed, noted, List.append_nil] at same
    rw [ih, same]

end Load

/-- Loading logs nothing that matters but the defect that it ends with, if it does. -/
theorem urgent_log_load {σ : Type} [ByteReader σ] (reader : σ) (sizeHint : Option Nat) :
    Log.urgent (load reader sizeHint).decoder.log =
      (noted (load reader sizeHint).outcome).map fun defect =>
        (Decoder.Note.defect defect).line := by
  have none : (Decoder.new sizeHint).defects = [] := rfl
  rw [Decoder.urgent_log, load, Load.defects_loop, none, List.nil_append]

end DeltaSignature
