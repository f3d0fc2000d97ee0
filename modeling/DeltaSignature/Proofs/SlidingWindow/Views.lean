import DeltaSignature.Proofs.SlidingWindow.Fidelity
import Mathlib.Data.List.Forall2

/-!
# Any sequence of requests is answered with the right bytes

A window is asked for one range after the other.  Some requests are refused, by the rules, by the
host or by the source; the views that are granted all show the content of the source, and they tell
truly whether the content ends with them.
-/

namespace DeltaSignature

namespace SlidingWindow

/-- A range that is asked for. -/
structure Request where
  offset : Nat
  length : Nat
deriving DecidableEq, Repr

variable {σ : Type} {content : ByteArray} {stands : σ → Nat → Prop}

/-- Answers requests one after the other, refused ones included. -/
def serve [ByteSource σ] :
    SlidingWindow σ → List Request → List (Except WindowError View) × SlidingWindow σ
  | window, [] => ([], window)
  | window, ⟨offset, length⟩ :: requests =>
    let answered := window.request offset length
    let rest := answered.2.serve requests
    (answered.1 :: rest.1, rest.2)

/-- The view shows the part of the requested range that exists.  It is short only at the end, and
nothing is left behind it when it says that it reaches the end. -/
structure Shows (content : ByteArray) (request : Request) (view : View) : Prop where
  offset_eq : view.offset = request.offset
  bytes_eq : view.bytes = content.extract (min request.offset content.size)
    (min (request.offset + request.length) content.size)
  ended_of_short : view.bytes.size < request.length → view.ended = true
  size_le_of_ended : view.ended = true → content.size ≤ request.offset + view.bytes.size

theorem extract_min_size (content : ByteArray) (offset length : Nat) :
    content.extract (min offset content.size) (min (offset + length) content.size) =
      content.extract offset (offset + length) := by
  by_cases inside : offset ≤ content.size
  · rw [Nat.min_eq_left inside]
    exact extract_eq_of_min_eq (by omega)
  · rw [ByteArray.extract_eq_empty_iff.2 (by omega), ByteArray.extract_eq_empty_iff.2 (by omega)]

theorem Faithful.shows [ByteSource σ] (serves : ByteSource.Serves content stands)
    {window : SlidingWindow σ} (faithful : Faithful content stands window) (request : Request)
    {view : View} (granted : (window.request request.offset request.length).1 = .ok view) :
    Shows content request view := by
  have requested := requested_request window request.offset request.length
  have faithfulNext := faithful.requested serves requested
  obtain ⟨rfl, forward, covers⟩ := faithful.granted serves requested granted
  exact
    { offset_eq := rfl
      bytes_eq := by rw [extract_min_size, faithfulNext.view_bytes forward covers]
      ended_of_short := Faithful.view_ended_of_short forward covers
      size_le_of_ended := faithfulNext.size_le_of_view_ended forward }

/-- A run keeps what every request of it keeps. -/
theorem serve_keeps [ByteSource σ] (keeps : SlidingWindow σ → Prop) {requests : List Request}
    (step : ∀ request ∈ requests, ∀ window : SlidingWindow σ, keeps window →
      keeps (window.request request.offset request.length).2)
    {window : SlidingWindow σ} (kept : keeps window) : keeps (window.serve requests).2 := by
  induction requests generalizing window with
  | nil => exact kept
  | cons request requests ih =>
    obtain ⟨first, later⟩ := List.forall_mem_cons.1 step
    exact ih later (first window kept)

theorem Faithful.serve [ByteSource σ] (serves : ByteSource.Serves content stands)
    {window : SlidingWindow σ} (faithful : Faithful content stands window)
    (requests : List Request) : Faithful content stands (window.serve requests).2 := by
  apply serve_keeps (Faithful content stands) _ faithful
  intro request _ window faithful
  exact faithful.requested serves (requested_request ..)

theorem Faithful.forall₂_shows [ByteSource σ] (serves : ByteSource.Serves content stands)
    {window : SlidingWindow σ} (faithful : Faithful content stands window)
    (requests : List Request) :
    List.Forall₂ (fun request answer => ∀ view, answer = .ok view → Shows content request view)
      requests (window.serve requests).1 := by
  induction requests generalizing window with
  | nil => exact .nil
  | cons request requests ih =>
    refine .cons ?_ (ih (faithful.requested serves (requested_request ..)))
    intro view granted
    exact faithful.shows serves request granted

/-- Over a well-behaved source that stands at its start, every view that is granted in any sequence
of requests shows the content of the source. -/
theorem forall₂_shows_serve [ByteSource σ] (serves : ByteSource.Serves content stands)
    (limits : Limits) (memory : Memory) {source : σ} (atStart : stands source 0)
    (requests : List Request) :
    List.Forall₂ (fun request answer => ∀ view, answer = .ok view → Shows content request view)
      requests ((fresh source limits memory).serve requests).1 :=
  (faithful_fresh atStart limits memory).forall₂_shows serves requests

/-- A window of three bytes over five, which moves for the last request. -/
theorem forall₂_shows_serve_five :
    List.Forall₂
      (fun request answer => ∀ view, answer = .ok view → Shows ⟨#[1, 2, 3, 4, 5]⟩ request view)
      [⟨1, 2⟩, ⟨0, 0⟩, ⟨3, 7⟩]
      ((fresh (⟨⟨⟨#[1, 2, 3, 4, 5]⟩, 0⟩⟩ : Forward Cursor)
        ⟨2, 3, by decide, by decide, by decide, by decide⟩ .ordinary).serve
        [⟨1, 2⟩, ⟨0, 0⟩, ⟨3, 7⟩]).1 :=
  forall₂_shows_serve (Forward.serves (Cursor.delivers ⟨#[1, 2, 3, 4, 5]⟩)) _ _ ⟨rfl, rfl⟩ _

example :
    ((fresh (⟨⟨⟨#[1, 2, 3, 4, 5]⟩, 0⟩⟩ : Forward Cursor)
      ⟨2, 3, by decide, by decide, by decide, by decide⟩ .ordinary).serve
      [⟨1, 2⟩, ⟨0, 0⟩, ⟨3, 7⟩]).1 =
      [.ok ⟨1, ⟨#[2, 3]⟩, false⟩, .error (.invalidArgument .zeroLength),
        .ok ⟨3, ⟨#[4, 5]⟩, true⟩] := by
  cbv

end SlidingWindow

end DeltaSignature
