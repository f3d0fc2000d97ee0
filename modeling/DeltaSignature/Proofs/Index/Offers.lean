import DeltaSignature.Proofs.Index.Blocks

/-!
# Blocks that are offered

An index is offered blocks one after the other.  It takes those whose strong sum has the length that
the header gives and numbers them in order; after each of the others it is as it was before.
-/

namespace DeltaSignature

namespace Index

/-- Offers a block.  A block that is refused leaves the index as it was. -/
def offer (index : Index) (weak : UInt32) (strong : ByteArray) : Except PushError Nat × Index :=
  match index.push weak strong with
  | .ok (number, grown) => (.ok number, grown)
  | .error cause => (.error cause, index)

/-- Offers blocks in order, whether or not they are taken. -/
def offerAll (index : Index) :
    List (UInt32 × ByteArray) → List (Except PushError Nat) × Index
  | [] => ([], index)
  | record :: records =>
    let offered := index.offer record.1 record.2
    let rest := offered.2.offerAll records
    (offered.1 :: rest.1, rest.2)

/-- The records whose strong sums have the length that the header gives. -/
def fitting (params : Params) (records : List (UInt32 × ByteArray)) : List (UInt32 × ByteArray) :=
  records.filter fun record => record.2.size == params.strongLength

/-- An index as it is made, with or without room for blocks to come. -/
def Blank (params : Params) (index : Index) : Prop :=
  index = empty params ∨ ∃ hint, withCapacity? params hint = .ok index

variable {params : Params} {index : Index}

theorem Blank.eq_empty (blank : Blank params index) : index = empty params := by
  rcases blank with rfl | ⟨hint, made⟩
  · rfl
  · rw [withCapacity?] at made
    split at made
    next => exact (Except.ok.inj made).symm
    next => contradiction

theorem fits_of_mem_fitting {records : List (UInt32 × ByteArray)} :
    ∀ record ∈ fitting params records, record.2.size = params.strongLength := by
  intro record member
  exact beq_iff_eq.1 (List.mem_filter.1 member).2

theorem fitting_eq_self {records : List (UInt32 × ByteArray)}
    (fit : ∀ record ∈ records, record.2.size = params.strongLength) :
    fitting params records = records :=
  List.filter_eq_self.2 fun record member => beq_iff_eq.2 (fit record member)

theorem fitting_cons (params : Params) (record : UInt32 × ByteArray)
    (records : List (UInt32 × ByteArray)) :
    fitting params (record :: records) =
      if record.2.size = params.strongLength then record :: fitting params records
      else fitting params records := by
  simp only [fitting, List.filter_cons, beq_iff_eq]

theorem offer_eq (index : Index) (weak : UInt32) (strong : ByteArray) :
    index.offer weak strong =
      if strong.size = index.params.strongLength then (.ok index.size, index.add weak strong)
      else (.error (.strongLength index.params.strongLength strong.size), index) := by
  rw [offer, push_eq]
  by_cases fits : strong.size = index.params.strongLength
  · rw [if_pos fits, if_pos fits]
  · rw [if_neg fits, if_neg fits]

theorem size_addAll (index : Index) (records : List (UInt32 × ByteArray)) :
    (index.addAll records).size = index.size + records.length := by
  induction records generalizing index with
  | nil => rfl
  | cons record records ih =>
    rw [addAll_cons, ih, size_add, List.length_cons, Nat.add_assoc, Nat.add_comm 1]

/-- Offering blocks comes to adding those that fit. -/
theorem offerAll_eq_addAll (index : Index) (records : List (UInt32 × ByteArray)) :
    (index.offerAll records).2 = index.addAll (fitting index.params records) := by
  induction records generalizing index with
  | nil => rfl
  | cons record records ih =>
    rw [offerAll, offer_eq, fitting_cons]
    by_cases fits : record.2.size = index.params.strongLength
    · rw [if_pos fits, if_pos fits, addAll_cons]
      exact ih (index.add record.1 record.2)
    · rw [if_neg fits, if_neg fits]
      exact ih index

/-- The answers that give a number are as many as the blocks that fit. -/
theorem countP_offerAll (index : Index) (records : List (UInt32 × ByteArray)) :
    (index.offerAll records).1.countP Except.isOk = (fitting index.params records).length := by
  induction records generalizing index with
  | nil => rfl
  | cons record records ih =>
    rw [offerAll, offer_eq, fitting_cons]
    by_cases fits : record.2.size = index.params.strongLength
    · rw [if_pos fits, if_pos fits, List.length_cons, List.countP_cons_of_pos rfl]
      exact congrArg (· + 1) (ih (index.add record.1 record.2))
    · rw [if_neg fits, if_neg fits, List.countP_cons_of_neg Bool.false_ne_true]
      exact ih index

end Index

end DeltaSignature
