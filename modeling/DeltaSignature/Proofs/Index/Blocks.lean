import DeltaSignature.Index
import DeltaSignature.Proofs.Bytes

/-!
# The blocks of an index

An index stores its strong sums end to end.  As long as all of them have the length that the header
gives, adding a block appends it to the list of blocks and changes none that is there.
-/

namespace DeltaSignature

namespace Index

/-- The index with another block, whose strong sum is not checked. -/
def add (index : Index) (weak : UInt32) (strong : ByteArray) : Index where
  params := index.params
  weak := index.weak.push weak
  strong := index.strong ++ strong
  byWeak := index.byWeak.alter weak fun
    | none => some #[index.size]
    | some numbers => some (numbers.push index.size)

/-- The index with a block for every record. -/
def addAll (index : Index) (records : List (UInt32 × ByteArray)) : Index :=
  records.foldl (fun index record => index.add record.1 record.2) index

variable {index : Index} {weak : UInt32} {strong : ByteArray}

theorem push_eq (index : Index) (weak : UInt32) (strong : ByteArray) :
    index.push weak strong =
      if strong.size = index.params.strongLength then .ok (index.size, index.add weak strong)
      else .error (.strongLength index.params.strongLength strong.size) :=
  rfl

theorem length_blocks (index : Index) : index.blocks.length = index.size := by
  rw [blocks, List.length_map, List.length_range]

theorem size_add : (index.add weak strong).size = index.size + 1 :=
  Array.size_push ..

theorem addAll_cons (record : UInt32 × ByteArray) (records : List (UInt32 × ByteArray)) :
    index.addAll (record :: records) = (index.add record.1 record.2).addAll records :=
  rfl

theorem params_addAll (index : Index) (records : List (UInt32 × ByteArray)) :
    (index.addAll records).params = index.params := by
  induction records generalizing index with
  | nil => rfl
  | cons record records ih => exact ih (index.add record.1 record.2)

/-- Every strong sum stored has the length that the header gives. -/
def Aligned (index : Index) : Prop :=
  index.strong.size = index.size * index.params.strongLength

theorem aligned_empty (params : Params) : (empty params).Aligned :=
  (Nat.zero_mul _).symm

theorem Aligned.add (aligned : index.Aligned) (fits : strong.size = index.params.strongLength) :
    (index.add weak strong).Aligned := by
  rw [Aligned, size_add, Nat.add_one_mul]
  calc (index.strong ++ strong).size = index.strong.size + strong.size := ByteArray.size_append
    _ = index.size * index.params.strongLength + index.params.strongLength := by
      rw [aligned, fits]

theorem Aligned.blockAt_add_of_lt (aligned : index.Aligned) {number : Nat}
    (inside : number < index.size) :
    (index.add weak strong).blockAt number = index.blockAt number := by
  have weakKept : (index.weak.push weak).getD number 0 = index.weak.getD number 0 := by
    simp only [Array.getD_eq_getD_getElem?, Array.getElem?_push_lt inside,
      Array.getElem?_eq_getElem inside]
  have covered : (number + 1) * index.params.strongLength ≤ index.strong.size := by
    rw [aligned]
    exact Nat.mul_le_mul_right _ inside
  rw [Nat.add_one_mul] at covered
  exact congrArg₂ (Block.mk number) weakKept (extract_front_append strong covered)

theorem Aligned.blockAt_add_size (aligned : index.Aligned)
    (fits : strong.size = index.params.strongLength) :
    (index.add weak strong).blockAt index.size = ⟨index.size, weak, strong⟩ := by
  have weakAdded : (index.weak.push weak).getD index.weak.size 0 = weak := by
    rw [Array.getD_eq_getD_getElem?, Array.getElem?_push_size, Option.getD_some]
  have strongAdded :
      (index.strong ++ strong).extract (index.size * index.params.strongLength)
        (index.size * index.params.strongLength + index.params.strongLength) = strong := by
    rw [← aligned, ← fits, extract_append_size]
  exact congrArg₂ (Block.mk index.size) weakAdded strongAdded

theorem Aligned.blocks_add (aligned : index.Aligned)
    (fits : strong.size = index.params.strongLength) :
    (index.add weak strong).blocks = index.blocks ++ [⟨index.size, weak, strong⟩] := by
  have kept : (List.range index.size).map (index.add weak strong).blockAt = index.blocks :=
    List.map_congr_left fun number member =>
      aligned.blockAt_add_of_lt (List.mem_range.1 member)
  rw [blocks, size_add, List.range_succ, List.map_append, kept, List.map_singleton,
    aligned.blockAt_add_size fits]

theorem Aligned.blocks_addAll (aligned : index.Aligned) {records : List (UInt32 × ByteArray)}
    (fit : ∀ record ∈ records, record.2.size = index.params.strongLength) :
    (index.addAll records).blocks = index.blocks ++
      records.mapIdx fun place record => ⟨index.size + place, record.1, record.2⟩ := by
  induction records generalizing index with
  | nil => rw [List.mapIdx_nil, List.append_nil, addAll, List.foldl_nil]
  | cons record records ih =>
    obtain ⟨fits, fitLater⟩ := List.forall_mem_cons.1 fit
    rw [addAll_cons, ih (aligned.add fits) fitLater, aligned.blocks_add fits, size_add,
      List.mapIdx_cons, List.append_assoc]
    simp only [List.singleton_append, Nat.add_zero, Nat.add_right_comm, Nat.add_assoc]

/-- The blocks of an index are numbered from zero on. -/
theorem blocks_addAll_range {params : Params} {count : Nat} {sums : Nat → UInt32 × ByteArray}
    (fit : ∀ record ∈ (List.range count).map sums, record.2.size = params.strongLength) :
    ((empty params).addAll ((List.range count).map sums)).blocks =
      (List.range count).map fun number => ⟨number, (sums number).1, (sums number).2⟩ := by
  have nothing : (empty params).blocks = [] := rfl
  rw [(aligned_empty params).blocks_addAll fit, nothing, List.nil_append]
  refine List.ext_getElem (by simp) fun number _ _ => ?_
  have first : (empty params).size + number = number := Nat.zero_add number
  simp only [List.getElem_mapIdx, List.getElem_map, List.getElem_range, first]

end Index

end DeltaSignature
