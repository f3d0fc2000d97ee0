import DeltaSignature.Proofs.Index.Offers
import Mathlib.Data.Finset.Card

/-!
# Looking blocks up by weak sum

The multimap of an index says again what its column of weak sums says.  `Filed` is this agreement,
which every added block keeps, and it makes every look-up a search through the list of blocks.
-/

namespace DeltaSignature

namespace Index

variable {index : Index} {params : Params} {weak wanted : UInt32} {strong : ByteArray}

/-- The numbers of the blocks with this weak sum, found by going through the column. -/
def numbersOf (index : Index) (weak : UInt32) : List Nat :=
  (List.range index.size).filter fun number => index.weak.getD number 0 == weak

/-- The multimap has just the weak sums that occur, each with its block numbers in order. -/
structure Filed (index : Index) : Prop where
  mem_iff : ∀ weak, weak ∈ index.byWeak ↔ weak ∈ index.weak
  toList_eq : ∀ weak, (index.byWeak[weak]?.getD #[]).toList = index.numbersOf weak

theorem filed_empty (params : Params) : (empty params).Filed where
  mem_iff weak := by simp [empty]
  toList_eq weak := by simp [empty, numbersOf, size]

theorem weak_getD_add_of_lt {number : Nat} (inside : number < index.size) :
    (index.add weak strong).weak.getD number 0 = index.weak.getD number 0 := by
  simp only [add, Array.getD_eq_getD_getElem?, Array.getElem?_push_lt inside,
    Array.getElem?_eq_getElem inside]

theorem weak_getD_add_size : (index.add weak strong).weak.getD index.size 0 = weak := by
  simp only [add, size, Array.getD_eq_getD_getElem?, Array.getElem?_push_size, Option.getD_some]

theorem numbersOf_add (index : Index) (weak : UInt32) (strong : ByteArray) (wanted : UInt32) :
    (index.add weak strong).numbersOf wanted =
      index.numbersOf wanted ++ if weak = wanted then [index.size] else [] := by
  have kept : (List.range index.size).filter
      (fun number => (index.add weak strong).weak.getD number 0 == wanted) =
        index.numbersOf wanted :=
    List.filter_congr fun number member => by
      rw [weak_getD_add_of_lt (List.mem_range.1 member)]
  rw [numbersOf, size_add, List.range_succ, List.filter_append, kept, List.filter_cons,
    List.filter_nil, weak_getD_add_size]
  simp only [beq_iff_eq]

theorem getElem?_byWeak_add (index : Index) (weak : UInt32) (strong : ByteArray)
    (wanted : UInt32) :
    (index.add weak strong).byWeak[wanted]? =
      if weak = wanted then some ((index.byWeak[weak]?.getD #[]).push index.size)
      else index.byWeak[wanted]? := by
  simp only [add, Std.HashMap.getElem?_alter, beq_iff_eq]
  cases index.byWeak[weak]? with
  | none => rfl
  | some numbers => rfl

theorem Filed.add (filed : index.Filed) (weak : UInt32) (strong : ByteArray) :
    (index.add weak strong).Filed where
  mem_iff wanted := by
    have column : wanted ∈ (index.add weak strong).weak ↔ wanted ∈ index.weak ∨ wanted = weak :=
      Array.mem_push
    rw [column, ← filed.mem_iff, Std.HashMap.mem_iff_isSome_getElem?, getElem?_byWeak_add,
      Std.HashMap.mem_iff_isSome_getElem?]
    by_cases same : weak = wanted
    · simp [same]
    · simp [same, Ne.symm same]
  toList_eq wanted := by
    rw [getElem?_byWeak_add, numbersOf_add, ← filed.toList_eq]
    by_cases same : weak = wanted
    · rw [if_pos same, if_pos same, Option.getD_some, Array.toList_push, same]
    · rw [if_neg same, if_neg same, List.append_nil]

theorem Filed.addAll (filed : index.Filed) (records : List (UInt32 × ByteArray)) :
    (index.addAll records).Filed := by
  induction records generalizing index with
  | nil => exact filed
  | cons record records ih => exact ih (filed.add record.1 record.2)

theorem Aligned.addAll (aligned : index.Aligned) {records : List (UInt32 × ByteArray)}
    (fit : ∀ record ∈ records, record.2.size = index.params.strongLength) :
    (index.addAll records).Aligned := by
  induction records generalizing index with
  | nil => exact aligned
  | cons record records ih =>
    obtain ⟨fits, fitLater⟩ := List.forall_mem_cons.1 fit
    exact ih (aligned.add fits) fitLater

/-- Looking up a weak sum is going through all blocks for it. -/
theorem Filed.lookup_eq_filter (filed : index.Filed) (weak : UInt32) :
    index.lookup weak = index.blocks.filter fun block => block.weak == weak := by
  rw [lookup, filed.toList_eq, blocks, List.filter_map]
  rfl

theorem Filed.findMatch?_eq_find? (filed : index.Filed) (weak : UInt32) (digest : ByteArray) :
    index.findMatch? weak digest =
      if digest.size < index.params.strongLength then none
      else index.blocks.find? fun block =>
        block.weak == weak && block.strong == digest.extract 0 index.params.strongLength := by
  rw [findMatch?, filed.lookup_eq_filter, List.find?_filter]
  simp only [Bool.decide_and, Bool.decide_eq_true]

/-- The blocks stand in the order of their numbers. -/
theorem pairwise_blocks (index : Index) :
    index.blocks.Pairwise fun earlier later => earlier.number < later.number :=
  List.pairwise_map.2 List.pairwise_lt_range

theorem getElem?_blocks (index : Index) (number : Nat) :
    index.blocks[number]? = index.block? number := by
  rw [blocks, block?, List.getElem?_map]
  by_cases inside : number < index.size
  · rw [List.getElem?_range inside, if_pos inside, Option.map_some]
  · rw [List.getElem?_eq_none (by simpa using inside), if_neg inside, Option.map_none]

theorem map_weak_blocks (index : Index) : index.blocks.map Block.weak = index.weak.toList := by
  rw [blocks, List.map_map]
  refine List.ext_getElem (by simp [size]) fun number _ inside => ?_
  rw [Array.length_toList] at inside
  simp only [List.getElem_map, List.getElem_range, Function.comp, blockAt, Array.getElem_toList,
    Array.getD_eq_getD_getElem?, Array.getElem?_eq_getElem inside, Option.getD_some]

theorem Filed.distinctWeak_eq_card (filed : index.Filed) :
    index.distinctWeak = (index.blocks.map Block.weak).toFinset.card := by
  have same : (index.blocks.map Block.weak).toFinset = index.byWeak.keys.toFinset := by
    ext weak
    rw [map_weak_blocks, List.mem_toFinset, List.mem_toFinset, Std.HashMap.mem_keys, filed.mem_iff,
      Array.mem_toList_iff]
  rw [same, List.toFinset_card_of_nodup Std.HashMap.nodup_keys, Std.HashMap.length_keys,
    distinctWeak]

/-- The index holds these records and no others, and every way of asking for blocks goes by the list
of its blocks. -/
structure Lists (params : Params) (records : List (UInt32 × ByteArray)) (index : Index) : Prop
    where
  params_eq : index.params = params
  blocks_eq : index.blocks = records.mapIdx fun number record => ⟨number, record.1, record.2⟩
  size_strong : index.strong.size = index.size * params.strongLength
  strong_inside : ∀ number < index.size,
    number * params.strongLength + params.strongLength ≤ index.strong.size
  block?_eq : ∀ number, index.block? number = index.blocks[number]?
  lookup_eq : ∀ weak, index.lookup weak = index.blocks.filter fun block => block.weak == weak
  pairwise_lookup : ∀ weak,
    (index.lookup weak).Pairwise fun earlier later => earlier.number < later.number
  distinctWeak_eq : index.distinctWeak = (index.blocks.map Block.weak).toFinset.card
  findMatch?_eq : ∀ weak digest, index.findMatch? weak digest =
    if digest.size < params.strongLength then none
    else index.blocks.find? fun block =>
      block.weak == weak && block.strong == digest.extract 0 params.strongLength

theorem lists_addAll (params : Params) {records : List (UInt32 × ByteArray)}
    (fit : ∀ record ∈ records, record.2.size = params.strongLength) :
    Lists params records ((empty params).addAll records) := by
  have sameParams := params_addAll (empty params) records
  have filed := (filed_empty params).addAll records
  have aligned := (aligned_empty params).addAll fit
  have blocks := (aligned_empty params).blocks_addAll fit
  have none : (empty params).blocks = [] := rfl
  have first : (empty params).size = 0 := rfl
  simp only [none, first, List.nil_append, Nat.zero_add] at blocks
  generalize (empty params).addAll records = index at *
  subst sameParams
  refine ⟨rfl, blocks, aligned, fun number inside => ?_, fun number => ?_,
    filed.lookup_eq_filter, fun weak => ?_, filed.distinctWeak_eq_card,
    filed.findMatch?_eq_find?⟩
  · rw [aligned, ← Nat.succ_mul]
    exact Nat.mul_le_mul_right _ inside
  · exact (getElem?_blocks index number).symm
  · rw [filed.lookup_eq_filter]
    exact index.pairwise_blocks.filter _

/-- Whatever blocks an index was offered, it takes the next one just if its strong sum has the right
length, under the number of blocks taken before it, and otherwise stays as it is; and it lists
the blocks taken and no others. -/
theorem offerAll_lists {start : Index} (blank : Blank params start)
    (records : List (UInt32 × ByteArray)) :
    let answers := (start.offerAll records).1
    let index := (start.offerAll records).2
    Lists params (fitting params records) index ∧
    ∀ weak strong,
      (∀ number, (index.offer weak strong).1 = .ok number ↔
        strong.size = params.strongLength ∧ number = answers.countP Except.isOk) ∧
      ∀ cause, (index.offer weak strong).1 = .error cause →
        (index.offer weak strong).2 = index := by
  intro answers index
  obtain rfl := blank.eq_empty
  have taken : index = (empty params).addAll (fitting params records) :=
    offerAll_eq_addAll (empty params) records
  have count : answers.countP Except.isOk = index.size := by
    rw [taken, size_addAll]
    exact (countP_offerAll (empty params) records).trans (Nat.zero_add _).symm
  have lists : Lists params (fitting params records) index := by
    rw [taken]
    exact lists_addAll params fits_of_mem_fitting
  refine ⟨lists, fun weak strong => ?_⟩
  rw [offer_eq, lists.params_eq, count]
  by_cases fits : strong.size = params.strongLength
  · rw [if_pos fits]
    refine ⟨fun number => ?_, fun cause refused => ?_⟩
    · simp only [Except.ok.injEq, fits, true_and, eq_comm]
    · cases refused
  · rw [if_neg fits]
    refine ⟨fun number => ?_, fun cause refused => rfl⟩
    simp only [reduceCtorEq, fits, false_and]

/-- Four blocks with strong sums of two bytes, the third of which comes with one byte only.  Two of
those taken have the same weak sum. -/
theorem offerAll_lists_colliding :
    let params : Params := ⟨Format.blake2.tag, 1024, 2, by decide, by decide, by decide⟩
    let index := ((empty params).offerAll
      [(10, ⟨#[1, 1]⟩), (20, ⟨#[2, 2]⟩), (20, ⟨#[3]⟩), (10, ⟨#[4, 4]⟩)]).2
    withCapacity? params 4 = .ok (empty params) ∧
    Lists params [(10, ⟨#[1, 1]⟩), (20, ⟨#[2, 2]⟩), (10, ⟨#[4, 4]⟩)] index ∧
    ∀ cause, (index.offer 20 ⟨#[3]⟩).1 = .error cause → (index.offer 20 ⟨#[3]⟩).2 = index := by
  intro params index
  have made : withCapacity? params 4 = .ok (empty params) := rfl
  have lists := offerAll_lists (.inr ⟨4, made⟩)
    [(10, ⟨#[1, 1]⟩), (20, ⟨#[2, 2]⟩), (20, ⟨#[3]⟩), (10, ⟨#[4, 4]⟩)]
  exact ⟨made, lists.1, (lists.2 20 ⟨#[3]⟩).2⟩

end Index

end DeltaSignature
