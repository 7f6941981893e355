import TensorGraph.Proofs.Tensor.Sizes

/-!
# Which sizes can be allocated

A tensor of zeros is the one that is made from nothing but its size, so what stands in its way is
the size alone.  This file says which sizes those are, in exact arithmetic.

* `checkedProduct_eq_none_iff`: a checked product fails exactly if some partial product, from left
  to right, is too large.  It does not help if the whole product is small: a zero may come too late
  (`ValueInfo.Overflows`).
* `ValueInfo.byteCount_eq_error_iff` and `Tensor.allocate_eq_error_iff` list the errors, each with
  its condition; the conditions exclude each other and leave out exactly the sizes for which there
  is a tensor.
* `Tensor.allocate_exactly` puts this together with what the tensor is.
-/

set_option autoImplicit false

namespace TensorGraph

/-! ## Partial products -/

/-- A checked product fails exactly if some partial product is too large. -/
theorem checkedProduct_eq_none_iff {size : Nat} {factors : List Nat} (hsize : size < sizeBound) :
    checkedProduct size factors = none ↔ ∃ k, sizeBound ≤ size * (factors.take k).prod := by
  induction factors generalizing size with
  | nil => simp [checkedProduct_nil, hsize]
  | cons d factors ih =>
    rw [checkedProduct_cons]
    by_cases hd : size * d < sizeBound
    · rw [if_pos hd, ih hd]
      constructor
      · rintro ⟨k, hk⟩
        exact ⟨k + 1, by rwa [List.take_succ_cons, List.prod_cons, ← Nat.mul_assoc]⟩
      · rintro ⟨_ | k, hk⟩
        · rw [List.take_zero, List.prod_nil, Nat.mul_one] at hk
          exact absurd hsize (Nat.not_lt.2 hk)
        · rw [List.take_succ_cons, List.prod_cons, ← Nat.mul_assoc] at hk
          exact ⟨k, hk⟩
    · rw [if_neg hd]
      refine iff_of_true rfl ⟨1, ?_⟩
      rw [List.take_succ_cons, List.take_zero, List.prod_singleton]
      exact Nat.not_lt.1 hd

namespace ValueInfo

variable {info : ValueInfo} {unit : Nat}

/-- The number of bytes of a value whose elements have a width, in exact arithmetic. -/
def exactSize (info : ValueInfo) (unit : Nat) : Nat := unit * info.shape.dims.prod

/-- One of the partial products of the dimensions, and last of the width, is too large. -/
def Overflows (info : ValueInfo) (unit : Nat) : Prop :=
  ∃ k, sizeBound ≤ ((info.shape.dims ++ [unit]).take k).prod

theorem prod_append_unit (info : ValueInfo) (unit : Nat) :
    (info.shape.dims ++ [unit]).prod = info.exactSize unit := by
  rw [List.prod_append, List.prod_singleton, Nat.mul_comm, exactSize]

theorem checkedProduct_eq_none_iff_overflows :
    checkedProduct 1 (info.shape.dims ++ [unit]) = none ↔ info.Overflows unit := by
  rw [checkedProduct_eq_none_iff (by decide), Overflows]
  simp only [Nat.one_mul]

/-- What does not overflow is computed exactly. -/
theorem checkedProduct_of_not_overflows (h : ¬ info.Overflows unit) :
    checkedProduct 1 (info.shape.dims ++ [unit]) = some (info.exactSize unit) := by
  obtain ⟨n, hn⟩ := Option.ne_none_iff_exists'.1 (mt checkedProduct_eq_none_iff_overflows.1 h)
  rw [hn, eq_of_checkedProduct hn, Nat.one_mul, prod_append_unit]

/-- The bytes of a value cannot be counted if there are too many of them, or none. -/
theorem byteCount_eq_error_iff (hunit : info.elementType.unitSize? = some unit) {e : Error} :
    info.byteCount = .error e ↔
      (info.Overflows unit ∧ e = .illegalArgument (.tooLarge info)) ∨
      (¬ info.Overflows unit ∧ info.exactSize unit = 0 ∧ e = .illegalArgument (.noBytes info)) := by
  rw [byteCount, hunit]
  by_cases hover : info.Overflows unit
  · simp [checkedProduct_eq_none_iff_overflows.2 hover, hover, eq_comm]
  · simp only [checkedProduct_of_not_overflows hover, hover]
    cases info.exactSize unit with
    | zero => simp [eq_comm]
    | succ n => simp

end ValueInfo

/-! ## What stands in the way -/

theorem Allocation.checkCapacity_eq_error_iff {allocation : Allocation} {count : Nat} {e : Error} :
    allocation.checkCapacity count = .error e ↔
      allocation.capacity < count ∧ e = .illegalArgument (.overCapacity count allocation) := by
  rw [checkCapacity]
  by_cases h : count ≤ allocation.capacity
  · simp [h, Nat.not_lt.2 h]
  · simp [h, Nat.not_le.1 h, eq_comm]

theorem Allocation.capacity_lt (allocation : Allocation) : allocation.capacity < sizeBound := by
  cases allocation <;> decide

namespace Tensor

variable {info : ValueInfo} {options : TensorOptions} {unit : Nat}

/-- A tensor of zeros is allocated if it has a byte at least and no more than fit. -/
theorem exists_allocate_eq_ok_iff :
    (∃ t, allocate info options = .ok t) ↔
      ∃ unit, info.elementType.unitSize? = some unit ∧ 1 ≤ info.exactSize unit ∧
        info.exactSize unit ≤ options.allocation.capacity := by
  constructor
  · rintro ⟨t, h⟩
    obtain ⟨count, hcount, hcapacity, -⟩ := allocate_eq_ok_iff.1 h
    obtain ⟨unit, hunit, rfl, hpos, -⟩ := ValueInfo.byteCount_eq_ok_iff.1 hcount
    exact ⟨unit, hunit, hpos, hcapacity⟩
  · rintro ⟨unit, hunit, hpos, hcapacity⟩
    have hlt := Nat.lt_of_le_of_lt hcapacity options.allocation.capacity_lt
    have hcount := ValueInfo.byteCount_eq_ok_iff.2 ⟨unit, hunit, rfl, hpos, hlt⟩
    exact ⟨_, allocate_eq_ok_iff.2 ⟨_, hcount, hcapacity, rfl⟩⟩

/-- The errors of an allocation, each with its condition. -/
theorem allocate_eq_error_iff (hunit : info.elementType.unitSize? = some unit) {e : Error} :
    allocate info options = .error e ↔
      (info.Overflows unit ∧ e = .illegalArgument (.tooLarge info)) ∨
      (¬ info.Overflows unit ∧ info.exactSize unit = 0 ∧ e = .illegalArgument (.noBytes info)) ∨
      (options.allocation.capacity < info.exactSize unit ∧ info.exactSize unit < sizeBound ∧
        e = .illegalArgument (.overCapacity (info.exactSize unit) options.allocation)) := by
  rw [allocate, bind_eq_error_iff, ValueInfo.byteCount_eq_error_iff hunit, or_assoc]
  refine or_congr_right (or_congr_right ?_)
  constructor
  · rintro ⟨count, hcount, h⟩
    rcases bind_eq_error_iff.1 h with h | ⟨_, -, h⟩
    · obtain ⟨hcapacity, rfl⟩ := Allocation.checkCapacity_eq_error_iff.1 h
      obtain ⟨unit', hunit', rfl, -, hlt⟩ := ValueInfo.byteCount_eq_ok_iff.1 hcount
      cases hunit.symm.trans hunit'
      exact ⟨hcapacity, hlt, rfl⟩
    · cases h
  · rintro ⟨hcapacity, hlt, rfl⟩
    have hpos : 0 < info.exactSize unit := Nat.zero_lt_of_lt hcapacity
    exact ⟨_, ValueInfo.byteCount_eq_ok_iff.2 ⟨unit, hunit, rfl, hpos, hlt⟩,
      bind_eq_error_iff.2 (.inl (Allocation.checkCapacity_eq_error_iff.2 ⟨hcapacity, rfl⟩))⟩

/-- What is allocated is as large as the value info says, and full of zeros. -/
theorem of_allocate_eq_ok (hunit : info.elementType.unitSize? = some unit) {t : Tensor}
    (h : allocate info options = .ok t) :
    t.info = info ∧ t.byteLength = info.exactSize unit ∧
      t.bytes = .ok (List.replicate (info.exactSize unit) 0) ∧
      t.elementCount = info.shape.dims.prod := by
  obtain ⟨count, hcount, -, rfl⟩ := allocate_eq_ok_iff.1 h
  have helements := ValueInfo.elementCount?_of_byteCount hcount
  obtain ⟨unit', hunit', rfl, -⟩ := ValueInfo.byteCount_eq_ok_iff.1 hcount
  cases hunit.symm.trans hunit'
  refine ⟨rfl, List.length_replicate, rfl, ?_⟩
  rw [elementCount, helements, Option.getD_some]

/-- **Allocation is decided in exact arithmetic.**  There is a tensor of zeros if its elements have
a width and its size, computed without bounds, is positive and fits into the place; it then has
exactly this size.  Otherwise the error says why: the size is too large if some partial product is;
if none is, it may still be zero, or more than the place can hold. -/
theorem allocate_exactly (info : ValueInfo) (options : TensorOptions) :
    ((∃ t, allocate info options = .ok t) ↔
      ∃ unit, info.elementType.unitSize? = some unit ∧ 1 ≤ info.exactSize unit ∧
        info.exactSize unit ≤ options.allocation.capacity) ∧
    (info.elementType.unitSize? = none →
      allocate info options = .error (.unsupportedOperation (.allocation info.elementType))) ∧
    ∀ unit, info.elementType.unitSize? = some unit →
      (∀ t, allocate info options = .ok t →
        t.info = info ∧ t.byteLength = info.exactSize unit ∧
        t.bytes = .ok (List.replicate (info.exactSize unit) 0) ∧
        t.elementCount = info.shape.dims.prod) ∧
      (allocate info options = .error (.illegalArgument (.tooLarge info)) ↔
        info.Overflows unit) ∧
      (allocate info options = .error (.illegalArgument (.noBytes info)) ↔
        ¬ info.Overflows unit ∧ info.exactSize unit = 0) ∧
      (allocate info options =
          .error (.illegalArgument (.overCapacity (info.exactSize unit) options.allocation)) ↔
        options.allocation.capacity < info.exactSize unit ∧ info.exactSize unit < sizeBound) ∧
      ∀ e, allocate info options = .error e →
        e = .illegalArgument (.tooLarge info) ∨ e = .illegalArgument (.noBytes info) ∨
        e = .illegalArgument (.overCapacity (info.exactSize unit) options.allocation) := by
  refine ⟨exists_allocate_eq_ok_iff, fun hunit => ?_, fun unit hunit => ⟨?_, ?_, ?_, ?_, ?_⟩⟩
  · rw [allocate, ValueInfo.byteCount, hunit]
    rfl
  · exact fun t h => of_allocate_eq_ok hunit h
  · rw [allocate_eq_error_iff hunit]
    simp
  · rw [allocate_eq_error_iff hunit]
    simp
  · rw [allocate_eq_error_iff hunit]
    simp
  · intro e h
    rcases (allocate_eq_error_iff hunit).1 h with ⟨-, he⟩ | ⟨-, -, he⟩ | ⟨-, -, he⟩
    · exact .inl he
    · exact .inr (.inl he)
    · exact .inr (.inr he)

/-- With a zero at the end the product is small, but it is too large on the way there; with the zero
in front nothing is ever too large. -/
theorem allocate_exactly_zero :
    allocate ⟨.uint8, ⟨[4294967296, 4294967296, 0]⟩⟩ {} =
        .error (.illegalArgument (.tooLarge ⟨.uint8, ⟨[4294967296, 4294967296, 0]⟩⟩)) ∧
      allocate ⟨.uint8, ⟨[0, 4294967296, 4294967296]⟩⟩ {} =
        .error (.illegalArgument (.noBytes ⟨.uint8, ⟨[0, 4294967296, 4294967296]⟩⟩)) := by
  obtain ⟨-, -, hlast⟩ := allocate_exactly ⟨.uint8, ⟨[4294967296, 4294967296, 0]⟩⟩ {}
  obtain ⟨-, htooLarge, -⟩ := hlast 1 rfl
  obtain ⟨-, -, hfirst⟩ := allocate_exactly ⟨.uint8, ⟨[0, 4294967296, 4294967296]⟩⟩ {}
  obtain ⟨-, -, hnoBytes, -⟩ := hfirst 1 rfl
  refine ⟨htooLarge.2 ⟨2, by decide⟩, hnoBytes.2 ⟨?_, by decide⟩⟩
  rw [← ValueInfo.checkedProduct_eq_none_iff_overflows]
  decide

end Tensor

end TensorGraph
