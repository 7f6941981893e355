import Mathlib.Algebra.BigOperators.Group.List.Basic
import TensorGraph.Proofs.Stages
import TensorGraph.Tensor.Basic

/-!
# The size of a tensor

The number of bytes of a tensor is computed one factor at a time, with a check after every factor,
and each constructor of tensors compares it with the bytes it was given.  Here the checked product
is tied to the product without bounds, and each constructor gets one lemma that says when it
succeeds and with what; nothing after this module opens a constructor again.

* `eq_of_checkedProduct` and `checkedProduct_eq_some`: a checked product that comes out is the
  product, and one that is neither zero nor too large comes out.  (A zero can hide a partial product
  that was too large, so positivity is needed for the second.)
* `ValueInfo.byteCount_eq_ok_iff`: the number of bytes is the unit size times the product of the
  dimensions, in exact arithmetic, and is positive.
* `Tensor.allocate_eq_ok_iff`, `Tensor.ofBytes_eq_ok_iff` and `Tensor.ofList_eq_ok_iff`: what each
  constructor needs, and what it makes of it.
-/

set_option autoImplicit false

namespace TensorGraph

/-! ## Checked products -/

theorem checkedProduct_nil (size : Nat) : checkedProduct size [] = some size := rfl

theorem checkedProduct_cons (size d : Nat) (factors : List Nat) :
    checkedProduct size (d :: factors) =
      if size * d < sizeBound then checkedProduct (size * d) factors else none := by
  rw [checkedProduct, List.foldlM_cons]
  by_cases h : size * d < sizeBound
  · rw [if_pos h, if_pos h]
    rfl
  · rw [if_neg h, if_neg h]
    rfl

/-- A checked product that comes out is the product. -/
theorem eq_of_checkedProduct {size n : Nat} {factors : List Nat}
    (h : checkedProduct size factors = some n) : n = size * factors.prod := by
  induction factors generalizing size with
  | nil =>
    rw [checkedProduct_nil, Option.some.injEq] at h
    rw [List.prod_nil, Nat.mul_one, h]
  | cons d factors ih =>
    rw [checkedProduct_cons] at h
    split at h
    · rw [ih h, List.prod_cons, Nat.mul_assoc]
    · cases h

/-- A product that is neither zero nor too large comes out, since none of its partial products is
larger than it. -/
theorem checkedProduct_eq_some {size : Nat} {factors : List Nat} (hpos : 0 < size * factors.prod)
    (hlt : size * factors.prod < sizeBound) :
    checkedProduct size factors = some (size * factors.prod) := by
  induction factors generalizing size with
  | nil => rw [checkedProduct_nil, List.prod_nil, Nat.mul_one]
  | cons d factors ih =>
    rw [List.prod_cons, ← Nat.mul_assoc] at hpos hlt ⊢
    have hle : size * d ≤ size * d * factors.prod :=
      Nat.le_mul_of_pos_right _ (Nat.pos_of_mul_pos_left hpos)
    rw [checkedProduct_cons, if_pos (Nat.lt_of_le_of_lt hle hlt), ih hpos hlt]

theorem lt_of_checkedProduct {size n : Nat} {factors : List Nat} (hsize : size < sizeBound)
    (h : checkedProduct size factors = some n) : n < sizeBound := by
  induction factors generalizing size with
  | nil =>
    rw [checkedProduct_nil, Option.some.injEq] at h
    rwa [← h]
  | cons d factors ih =>
    rw [checkedProduct_cons] at h
    split at h
    · rename_i hlt
      exact ih hlt h
    · cases h

/-- Which positive products come out. -/
theorem checkedProduct_eq_some_iff {n : Nat} {factors : List Nat} (hpos : 0 < n) :
    checkedProduct 1 factors = some n ↔ n = factors.prod ∧ n < sizeBound := by
  constructor
  · intro h
    have hn := eq_of_checkedProduct h
    rw [Nat.one_mul] at hn
    exact ⟨hn, lt_of_checkedProduct (by decide) h⟩
  · rintro ⟨rfl, hlt⟩
    have h := @checkedProduct_eq_some 1 factors
    rw [Nat.one_mul] at h
    exact h hpos hlt

/-! ## The number of bytes -/

namespace ValueInfo

variable {info : ValueInfo} {n : Nat}

theorem byteCount_of_unitSize {unit : Nat} (hunit : info.elementType.unitSize? = some unit) :
    info.byteCount = .ok n ↔
      checkedProduct 1 (info.shape.dims ++ [unit]) = some n ∧ 0 < n := by
  simp only [byteCount, hunit]
  rcases checkedProduct 1 (info.shape.dims ++ [unit]) with _ | _ | m
  · simp
  · constructor
    · intro h
      cases h
    · rintro ⟨h, hpos⟩
      rw [← Option.some.inj h] at hpos
      exact absurd hpos (Nat.lt_irrefl 0)
  · constructor
    · intro h
      cases h
      exact ⟨rfl, m.succ_pos⟩
    · rintro ⟨h, -⟩
      cases Option.some.inj h
      rfl

/-- **The number of bytes of a tensor** is that of its elements times that of one element, in exact
arithmetic. -/
theorem byteCount_eq_ok_iff :
    info.byteCount = .ok n ↔
      ∃ unit, info.elementType.unitSize? = some unit ∧ n = unit * info.shape.dims.prod ∧
        0 < n ∧ n < sizeBound := by
  cases hunit : info.elementType.unitSize? with
  | none =>
    simp [byteCount, hunit]
  | some unit =>
    have hprod : (info.shape.dims ++ [unit]).prod = unit * info.shape.dims.prod := by
      rw [List.prod_append, List.prod_singleton, Nat.mul_comm]
    rw [byteCount_of_unitSize hunit]
    constructor
    · rintro ⟨h, hpos⟩
      obtain ⟨hn, hlt⟩ := (checkedProduct_eq_some_iff hpos).1 h
      exact ⟨unit, rfl, hn.trans hprod, hpos, hlt⟩
    · rintro ⟨unit', hunit', hn, hpos, hlt⟩
      cases hunit'
      exact ⟨(checkedProduct_eq_some_iff hpos).2 ⟨hn.trans hprod.symm, hlt⟩, hpos⟩

/-- A value whose bytes can be counted has elements that can be counted. -/
theorem elementCount?_of_byteCount (h : info.byteCount = .ok n) :
    info.shape.elementCount? = some info.shape.dims.prod := by
  obtain ⟨unit, hunit, hn, hpos, hlt⟩ := byteCount_eq_ok_iff.1 h
  have hprod : 0 < info.shape.dims.prod := by
    rw [hn] at hpos
    exact Nat.pos_of_mul_pos_left hpos
  have hle : info.shape.dims.prod ≤ n := by
    rw [hn]
    exact Nat.le_mul_of_pos_left _ (ElementType.unitSize?_pos hunit)
  exact (checkedProduct_eq_some_iff hprod).2 ⟨rfl, Nat.lt_of_le_of_lt hle hlt⟩

end ValueInfo

/-! ## The constructors -/

theorem Allocation.checkCapacity_eq_ok_iff {allocation : Allocation} {count : Nat} :
    allocation.checkCapacity count = .ok () ↔ count ≤ allocation.capacity := by
  rw [checkCapacity]
  by_cases h : count ≤ allocation.capacity
  · simp [h]
  · simp [h]

/-- What is shorter than this fits into every place. -/
theorem Allocation.le_capacity {n : Nat} (h : n < 0x7fffffffffffffc0) (allocation : Allocation) :
    n ≤ allocation.capacity := by
  cases allocation with
  | heap => exact Nat.le_trans (Nat.le_of_lt h) (by decide)
  | direct => exact Nat.le_of_lt h

theorem ElementType.checkWidth_eq_ok_iff {elementType : ElementType} {α : Type} [FixedWidth α] :
    elementType.checkWidth α = .ok () ↔ elementType.unitSize? = some (FixedWidth.width α) := by
  rw [checkWidth, holds]
  by_cases h : elementType.unitSize? = some (FixedWidth.width α)
  · simp [h]
  · simp [h]

namespace Tensor

variable {info : ValueInfo} {options : TensorOptions} {t : Tensor}

theorem allocate_eq_ok_iff :
    allocate info options = .ok t ↔
      ∃ count, info.byteCount = .ok count ∧ count ≤ options.allocation.capacity ∧
        t = ⟨info, options.byteOrder, some ⟨List.replicate count 0, options.allocation⟩⟩ := by
  rw [allocate, bind_eq_ok_iff]
  constructor
  · rintro ⟨count, hcount, h⟩
    obtain ⟨_, hcapacity, h⟩ := bind_eq_ok_iff.1 h
    cases h
    exact ⟨count, hcount, Allocation.checkCapacity_eq_ok_iff.1 hcapacity, rfl⟩
  · rintro ⟨count, hcount, hcapacity, rfl⟩
    exact ⟨count, hcount,
      bind_eq_ok_iff.2 ⟨(), Allocation.checkCapacity_eq_ok_iff.2 hcapacity, rfl⟩⟩

theorem ofBytes_eq_ok_iff {bytes : Bytes} {order : ByteOrder} :
    ofBytes info bytes order options = .ok t ↔
      info.byteCount = .ok bytes.length ∧ bytes.length ≤ options.allocation.capacity ∧
        t = ⟨info, order, some ⟨bytes, options.allocation⟩⟩ := by
  rw [ofBytes, bind_eq_ok_iff]
  constructor
  · rintro ⟨count, hcount, h⟩
    split at h
    · rename_i hlength
      obtain ⟨_, hcapacity, h⟩ := bind_eq_ok_iff.1 h
      cases h
      rw [← hlength] at hcount
      exact ⟨hcount, Allocation.checkCapacity_eq_ok_iff.1 (hlength ▸ hcapacity), rfl⟩
    · cases h
  · rintro ⟨hcount, hcapacity, rfl⟩
    refine ⟨bytes.length, hcount, ?_⟩
    rw [if_pos rfl]
    exact bind_eq_ok_iff.2 ⟨(), Allocation.checkCapacity_eq_ok_iff.2 hcapacity, rfl⟩

theorem ofList_eq_ok_iff {α : Type} [FixedWidth α] {host : ByteOrder} {values : List α} :
    ofList host info values options = .ok t ↔
      info.elementType.unitSize? = some (FixedWidth.width α) ∧
        ofBytes info (values.flatMap (FixedWidth.encode host)) host options = .ok t := by
  rw [ofList, bind_eq_ok_iff]
  constructor
  · rintro ⟨_, hwidth, h⟩
    exact ⟨ElementType.checkWidth_eq_ok_iff.1 hwidth, h⟩
  · rintro ⟨hwidth, h⟩
    exact ⟨(), ElementType.checkWidth_eq_ok_iff.2 hwidth, h⟩

end Tensor

end TensorGraph
