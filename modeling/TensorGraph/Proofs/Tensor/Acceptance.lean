import Mathlib.Algebra.BigOperators.Ring.Finset
import TensorGraph.Proofs.ContentErrors
import TensorGraph.Proofs.Tensor.Allocation
import TensorGraph.Proofs.Tensor.Decoding

/-!
# Which tensor records are read

A tensor record says three times how large its tensor is: by its dimensions, by its element type
and by its content.  It is read if the three agree, and this file says what that means, in exact
arithmetic and without the order in which anything is checked.

* `TensorRecord.Consistent` is the condition, and `fits_iff_exists_dimsFit` says that it asks for a
  number of elements that the dimensions describe and the content holds.
* `Tensor.kind_of_ofRecord` and `Tensor.ofRecord_eq_error_of_untyped` sort the errors: once the
  elements have a width, everything else that can be wrong is a wrong argument.
* `Tensor.ofRecord_exactly` puts both together.
-/

set_option autoImplicit false

namespace TensorGraph

/-! ## Consistent records -/

/-- Sizes that are not negative are the same as natural numbers. -/
theorem map_cast_toNat {dims : List Int64} (h : ∀ d ∈ dims, 0 ≤ d.toInt) :
    (dims.map fun d => d.toInt.toNat).map (Nat.cast : Nat → Int) = dims.map Int64.toInt := by
  rw [List.map_map]
  exact List.map_congr_left fun d hd => Int.toNat_of_nonneg (h d hd)

theorem cast_prod_toNat {dims : List Int64} (h : ∀ d ∈ dims, 0 ≤ d.toInt) :
    (((dims.map fun d => d.toInt.toNat).prod : Nat) : Int) = (dims.map Int64.toInt).prod := by
  rw [Nat.cast_list_prod, map_cast_toNat h]

namespace TensorRecord

variable {r : TensorRecord} {elementType : ElementType} {unit : Nat}

/-- The record names a type for its elements, and they have a width. -/
structure HasElements (r : TensorRecord) (elementType : ElementType) (unit : Nat) : Prop where
  elementType_eq : r.elementType = elementType.code
  unitSize?_eq : elementType.unitSize? = some unit

/-- There is content, and it has as many bytes as the dimensions ask for; without dimensions it may
be any number of whole elements. -/
def Fits (r : TensorRecord) (unit : Nat) : Prop :=
  0 < r.payloadLength ∧
    (r.dims = [] ∧ unit ∣ r.payloadLength ∨
      (∀ d ∈ r.dims, 0 ≤ d.toInt) ∧ unit * (r.dims.map Int64.toInt).prod = r.payloadLength)

/-- The parts of the record agree, and its content is part of it. -/
structure Consistent (r : TensorRecord) (elementType : ElementType) (unit : Nat) : Prop where
  location_ne : r.dataLocation ≠ some 1
  hasElements : r.HasElements elementType unit
  fits : r.Fits unit

theorem isExternal_eq_true_iff : r.isExternal = true ↔ r.dataLocation = some 1 := by
  simp [isExternal]

theorem isExternal_eq_false_iff : r.isExternal = false ↔ r.dataLocation ≠ some 1 := by
  simp [isExternal]

theorem HasElements.ofCode (h : r.HasElements elementType unit) :
    ElementType.ofCode r.elementType = .ok elementType := by
  rw [ElementType.ofCode_eq_ok_iff, h.elementType_eq, ElementType.ofCode?_code]

/-- The type of the elements and their width are read off the record. -/
theorem HasElements.unique {elementType' : ElementType} {unit' : Nat}
    (h : r.HasElements elementType unit) (h' : r.HasElements elementType' unit') :
    elementType = elementType' ∧ unit = unit' := by
  cases h.ofCode.symm.trans h'.ofCode
  cases h.unitSize?_eq.symm.trans h'.unitSize?_eq
  exact ⟨rfl, rfl⟩

/-- **The content fits** if there is a number of elements that it holds and the dimensions
describe. -/
theorem fits_iff_exists_dimsFit :
    r.Fits unit ↔
      ∃ count, r.payloadLength = unit * count ∧ 0 < unit * count ∧ DimsFit r.dims count := by
  constructor
  · rintro ⟨hpos, ⟨hdims, count, hcount⟩ | ⟨hdims, hprod⟩⟩
    · exact ⟨count, hcount, hcount ▸ hpos, .inl hdims⟩
    · rw [← cast_prod_toNat hdims] at hprod
      have hlength : r.payloadLength = unit * (r.dims.map fun d => d.toInt.toNat).prod := by
        exact_mod_cast hprod.symm
      exact ⟨_, hlength, hlength ▸ hpos, .inr ⟨hdims, rfl⟩⟩
  · rintro ⟨count, hlength, hpos, hdims | ⟨hdims, hprod⟩⟩
    · exact ⟨hlength ▸ hpos, .inl ⟨hdims, count, hlength⟩⟩
    · refine ⟨hlength ▸ hpos, .inr ⟨hdims, ?_⟩⟩
      rw [← cast_prod_toNat hdims, hprod, hlength, Nat.cast_mul]

/-- A shape that a record is given describes a number of elements that its dimensions do. -/
theorem dimsFit_of_shape {length : Nat} {shape : Shape} (h : r.shape unit length = .ok shape) :
    DimsFit r.dims shape.dims.prod := by
  rw [TensorRecord.shape] at h
  by_cases hdims : r.dims = []
  · exact .inl hdims
  · rw [if_neg hdims] at h
    obtain ⟨hsizes, rfl⟩ := Shape.ofDims_eq_ok_iff.1 h
    exact .inr ⟨hsizes, rfl⟩

theorem consistent_of_valueInfo {info : ValueInfo} (h : r.valueInfo = .ok info) :
    ∃ unit, r.Consistent info.elementType unit := by
  obtain ⟨hexternal, hcode, unit, hunit, hshape, hcount⟩ := valueInfo_eq_ok_iff.1 h
  obtain ⟨unit', hunit', hlength, hpos, -⟩ := ValueInfo.byteCount_eq_ok_iff.1 hcount
  cases hunit.symm.trans hunit'
  refine ⟨unit, isExternal_eq_false_iff.1 hexternal,
    ⟨(ElementType.ofCode?_eq_some_iff.1 hcode).symm, hunit⟩, ?_⟩
  exact fits_iff_exists_dimsFit.2 ⟨_, hlength, hlength ▸ hpos, dimsFit_of_shape hshape⟩

end TensorRecord

/-! ## What is wrong with the others -/

theorem ValueInfo.kind_of_byteCount {info : ValueInfo} {unit : Nat}
    (hunit : info.elementType.unitSize? = some unit) :
    FailsWith (fun e : Error => e.kind = .illegalArgument) info.byteCount := by
  intro e h
  rcases (byteCount_eq_error_iff hunit).1 h with ⟨-, rfl⟩ | ⟨-, -, rfl⟩
  · rfl
  · rfl

namespace Tensor

variable {r : TensorRecord}

/-- If the elements have a width, everything else that can be wrong is a wrong argument. -/
theorem kind_of_ofRecord {elementType : ElementType} {unit : Nat}
    (hlocation : r.dataLocation ≠ some 1) (h : r.HasElements elementType unit)
    (options : TensorOptions) :
    FailsWith (fun e : Error => e.kind = .illegalArgument) (ofRecord r options) := by
  rw [ofRecord_of_unitSize (TensorRecord.isExternal_eq_false_iff.2 hlocation) h.ofCode
    h.unitSize?_eq]
  refine (r.failsWith_shape (fun _ => rfl) _ _).bind fun shape => ?_
  exact (failsWith_ofBytes (fun _ => rfl)
    (@ValueInfo.kind_of_byteCount ⟨elementType, shape⟩ unit h.unitSize?_eq) _ _ _).mapError
      fun e he => (Error.kind_inTensor r.name e).trans he

/-- A record is not read if its code means no type whose elements have a width. -/
theorem ofRecord_eq_error_of_untyped (hlocation : r.dataLocation ≠ some 1)
    (h : ∀ elementType unit, ¬ r.HasElements elementType unit) (options : TensorOptions) :
    ∃ cause, ofRecord r options = .error (.unsupportedOperation cause) ∧
      (cause = .elementCode r.elementType ∨
        ∃ elementType, cause = .byteConversion r.name elementType) := by
  rw [ofRecord, TensorRecord.isExternal_eq_false_iff.2 hlocation, if_neg Bool.false_ne_true]
  cases hcode : ElementType.ofCode r.elementType with
  | error e =>
    rw [ElementType.ofCode] at hcode
    split at hcode
    · cases hcode
    · cases hcode
      exact ⟨_, rfl, .inl rfl⟩
  | ok elementType =>
    have hof := ElementType.ofCode?_eq_some_iff.1 (ElementType.ofCode_eq_ok_iff.1 hcode)
    have hunit : elementType.unitSize? = none := by
      rw [Option.eq_none_iff_forall_ne_some]
      exact fun unit hunit => h elementType unit ⟨hof.symm, hunit⟩
    refine ⟨.byteConversion r.name elementType, bind_eq_error_iff.2 (.inr ⟨_, rfl, ?_⟩),
      .inr ⟨_, rfl⟩⟩
    rw [hunit]
    rfl

/-- Content that fits is read, whatever the options are. -/
theorem exists_ofRecord_of_consistent {elementType : ElementType} {unit : Nat}
    (hsize : r.payloadLength < 0x7fffffffffffffc0) (h : r.Consistent elementType unit)
    (options : TensorOptions) : ∃ t, ofRecord r options = .ok t := by
  obtain ⟨count, hlength, hpos, hdims⟩ := TensorRecord.fits_iff_exists_dimsFit.1 h.fits
  exact ⟨_, ofRecord_of_dimsFit h.hasElements.elementType_eq
    (TensorRecord.isExternal_eq_false_iff.2 h.location_ne) hdims h.hasElements.unitSize?_eq hlength
    hpos (hlength ▸ hsize) options⟩

/-- **Exactly the consistent records are read.**  The content of a tensor record is read if it is
part of the record, its elements have a width, and it is as long as the dimensions ask for; without
dimensions they are inferred.  Otherwise content outside the record comes first and a type without
a width second, as what is not supported, and everything else is a wrong argument. -/
theorem ofRecord_exactly (hsize : r.payloadLength < 0x7fffffffffffffc0) (options : TensorOptions) :
    ((∃ t, ofRecord r options = .ok t) ↔ ∃ elementType unit, r.Consistent elementType unit) ∧
    (∀ t, ofRecord r options = .ok t →
      ∃ unit, r.HasElements t.info.elementType unit ∧
        (r.dims = [] → t.info.shape.dims = [r.payloadLength / unit]) ∧
        (r.dims ≠ [] → t.info.shape.dims.map Nat.cast = r.dims.map Int64.toInt) ∧
        t.byteLength = r.payloadLength) ∧
    ∀ e, ofRecord r options = .error e →
      (r.dataLocation = some 1 → e = .unsupportedOperation (.externalData r.name)) ∧
      (r.dataLocation ≠ some 1 → (∀ elementType unit, ¬ r.HasElements elementType unit) →
        ∃ cause, e = .unsupportedOperation cause ∧
          (cause = .elementCode r.elementType ∨
            ∃ elementType, cause = .byteConversion r.name elementType)) ∧
      (r.dataLocation ≠ some 1 → (∃ elementType unit, r.HasElements elementType unit) →
        e.kind = .illegalArgument) := by
  refine ⟨⟨?_, ?_⟩, ?_, fun e he => ⟨?_, ?_, ?_⟩⟩
  · rintro ⟨t, h⟩
    obtain ⟨info, hinfo, -, -⟩ := ofRecord_eq_ok_iff.1 h
    exact ⟨info.elementType, TensorRecord.consistent_of_valueInfo hinfo⟩
  · rintro ⟨elementType, unit, h⟩
    exact exists_ofRecord_of_consistent hsize h options
  · intro t h
    obtain ⟨info, hinfo, -, rfl⟩ := ofRecord_eq_ok_iff.1 h
    obtain ⟨-, hcode, unit, hunit, hshape, -⟩ := TensorRecord.valueInfo_eq_ok_iff.1 hinfo
    have htype := (ElementType.ofCode?_eq_some_iff.1 hcode).symm
    refine ⟨unit, ⟨htype, hunit⟩, fun hdims => ?_, fun hdims => ?_,
      TensorRecord.byteLength_tensor hinfo options⟩
    · rw [TensorRecord.shape, if_pos hdims, Except.ok.injEq] at hshape
      show info.shape.dims = _
      rw [← hshape]
    · rw [TensorRecord.shape, if_neg hdims] at hshape
      obtain ⟨hsizes, hshape⟩ := Shape.ofDims_eq_ok_iff.1 hshape
      show info.shape.dims.map _ = _
      rw [hshape, map_cast_toNat hsizes]
  · intro hlocation
    rw [ofRecord, TensorRecord.isExternal_eq_true_iff.2 hlocation] at he
    cases he
    rfl
  · intro hlocation huntyped
    obtain ⟨cause, herror, hcause⟩ := ofRecord_eq_error_of_untyped hlocation huntyped options
    cases he.symm.trans herror
    exact ⟨cause, rfl, hcause⟩
  · rintro hlocation ⟨elementType, unit, h⟩
    exact kind_of_ofRecord hlocation h options e he

/-- Four bytes are two numbers of 16 bits, and three bytes are none. -/
theorem ofRecord_exactly_int16 :
    (∃ t, ofRecord ({ elementType := 5, rawData := [1, 2, 3, 4] } : TensorRecord) ⟨.direct, .big⟩ =
        .ok t ∧ t.info.shape.dims = [2] ∧ t.byteLength = 4) ∧
      ∀ e, ofRecord ({ elementType := 5, rawData := [1, 2, 3] } : TensorRecord) {} = .error e →
        e.kind = .illegalArgument := by
  have hunit : ∀ rawData, ({ elementType := 5, rawData } : TensorRecord).HasElements .int16 2 :=
    fun _ => ⟨rfl, rfl⟩
  constructor
  · obtain ⟨hread, hwhat, -⟩ := ofRecord_exactly
      (r := { elementType := 5, rawData := [1, 2, 3, 4] }) (by decide) ⟨.direct, .big⟩
    obtain ⟨t, ht⟩ := hread.2 ⟨.int16, 2, by decide, hunit _, by decide, .inl ⟨rfl, by decide⟩⟩
    obtain ⟨unit, helements, hdims, -, hlength⟩ := hwhat t ht
    obtain ⟨-, rfl⟩ := helements.unique (hunit _)
    exact ⟨t, ht, hdims rfl, hlength⟩
  · obtain ⟨-, -, hwrong⟩ := ofRecord_exactly
      (r := { elementType := 5, rawData := [1, 2, 3] }) (by decide) {}
    exact fun e he => (hwrong e he).2.2 (by decide) ⟨_, _, hunit _⟩

end Tensor

end TensorGraph
