import TensorGraph.Proofs.Tensor.Decoding
import TensorGraph.Proofs.Tensor.Lifecycle

/-!
# Equality of tensors

Shapes are compared without their first dimension, and so are value infos; tensors are compared by
value info, byte order and bytes.  This comparison is symmetric and transitive, and a tensor equals
itself as long as it is not released.

For tensors that come from a constructor it is as fine as can be.  Their bytes are as many as their
dimensions say (`Sound`), so two of the same bytes have the same product of dimensions; it is not
zero, hence neither is the product of the dimensions that were compared, and it can be cancelled
(`Shape.eq_of_same`).  What is left is the first dimension.
-/

set_option autoImplicit false

namespace TensorGraph

/-! ## Shapes and value infos -/

namespace Shape

variable {a b c : Shape}

theorem same_iff : a.same b = true ↔ a.rank = b.rank ∧ a.dims.drop 1 = b.dims.drop 1 := by
  simp [same]

theorem same_symm (h : a.same b = true) : b.same a = true := by
  obtain ⟨hrank, hdims⟩ := same_iff.1 h
  exact same_iff.2 ⟨hrank.symm, hdims.symm⟩

theorem same_trans (hab : a.same b = true) (hbc : b.same c = true) : a.same c = true := by
  obtain ⟨hrank, hdims⟩ := same_iff.1 hab
  obtain ⟨hrank', hdims'⟩ := same_iff.1 hbc
  exact same_iff.2 ⟨hrank.trans hrank', hdims.trans hdims'⟩

/-- **The first dimension is pinned down by the number of elements**, if there are any. -/
theorem eq_of_same (h : a.same b = true) (hprod : a.dims.prod = b.dims.prod)
    (hpos : 0 < a.dims.prod) : a = b := by
  obtain ⟨hrank, hdims⟩ := same_iff.1 h
  obtain ⟨_ | ⟨x, xs⟩⟩ := a <;> obtain ⟨_ | ⟨y, ys⟩⟩ := b
  · rfl
  · cases hrank
  · cases hrank
  · replace hdims : xs = ys := hdims
    subst hdims
    rw [List.prod_cons, List.prod_cons] at hprod
    rw [List.prod_cons] at hpos
    rw [Nat.eq_of_mul_eq_mul_right (Nat.pos_of_mul_pos_left hpos) hprod]

end Shape

namespace ValueInfo

variable {a b c : ValueInfo}

theorem same_iff :
    a.same b = true ↔ a.elementType = b.elementType ∧ a.shape.same b.shape = true := by
  simp [same]

theorem same_symm (h : a.same b = true) : b.same a = true := by
  obtain ⟨htype, hshape⟩ := same_iff.1 h
  exact same_iff.2 ⟨htype.symm, Shape.same_symm hshape⟩

theorem same_trans (hab : a.same b = true) (hbc : b.same c = true) : a.same c = true := by
  obtain ⟨htype, hshape⟩ := same_iff.1 hab
  obtain ⟨htype', hshape'⟩ := same_iff.1 hbc
  exact same_iff.2 ⟨htype.trans htype', Shape.same_trans hshape hshape'⟩

/-- Value infos of the same number of bytes are compared exactly. -/
theorem eq_of_same {n : Nat} (h : a.same b = true) (ha : a.byteCount = .ok n)
    (hb : b.byteCount = .ok n) : a = b := by
  obtain ⟨htype, hshape⟩ := same_iff.1 h
  obtain ⟨unit, hunit, hexact, hpos, -⟩ := byteCount_eq_ok_iff.1 ha
  obtain ⟨unit', hunit', hexact', -⟩ := byteCount_eq_ok_iff.1 hb
  rw [← htype, hunit, Option.some.injEq] at hunit'
  subst hunit'
  rw [hexact] at hpos
  have hprod : a.shape.dims.prod = b.shape.dims.prod :=
    Nat.eq_of_mul_eq_mul_left (Nat.pos_of_mul_pos_right hpos) (hexact.symm.trans hexact')
  have hshape := Shape.eq_of_same hshape hprod (Nat.pos_of_mul_pos_left hpos)
  obtain ⟨elementType, shape⟩ := a
  obtain ⟨elementType', shape'⟩ := b
  obtain rfl : elementType = elementType' := htype
  obtain rfl : shape = shape' := hshape
  rfl

end ValueInfo

/-! ## Tensors -/

namespace Tensor

variable {a b c : Tensor}

theorem same_iff :
    a.same b = true ↔
      a.info.same b.info = true ∧ a.byteOrder = b.byteOrder ∧
        ∃ bytes, a.bytes = .ok bytes ∧ b.bytes = .ok bytes := by
  obtain ⟨info, order, _ | x⟩ := a
  · simp [same, bytes]
  · obtain ⟨info', order', _ | y⟩ := b
    · simp [same, bytes]
    · simp [same, bytes, and_assoc, @eq_comm Bytes y.bytes]

theorem same_symm (h : a.same b = true) : b.same a = true := by
  obtain ⟨hinfo, horder, bytes, ha, hb⟩ := same_iff.1 h
  exact same_iff.2 ⟨ValueInfo.same_symm hinfo, horder.symm, bytes, hb, ha⟩

theorem same_trans (hab : a.same b = true) (hbc : b.same c = true) : a.same c = true := by
  obtain ⟨hinfo, horder, bytes, ha, hb⟩ := same_iff.1 hab
  obtain ⟨hinfo', horder', bytes', hb', hc⟩ := same_iff.1 hbc
  cases hb.symm.trans hb'
  exact same_iff.2 ⟨ValueInfo.same_trans hinfo hinfo', horder.trans horder', bytes, ha, hc⟩

theorem isReleased_eq_false_iff : a.isReleased = false ↔ ∃ bytes, a.bytes = .ok bytes := by
  obtain ⟨info, order, _ | buffer⟩ := a
  · simp [isReleased, bytes]
  · simp [isReleased, bytes]

theorem same_self_iff : a.same a = true ↔ a.isReleased = false := by
  constructor
  · intro h
    obtain ⟨-, -, bytes, ha, -⟩ := same_iff.1 h
    exact isReleased_eq_false_iff.2 ⟨bytes, ha⟩
  · intro h
    rw [isReleased, Option.isNone_eq_false_iff, Option.isSome_iff_exists] at h
    obtain ⟨buffer, hbuffer⟩ := h
    exact same_self hbuffer

/-- A tensor that comes from a constructor, by any run of actions since. -/
def Reachable (t : Tensor) : Prop := ∃ start actions, Made start ∧ t = start.run actions

/-- The bytes of a tensor are as many as its value info says. -/
theorem Reachable.byteCount_eq (h : a.Reachable) {bytes : Bytes} (hbytes : a.bytes = .ok bytes) :
    a.info.byteCount = .ok bytes.length := by
  obtain ⟨start, actions, hmade, rfl⟩ := h
  have hsound := hmade.sound.run actions
  generalize start.run actions = t at hsound hbytes
  rw [Tensor.bytes] at hbytes
  split at hbytes
  · rename_i buffer hbuffer
    cases hbytes
    rw [hsound.info_eq]
    exact hsound.byteCount_eq buffer hbuffer
  · cases hbytes

/-- **Tensors that are equal have the same value info**, its first dimension included. -/
theorem Reachable.info_eq (ha : a.Reachable) (hb : b.Reachable) (h : a.same b = true) :
    a.info = b.info := by
  obtain ⟨hinfo, -, bytes, habytes, hbbytes⟩ := same_iff.1 h
  exact ValueInfo.eq_of_same hinfo (ha.byteCount_eq habytes) (hb.byteCount_eq hbbytes)

/-- **The comparison of tensors is exact.**  It is symmetric and transitive, and a tensor equals
itself unless it is released.  Of tensors that come from constructors, two that are equal have the
same dimensions, the first included; and two that are not released are equal if they agree in type,
dimensions, byte order and bytes, wherever these are kept. -/
theorem same_exactly :
    (∀ a b : Tensor, a.same b = true → b.same a = true) ∧
    (∀ a b c : Tensor, a.same b = true → b.same c = true → a.same c = true) ∧
    (∀ a : Tensor, a.same a = true ↔ a.isReleased = false) ∧
    ∀ a b : Tensor, a.Reachable → b.Reachable →
      (a.same b = true → a.info.shape.dims = b.info.shape.dims) ∧
      (a.isReleased = false → b.isReleased = false →
        (a.same b = true ↔
          a.info.elementType = b.info.elementType ∧ a.info.shape.dims = b.info.shape.dims ∧
          a.byteOrder = b.byteOrder ∧ a.bytes = b.bytes)) := by
  refine ⟨fun _ _ => same_symm, fun _ _ _ => same_trans, fun _ => same_self_iff,
    fun a b ha hb => ⟨fun h => by rw [ha.info_eq hb h], fun hlive _ => ?_⟩⟩
  constructor
  · intro h
    obtain ⟨-, horder, bytes, habytes, hbbytes⟩ := same_iff.1 h
    have hinfo := ha.info_eq hb h
    exact ⟨by rw [hinfo], by rw [hinfo], horder, habytes.trans hbbytes.symm⟩
  · rintro ⟨htype, hdims, horder, hbytes⟩
    obtain ⟨bytes, habytes⟩ := isReleased_eq_false_iff.1 hlive
    have hshape : a.info.shape.same b.info.shape = true := by simp [Shape.same, Shape.rank, hdims]
    exact same_iff.2 ⟨ValueInfo.same_iff.2 ⟨htype, hshape⟩, horder, bytes, habytes,
      hbytes ▸ habytes⟩

/-- Two and three rows count as the same shape, but no tensors of them are equal; one that is
written into equals one that is made of the same bytes elsewhere. -/
theorem same_exactly_rows :
    let two : Tensor := ⟨⟨.uint8, ⟨[2, 2]⟩⟩, .little, some ⟨[0, 0, 0, 0], .heap⟩⟩
    let three : Tensor := ⟨⟨.uint8, ⟨[3, 2]⟩⟩, .little, some ⟨[0, 0, 0, 0, 0, 0], .heap⟩⟩
    let elsewhere : Tensor := ⟨⟨.uint8, ⟨[2, 2]⟩⟩, .little, some ⟨[0, 7, 0, 0], .direct⟩⟩
    two.info.same three.info = true ∧ two.same three = false ∧
      (two.run [.overwrite 1 [7]]).same elsewhere = true := by
  intro two three elsewhere
  have htwo : Tensor.allocate ⟨.uint8, ⟨[2, 2]⟩⟩ {} = .ok two := by decide
  have hthree : Tensor.allocate ⟨.uint8, ⟨[3, 2]⟩⟩ {} = .ok three := by decide
  have helsewhere : Tensor.ofBytes ⟨.uint8, ⟨[2, 2]⟩⟩ [0, 7, 0, 0] .little ⟨.direct, .big⟩ =
      .ok elsewhere := by decide
  obtain ⟨-, -, -, hexact⟩ := same_exactly
  refine ⟨by decide, ?_, ?_⟩
  · rw [← Bool.not_eq_true]
    intro h
    have hdims := (hexact two three ⟨two, [], .allocate htwo, rfl⟩
      ⟨three, [], .allocate hthree, rfl⟩).1 h
    exact absurd hdims (by decide)
  · exact ((hexact _ elsewhere ⟨two, [.overwrite 1 [7]], .allocate htwo, rfl⟩
      ⟨elsewhere, [], .ofBytes helsewhere, rfl⟩).2 rfl rfl).2 ⟨rfl, rfl, rfl, rfl⟩

end Tensor

end TensorGraph
