import TensorGraph.Proofs.Tensor.Equality
import TensorGraph.Proofs.Tensor.Views

/-!
# Reading all at once and one by one

The numbers in a tensor can be had in two ways.  `Tensor.toList` takes all of them at once: it turns
the words around where they are not in the host's order, and then takes the bytes as they are.  A view
takes one number after the other, each of them decoded in the byte order of the tensor.  This module
says that both come to the same, and that the byte order cannot be told from either.

A tensor that is not released has as many bytes as its value info says, so its bytes are words that
are packed one after the other, one for each element (`Reachable.exists_pack`).  That is all that is
used of a tensor: `TensorView.performAll_next` says what a view reads from packed numbers, and
`Tensor.toList_of_encode` what is read in bulk.  Words packed in the other order are the reversed
words (`ByteOrder.pack_of_ne`).

`Tensor.toList_agrees_with_view` puts this together.
-/

set_option autoImplicit false

namespace TensorGraph

/-! ## Packed words -/

namespace ByteOrder

variable {order order' : ByteOrder}

/-- A word in the other byte order is the reversed word. -/
theorem encode_of_ne (h : order' ≠ order) (width n : Nat) :
    order'.encode width n = (order.encode width n).reverse := by
  cases order <;> cases order' <;> simp_all [encode, arrange]

theorem pack_of_ne (h : order' ≠ order) (width : Nat) (patterns : List Nat) :
    order'.pack width patterns =
      ((patterns.map (order.encode width)).map List.reverse).flatten := by
  rw [pack, List.flatMap_def, List.map_map]
  exact congrArg List.flatten (List.map_congr_left fun n _ => encode_of_ne h width n)

/-- Bit patterns of the width of a kind of numbers are packed like the numbers. -/
theorem pack_eq_flatMap_encode {α : Type} [FixedWidth α] {patterns : List Nat}
    (h : ∀ n ∈ patterns, n < wordCount (FixedWidth.width α)) :
    order.pack (FixedWidth.width α) patterns =
      (patterns.map (FixedWidth.ofPattern : Nat → α)).flatMap (FixedWidth.encode order) := by
  have hpattern : ∀ n ∈ patterns, FixedWidth.pattern (FixedWidth.ofPattern n : α) = n :=
    fun n hn => FixedWidth.pattern_ofPattern n (h n hn)
  rw [flatMap_encode, List.map_map]
  exact congrArg (order.pack _) ((List.map_congr_left hpattern).trans (List.map_id _)).symm

end ByteOrder

/-! ## One by one -/

namespace TensorView

variable {α : Type} [FixedWidth α] {v : TensorView} {values : List α}

theorem length_rest (v : TensorView) : v.rest.length = v.remaining := List.length_drop

theorem rest_advance (v : TensorView) (count : Nat) :
    ({ v with position := v.position + count } : TensorView).rest = v.rest.drop count :=
  List.drop_drop.symm

/-- A number that the view stands before is read, and passed. -/
theorem perform_next {value : α} {more : Bytes}
    (h : v.rest = FixedWidth.encode v.byteOrder value ++ more) :
    v.perform (.next α) =
      (.number α (some value), { v with position := v.position + FixedWidth.width α }) := by
  have hencode := FixedWidth.length_encode v.byteOrder value
  have hfits : v.position + FixedWidth.width α ≤ v.length := by
    have hpos : 0 < FixedWidth.width α := FixedWidth.width_pos
    have hremaining := v.length_rest
    rw [h, List.length_append, hencode, remaining] at hremaining
    omega
  have htake : v.rest.take (FixedWidth.width α) = FixedWidth.encode v.byteOrder value := by
    rw [h, List.take_left' hencode]
  rw [perform, next?, if_pos hfits, take, htake, hencode]
  show (Answer.number α (some (FixedWidth.decode v.byteOrder _)), _) = _
  rw [FixedWidth.decode_encode]

/-- At the end nothing is read. -/
theorem perform_next_of_rest_eq_nil (h : v.rest = []) :
    v.perform (.next α) = (.number α none, v) := by
  have hshort : ¬ v.position + FixedWidth.width α ≤ v.length := by
    have hpos : 0 < FixedWidth.width α := FixedWidth.width_pos
    have hremaining := v.length_rest
    rw [h, List.length_nil, remaining] at hremaining
    omega
  rw [perform, next?, if_neg hshort]

theorem performAll_next_of_rest_eq_nil (h : v.rest = []) (count : Nat) :
    v.performAll (List.replicate count (.next α)) = (List.replicate count (.number α none), v) := by
  induction count with
  | zero => rfl
  | succ count ih =>
    rw [List.replicate_succ, performAll, perform_next_of_rest_eq_nil h, ih, List.replicate_succ]

/-- **A view reads packed numbers in their order**, and however often it is asked after the last
one, there is nothing left. -/
theorem performAll_next (h : v.rest = values.flatMap (FixedWidth.encode v.byteOrder))
    (more : Nat) :
    ∃ v', v.performAll (List.replicate (values.length + more) (.next α)) =
        (values.map (fun value => .number α (some value)) ++
          List.replicate more (.number α none), v') ∧
      v'.remaining = 0 := by
  induction values generalizing v with
  | nil =>
    refine ⟨v, ?_, ?_⟩
    · rw [List.length_nil, Nat.zero_add, performAll_next_of_rest_eq_nil h]
      rfl
    · rw [← length_rest, h]
      rfl
  | cons value values ih =>
    rw [List.flatMap_cons] at h
    have hstep := perform_next h
    have hrest := v.rest_advance (FixedWidth.width α)
    rw [h, List.drop_left' (FixedWidth.length_encode v.byteOrder value)] at hrest
    obtain ⟨v', hrun, hend⟩ := ih hrest
    refine ⟨v', ?_, hend⟩
    rw [List.length_cons, Nat.add_right_comm, List.replicate_succ, performAll, hstep, hrun]
    rfl

end TensorView

namespace Tensor

variable {t : Tensor}

/-! ## All at once -/

/-- The bytes of a tensor that is not released are words, one for each element. -/
theorem Reachable.exists_pack (h : t.Reachable) (hlive : t.isReleased = false) {unit : Nat}
    (hunit : t.info.elementType.unitSize? = some unit) :
    ∃ patterns : List Nat, patterns.length = t.elementCount ∧
      (∀ n ∈ patterns, n < wordCount unit) ∧
      t.bytes = .ok (t.byteOrder.pack unit patterns) := by
  obtain ⟨bytes, hbytes⟩ := isReleased_eq_false_iff.1 hlive
  have hcount := h.byteCount_eq hbytes
  obtain ⟨unit', hunit', hlength, -⟩ := ValueInfo.byteCount_eq_ok_iff.1 hcount
  rw [hunit, Option.some.injEq] at hunit'
  subst hunit'
  obtain ⟨patterns, hpatterns, hlt, rfl⟩ := TensorGraph.exists_pack t.byteOrder hlength
  refine ⟨patterns, ?_, hlt, hbytes⟩
  rw [hpatterns, elementCount, ValueInfo.elementCount?_of_byteCount hcount, Option.getD_some]

theorem Reachable.exists_values (h : t.Reachable) (hlive : t.isReleased = false) {α : Type}
    [FixedWidth α] (hwidth : t.info.elementType.unitSize? = some (FixedWidth.width α)) :
    ∃ values : List α, values.length = t.elementCount ∧
      t.bytes = .ok (values.flatMap (FixedWidth.encode t.byteOrder)) := by
  obtain ⟨patterns, hpatterns, hlt, hbytes⟩ := h.exists_pack hlive hwidth
  refine ⟨patterns.map FixedWidth.ofPattern, ?_, ?_⟩
  · rw [List.length_map, hpatterns]
  · rw [hbytes, ByteOrder.pack_eq_flatMap_encode hlt]

/-- Tensors of packed words give the same numbers, whatever their byte orders are. -/
theorem toList_eq_of_pack {a b : Tensor} {unit : Nat} {patterns : List Nat}
    (hinfo : a.info = b.info)
    (hunit : a.info.elementType.unitSize? = some unit)
    (ha : a.bytes = .ok (a.byteOrder.pack unit patterns))
    (hb : b.bytes = .ok (b.byteOrder.pack unit patterns)) (host : ByteOrder) (α : Type)
    [FixedWidth α] : a.toList host α = b.toList host α := by
  by_cases hwidth : a.info.elementType.unitSize? = some (FixedWidth.width α)
  · rw [hunit, Option.some.injEq] at hwidth
    subst hwidth
    rw [toList_of_pack hunit ha, toList_of_pack (hinfo ▸ hunit) hb]
  · rw [toList_of_unitSize?_ne hwidth, toList_of_unitSize?_ne (hinfo ▸ hwidth), hinfo]

/-- Numbers that fill a shape make a tensor on any host, from which they can be read on any. -/
theorem exists_ofList {α : Type} [FixedWidth α] {info : ValueInfo} {values : List α}
    (hwidth : info.elementType.unitSize? = some (FixedWidth.width α)) (hne : values ≠ [])
    (hsize : FixedWidth.width α * values.length < 0x7fffffffffffffc0)
    (hdims : info.shape.dims.prod = values.length) (host : ByteOrder) (options : TensorOptions) :
    ∃ t, ofList host info values options = .ok t ∧ ∀ host', t.toList host' α = .ok values := by
  have hlength : (values.flatMap (FixedWidth.encode host)).length =
      FixedWidth.width α * values.length := by
    rw [ByteOrder.flatMap_encode, ByteOrder.length_pack, List.length_map]
  have hpos : 0 < FixedWidth.width α * values.length :=
    Nat.mul_pos FixedWidth.width_pos (List.length_pos_iff.2 hne)
  have hcount : info.byteCount = .ok (values.flatMap (FixedWidth.encode host)).length := by
    rw [hlength, ValueInfo.byteCount_eq_ok_iff]
    exact ⟨_, hwidth, by rw [hdims], hpos, Nat.lt_trans hsize (by decide)⟩
  have hcapacity := Allocation.le_capacity (hlength ▸ hsize) options.allocation
  exact ⟨_, ofList_eq_ok_iff.2 ⟨hwidth, ofBytes_eq_ok_iff.2 ⟨hcount, hcapacity, rfl⟩⟩,
    fun _ => toList_of_encode hwidth rfl⟩

/-! ## Both ways -/

/-- **Both ways of reading agree, in both byte orders**, on every host.  The numbers that are read in
bulk from a tensor that is not released are as many as its elements.  A new view of it gives the same numbers in
the same order, and nothing more after them.

If the words of a tensor are reversed and said to be in the other byte order, the same numbers are
read, wherever the bytes are kept.  And numbers that a tensor was made of are the ones that are read
from it. -/
theorem toList_agrees_with_view :
    (∀ t : Tensor, t.Reachable → t.isReleased = false →
      ∀ (α : Type) [FixedWidth α], t.info.elementType.unitSize? = some (FixedWidth.width α) →
        ∃ (values : List α) (v : TensorView),
          (∀ host, t.toList host α = .ok values) ∧ values.length = t.elementCount ∧ t.view = .ok v ∧
          ∀ more, ∃ v',
            v.performAll (List.replicate (values.length + more) (.next α)) =
              (values.map (fun value => .number α (some value)) ++
                List.replicate more (.number α none), v') ∧
            v'.remaining = 0) ∧
    (∀ (info : ValueInfo) (bytes : Bytes) (order order' : ByteOrder) (options : TensorOptions)
      (t : Tensor), ofBytes info bytes order options = .ok t → order' ≠ order →
        ∃ words : List Bytes, bytes = words.flatten ∧
          (∀ word ∈ words, info.elementType.unitSize? = some word.length) ∧
          ∀ options' : TensorOptions, bytes.length ≤ options'.allocation.capacity →
            ∃ t', ofBytes info (words.map List.reverse).flatten order' options' = .ok t' ∧
              ∀ host (α : Type) [FixedWidth α], t'.toList host α = t.toList host α) ∧
    ∀ (α : Type) [FixedWidth α] (host : ByteOrder) (info : ValueInfo) (values : List α)
      (options : TensorOptions),
      info.elementType.unitSize? = some (FixedWidth.width α) → values ≠ [] →
      FixedWidth.width α * values.length < 0x7fffffffffffffc0 →
      info.shape.dims.prod = values.length →
        ∃ t, ofList host info values options = .ok t ∧ ∀ host', t.toList host' α = .ok values := by
  refine ⟨?_, ?_, fun α _ host info values options hwidth hne hsize hdims =>
    exists_ofList hwidth hne hsize hdims host options⟩
  · intro t ht hlive α _ hwidth
    obtain ⟨values, hcount, hbytes⟩ := ht.exists_values hlive hwidth
    have hview : t.view = .ok ⟨values.flatMap (FixedWidth.encode t.byteOrder), t.byteOrder, 0⟩ := by
      rw [view, hbytes]
      rfl
    exact ⟨values, _, fun _ => toList_of_encode hwidth hbytes, hcount, hview,
      TensorView.performAll_next (v := ⟨_, t.byteOrder, 0⟩) List.drop_zero⟩
  · intro info bytes order order' options t ht hne
    obtain ⟨hcount, -, rfl⟩ := ofBytes_eq_ok_iff.1 ht
    obtain ⟨unit, hunit, hlength, -⟩ := ValueInfo.byteCount_eq_ok_iff.1 hcount
    obtain ⟨patterns, -, -, rfl⟩ := TensorGraph.exists_pack order hlength
    refine ⟨patterns.map (order.encode unit), ?_, ?_, fun options' hcapacity => ?_⟩
    · rw [ByteOrder.pack, List.flatMap_def]
    · intro word hword
      obtain ⟨n, -, rfl⟩ := List.mem_map.1 hword
      rw [ByteOrder.length_encode, hunit]
    · rw [← ByteOrder.pack_of_ne hne]
      rw [ByteOrder.length_pack, ← @ByteOrder.length_pack order' unit patterns] at hcount hcapacity
      refine ⟨_, ofBytes_eq_ok_iff.2 ⟨hcount, hcapacity, rfl⟩, fun host α _ => ?_⟩
      exact toList_eq_of_pack (a := ⟨info, order', _⟩) (b := ⟨info, order, _⟩) rfl hunit rfl rfl
        host α

/-- Two numbers of 16 bits, big-endian, are read in bulk and one by one, with one look too many; the
same with reversed words; and the same numbers are put into a tensor and read again. -/
theorem toList_agrees_with_view_pair :
    let t : Tensor := ⟨⟨.int16, ⟨[2]⟩⟩, .big, some ⟨[255, 254, 0, 1], .heap⟩⟩
    (∀ host, t.toList host Int16 = .ok [-2, 1]) ∧
      (∃ v v', t.view = .ok v ∧
        v.performAll (List.replicate 3 (.next Int16)) =
          ([.number Int16 (some (-2)), .number Int16 (some 1), .number Int16 none], v') ∧
        v'.remaining = 0) ∧
      (∃ t', ofBytes ⟨.int16, ⟨[2]⟩⟩ [254, 255, 1, 0] .little ⟨.direct, .big⟩ = .ok t' ∧
        ∀ host, t'.toList host Int16 = .ok [-2, 1]) ∧
      ∃ t', ofList .big ⟨.int16, ⟨[1, 2]⟩⟩ [(-2 : Int16), 1] ⟨.direct, .big⟩ = .ok t' ∧
        ∀ host, t'.toList host Int16 = .ok [-2, 1] := by
  intro t
  have ht : ofBytes ⟨.int16, ⟨[2]⟩⟩ [255, 254, 0, 1] .big {} = .ok t := by decide
  have hlist (host : ByteOrder) : t.toList host Int16 = .ok [-2, 1] := by
    cases host <;> decide
  obtain ⟨hread, hswap, hmake⟩ := toList_agrees_with_view
  refine ⟨hlist, ?_, ?_, hmake Int16 .big ⟨.int16, ⟨[1, 2]⟩⟩ [-2, 1] ⟨.direct, .big⟩ rfl (by decide)
    (by decide) rfl⟩
  · obtain ⟨values, v, hvalues, -, hv, hrun⟩ := hread t ⟨t, [], .ofBytes ht, rfl⟩ rfl Int16 rfl
    cases (hlist .big).symm.trans (hvalues .big)
    obtain ⟨v', hrun, hend⟩ := hrun 1
    exact ⟨v, v', hv, hrun, hend⟩
  · obtain ⟨words, hwords, hwidth, hreversed⟩ := hswap _ _ _ .little _ t ht (by decide)
    obtain ⟨t', ht', hlist'⟩ := hreversed ⟨.direct, .big⟩ (by decide)
    have hlength : ∀ word ∈ words, word.length = 2 := fun word hword =>
      (Option.some.inj (hwidth word hword)).symm
    have hcount : 4 = words.length * 2 := (congrArg List.length hwords).trans
      (length_flatten_words hlength)
    have hcut : cutWords 2 2 [255, 254, 0, 1] = words := by
      have h := cutWords_flatten hlength []
      rwa [List.append_nil, ← hwords, show words.length = 2 by omega] at h
    subst hcut
    exact ⟨t', ht', fun host => (hlist' host Int16).trans (hlist host)⟩

end Tensor

end TensorGraph
