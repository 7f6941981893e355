import Mathlib.Data.List.Induction
import TensorGraph.Attribute.Attributes
import TensorGraph.Proofs.Stages

/-!
# Which record an attribute comes from

A node keeps one attribute of each name, and the records of the node may be many more.
`AttributeRecord.deciding?` is the record that decides about a name: the last one of that name that
holds anything.  `Attributes.get?_ofRecords` says that the attribute of a name is what its deciding
record describes, and that there is none if no record decides.  `AttributeRecord.payload_eq_ok` says
which tensors of its record an attribute takes.
-/

set_option autoImplicit false

namespace TensorGraph

/-! ## One record -/

namespace Attribute

variable {r : AttributeRecord} {options : TensorOptions}

theorem ofRecord_eq_ok_none_iff : ofRecord r options = .ok none ↔ r.selected? = none := by
  rw [ofRecord]
  cases r.selected? with
  | none => simp
  | some kind =>
    constructor
    · intro h
      obtain ⟨a, -, h⟩ := bind_eq_ok_iff.1 h
      cases h
    · intro h
      cases h

theorem ofRecord_eq_ok_some_iff {a : Attribute} :
    ofRecord r options = .ok (some a) ↔
      ∃ kind, r.selected? = some kind ∧ r.payload options kind = .ok a := by
  rw [ofRecord]
  cases r.selected? with
  | none => simp
  | some kind =>
    constructor
    · intro h
      obtain ⟨a', ha, h⟩ := bind_eq_ok_iff.1 h
      cases h
      exact ⟨kind, rfl, ha⟩
    · rintro ⟨kind', hkind, ha⟩
      cases hkind
      exact bind_eq_ok_iff.2 ⟨a, ha, rfl⟩

end Attribute

/-- **The tensors of a payload**: there are none, or there is the one of the record, or there is the
list of the record. -/
theorem AttributeRecord.payload_eq_ok {r : AttributeRecord} {options : TensorOptions}
    {kind : AttributeKind} {a : Attribute} (h : r.payload options kind = .ok a) :
    a.ownedTensors = [] ∧ kind ≠ .tensors ∧ (kind = .tensor → r.tensor = none) ∨
      (∃ tr t, kind = .tensor ∧ r.tensor = some tr ∧ Tensor.ofRecord tr options = .ok t ∧
        a = .tensor t) ∨
      ∃ ts, kind = .tensors ∧ r.tensors.mapM (Tensor.ofRecord · options) = .ok ts ∧
        a = .tensors ts := by
  cases kind with
  | int | ints | float | floats | null =>
    cases h
    exact .inl ⟨rfl, by decide, nofun⟩
  | string | strings =>
    obtain ⟨_, -, h⟩ := bind_eq_ok_iff.1 h
    cases h
    exact .inl ⟨rfl, by decide, nofun⟩
  | tensor =>
    rw [payload] at h
    cases hr : r.tensor with
    | none =>
      rw [hr] at h
      cases h
      exact .inl ⟨rfl, by decide, fun _ => rfl⟩
    | some tr =>
      rw [hr] at h
      obtain ⟨t, ht, h⟩ := bind_eq_ok_iff.1 h
      cases h
      exact .inr (.inl ⟨tr, t, rfl, rfl, ht, rfl⟩)
  | tensors =>
    obtain ⟨ts, hts, h⟩ := bind_eq_ok_iff.1 h
    cases h
    exact .inr (.inr ⟨ts, rfl, hts, rfl⟩)

theorem Attributes.addRecord_eq_ok {r : AttributeRecord} {options : TensorOptions}
    {m m' : Attributes} (h : addRecord options m r = .ok m') :
    r.selected? = none ∧ m' = m ∨
      ∃ a, Attribute.ofRecord r options = .ok (some a) ∧ m' = m.insert r.name a := by
  rw [addRecord, bind_eq_ok_iff] at h
  obtain ⟨_ | a, ha, h⟩ := h
  · cases h
    exact .inl ⟨Attribute.ofRecord_eq_ok_none_iff.1 ha, rfl⟩
  · cases h
    exact .inr ⟨a, ha, rfl⟩

theorem Attributes.addRecord_eq_error_iff {r : AttributeRecord} {options : TensorOptions}
    {m : Attributes} {e : Error} :
    addRecord options m r = .error e ↔ Attribute.ofRecord r options = .error e := by
  rw [addRecord, bind_eq_error_iff, or_iff_left]
  rintro ⟨found, -, h⟩
  cases found <;> cases h

/-! ## Many records -/

/-- All records have to be decodable, and the first that is not decides. -/
theorem Attributes.ofRecords_eq_error_iff {records : List AttributeRecord} {options : TensorOptions}
    {e : Error} :
    ofRecords records options = .error e ↔
      FirstFault (fun r e => Attribute.ofRecord r options = .error e) records e := by
  rw [ofRecords]
  exact foldlM_eq_error_iff fun m r e => addRecord_eq_error_iff (m := m) (r := r) (e := e)

/-- The record that decides about a name: the last one of that name that holds anything. -/
def AttributeRecord.deciding? (records : List AttributeRecord) (name : String) :
    Option AttributeRecord :=
  (records.filter fun r => r.name == name && r.selected?.isSome).getLast?

theorem AttributeRecord.deciding?_concat (records : List AttributeRecord) (r : AttributeRecord)
    (name : String) :
    deciding? (records ++ [r]) name =
      if r.name = name ∧ r.selected?.isSome = true then some r else deciding? records name := by
  rw [deciding?, List.filter_append]
  by_cases h : r.name = name ∧ r.selected?.isSome = true
  · rw [if_pos h, List.filter_cons_of_pos (by simpa using h), List.filter_nil,
      List.getLast?_concat]
  · rw [if_neg h, List.filter_cons_of_neg (by simpa using h), List.filter_nil, List.append_nil,
      deciding?]

/-- **The attribute of a name** is what the record that decides about the name describes. -/
theorem Attributes.get?_ofRecords {records : List AttributeRecord} {options : TensorOptions}
    {m : Attributes} (h : ofRecords records options = .ok m) (name : String) :
    AttributeRecord.deciding? records name = none ∧ m.get? name = none ∨
      ∃ r a, AttributeRecord.deciding? records name = some r ∧
        Attribute.ofRecord r options = .ok (some a) ∧ m.get? name = some a := by
  induction records using List.reverseRecOn generalizing m with
  | nil =>
    cases h
    exact .inl ⟨rfl, rfl⟩
  | append_singleton records r ih =>
    rw [ofRecords, List.foldlM_append, bind_eq_ok_iff] at h
    obtain ⟨m₀, h₀, h⟩ := h
    rw [List.foldlM_cons, bind_eq_ok_iff] at h
    obtain ⟨m₁, h₁, h⟩ := h
    cases h
    rw [AttributeRecord.deciding?_concat]
    rcases addRecord_eq_ok h₁ with ⟨hnone, rfl⟩ | ⟨a, ha, rfl⟩
    · rw [hnone, if_neg (by simp)]
      exact ih h₀
    · obtain ⟨kind, hkind, -⟩ := Attribute.ofRecord_eq_ok_some_iff.1 ha
      rw [hkind, NameMap.get?_insert]
      by_cases hname : r.name = name
      · rw [if_pos ⟨hname, rfl⟩, if_pos hname.symm]
        exact .inr ⟨r, a, rfl, ha, rfl⟩
      · rw [if_neg fun h => hname h.1, if_neg fun h => hname h.symm]
        exact ih h₀

end TensorGraph
