import Mathlib.Data.List.Dedup
import TensorGraph.Proofs.Attribute.Records

/-!
# The last record of a name that holds anything

Records of one name overwrite each other, records that hold nothing leave no trace, and a record
that cannot be decoded makes an end of it all, even if a later one would have taken its place.
`Attributes.last_record_counts` puts the three together and says what the accessors see of it.

The list is taken apart at the record that decides: nothing behind it is of the same name and holds
anything (`AttributeRecord.deciding?_eq_some_iff`).  `AttributeRecord.LastValue` is that with the
value of the record, and `Attributes.get?_ofRecords_eq_some_iff` says that the map holds just the
last values.
-/

set_option autoImplicit false

namespace TensorGraph

namespace AttributeRecord

variable {records : List AttributeRecord} {r : AttributeRecord} {name : String}

/-- A record decides if it holds something, and no record of its name that comes after it does. -/
theorem deciding?_eq_some_iff :
    deciding? records name = some r ↔ ∃ before after, records = before ++ r :: after ∧
      r.name = name ∧ r.selected? ≠ none ∧
      ∀ r' ∈ after, r'.name = name → r'.selected? = none := by
  rw [deciding?, List.getLast?_eq_some_iff]
  constructor
  · rintro ⟨front, h⟩
    obtain ⟨left, right, rfl, -, hright⟩ := List.filter_eq_append_iff.1 h
    obtain ⟨gap, after, rfl, -, hr, hafter⟩ := List.filter_eq_cons_iff.1 hright
    rw [List.filter_eq_nil_iff] at hafter
    rw [Bool.and_eq_true, beq_iff_eq, Option.isSome_iff_ne_none] at hr
    refine ⟨left ++ gap, after, by rw [List.append_assoc], hr.1, hr.2, fun r' hr' hname => ?_⟩
    simpa [hname] using hafter r' hr'
  · rintro ⟨before, after, rfl, hname, hvalue, hafter⟩
    have hnone : after.filter (fun r => r.name == name && r.selected?.isSome) = [] := by
      rw [List.filter_eq_nil_iff]
      intro r' hr' h
      rw [Bool.and_eq_true, beq_iff_eq] at h
      rw [hafter r' hr' h.1] at h
      cases h.2
    refine ⟨before.filter fun r => r.name == name && r.selected?.isSome, ?_⟩
    rw [List.filter_append, List.filter_cons_of_pos, hnone]
    rw [Bool.and_eq_true, beq_iff_eq, Option.isSome_iff_ne_none]
    exact ⟨hname, hvalue⟩

theorem deciding?_eq_none_iff :
    deciding? records name = none ↔ ∀ r ∈ records, r.name = name → r.selected? = none := by
  rw [deciding?, List.getLast?_eq_none_iff, List.filter_eq_nil_iff]
  simp

/-- The value of a name: that of a record of the name behind which no record of the name holds
anything. -/
def LastValue (records : List AttributeRecord) (options : TensorOptions) (name : String)
    (a : Attribute) : Prop :=
  ∃ before r after, records = before ++ r :: after ∧ r.name = name ∧
    Attribute.ofRecord r options = .ok (some a) ∧
    ∀ r' ∈ after, r'.name = name → Attribute.ofRecord r' options = .ok none

theorem lastValue_iff {options : TensorOptions} {a : Attribute} :
    LastValue records options name a ↔
      ∃ r, deciding? records name = some r ∧ Attribute.ofRecord r options = .ok (some a) := by
  constructor
  · rintro ⟨before, r, after, hrecords, hname, hr, hafter⟩
    refine ⟨r, deciding?_eq_some_iff.2 ⟨before, after, hrecords, hname, fun hnone => ?_, ?_⟩, hr⟩
    · rw [Attribute.ofRecord_eq_ok_none_iff.2 hnone] at hr
      cases hr
    · exact fun r' hr' h => Attribute.ofRecord_eq_ok_none_iff.1 (hafter r' hr' h)
  · rintro ⟨r, hdeciding, hr⟩
    obtain ⟨before, after, hrecords, hname, -, hafter⟩ := deciding?_eq_some_iff.1 hdeciding
    exact ⟨before, r, after, hrecords, hname, hr,
      fun r' hr' h => Attribute.ofRecord_eq_ok_none_iff.2 (hafter r' hr' h)⟩

end AttributeRecord

namespace Attributes

open AttributeRecord

variable {records : List AttributeRecord} {options : TensorOptions} {m : Attributes} {name : String}

/-! ## The map -/

theorem exists_ofRecords_iff :
    (∃ m, ofRecords records options = .ok m) ↔
      ∀ r ∈ records, ∃ found, Attribute.ofRecord r options = .ok found := by
  simp only [exists_ok_iff, ne_eq, ofRecords_eq_error_iff, forall_not_firstFault]

/-- **The map holds the last values.** -/
theorem get?_ofRecords_eq_some_iff (h : ofRecords records options = .ok m) {a : Attribute} :
    m.get? name = some a ↔ LastValue records options name a := by
  rw [lastValue_iff]
  rcases get?_ofRecords h name with ⟨hdeciding, hget⟩ | ⟨r, b, hdeciding, hr, hget⟩
  · simp [hdeciding, hget]
  · simp [hdeciding, hget, hr]

theorem contains_ofRecords_iff (h : ofRecords records options = .ok m) :
    m.contains name = true ↔
      ∃ r ∈ records, r.name = name ∧ Attribute.ofRecord r options ≠ .ok none := by
  have hnone : m.get? name = none ↔ deciding? records name = none := by
    rcases get?_ofRecords h name with ⟨hdeciding, hget⟩ | ⟨r, b, hdeciding, -, hget⟩
    · simp [hdeciding, hget]
    · simp [hdeciding, hget]
  rw [NameMap.contains, Option.isSome_iff_ne_none, Ne, hnone, deciding?_eq_none_iff]
  simp only [ne_eq, Attribute.ofRecord_eq_ok_none_iff]
  push Not
  rfl

/-- The names of the records that hold anything, each of them once. -/
def valuedNames (records : List AttributeRecord) (options : TensorOptions) : List String :=
  ((records.filter fun r => Attribute.ofRecord r options ≠ .ok none).map AttributeRecord.name).dedup

theorem size_ofRecords (h : ofRecords records options = .ok m) :
    m.size = (valuedNames records options).length := by
  refine NameMap.size_eq_length (List.nodup_dedup _) fun name => ?_
  rw [contains_ofRecords_iff h, valuedNames, List.mem_dedup, List.mem_map]
  simp only [List.mem_filter, decide_eq_true_eq]
  constructor
  · rintro ⟨r, ⟨hr, hvalue⟩, hname⟩
    exact ⟨r, hr, hname, hvalue⟩
  · rintro ⟨r, hr, hname, hvalue⟩
    exact ⟨r, ⟨hr, hvalue⟩, hname⟩

/-! ## The accessors -/

section Absent

variable (h : m.contains name = false)

include h

theorem read_of_absent (kind : ValueKind) : m.read name kind = .ok none := by
  rw [NameMap.contains, Option.isSome_eq_false_iff, Option.isNone_iff_eq_none] at h
  rw [read, h]

theorem readD_of_absent (kind : ValueKind) (default : Attribute) :
    m.readD name kind default = .ok default := by
  rw [readD, read_of_absent h]
  rfl

theorem tensor?_of_absent : m.tensor? name = .ok none := by
  rw [NameMap.contains, Option.isSome_eq_false_iff, Option.isNone_iff_eq_none] at h
  rw [tensor?, h]

theorem tensors?_of_absent : m.tensors? name = .ok none := by
  rw [NameMap.contains, Option.isSome_eq_false_iff, Option.isNone_iff_eq_none] at h
  rw [tensors?, h]

end Absent

section Present

variable {a : Attribute} (h : m.get? name = some a)

include h

theorem read_of_present (kind : ValueKind) :
    m.read name kind =
      if a.kind = kind then .ok (some a) else .error (.attributeKind name kind a.kind) := by
  rw [read, h]

theorem readD_of_present (kind : ValueKind) (default : Attribute) :
    m.readD name kind default =
      if a.kind = kind then .ok a else .error (.attributeKind name kind a.kind) := by
  rw [readD, read_of_present h]
  split <;> rfl

theorem tensor?_of_present :
    (∀ t, a = .tensor t → m.tensor? name = .ok (some t)) ∧
      (a.kind ≠ .tensor → m.tensor? name = .error (.attributeKind name .tensor a.kind)) := by
  rw [tensor?, h]
  cases a with
  | tensor t => exact ⟨fun _ ht => congrArg (Except.ok ∘ some) (Attribute.tensor.inj ht),
      fun hkind => absurd rfl hkind⟩
  | _ => exact ⟨nofun, fun _ => rfl⟩

theorem tensors?_of_present :
    (∀ ts, a = .tensors ts → m.tensors? name = .ok (some ts)) ∧
      (a.kind ≠ .tensors → m.tensors? name = .error (.attributeKind name .tensors a.kind)) := by
  rw [tensors?, h]
  cases a with
  | tensors ts => exact ⟨fun _ hts => congrArg (Except.ok ∘ some) (Attribute.tensors.inj hts),
      fun hkind => absurd rfl hkind⟩
  | _ => exact ⟨nofun, fun _ => rfl⟩

end Present

/-- **The last record of a name that holds anything counts.**  The records are read if each of them
can be decoded, and otherwise the first that cannot be is to blame, whether or not a later one has
its name.  What stands under a name in the end is its last value, there is something under just the
names for which some record holds something, and there are as many entries as such names.  Every
accessor goes by that: where there is nothing, it answers that or gives the default, and where there
is something, it gives it if it is of the kind that is asked for, and names both kinds if not.  So do
the two that ask for a tensor or a list of tensors. -/
theorem last_record_counts (records : List AttributeRecord) (options : TensorOptions) :
    (∀ e, ofRecords records options = .error e ↔
      FirstFault (fun r e => Attribute.ofRecord r options = .error e) records e) ∧
    ((∃ m, ofRecords records options = .ok m) ↔
      ∀ r ∈ records, ∃ found, Attribute.ofRecord r options = .ok found) ∧
    ∀ m, ofRecords records options = .ok m →
      (∀ name a, m.get? name = some a ↔ LastValue records options name a) ∧
      (∀ name, m.contains name = true ↔
        ∃ r ∈ records, r.name = name ∧ Attribute.ofRecord r options ≠ .ok none) ∧
      m.size = (valuedNames records options).length ∧
      (∀ name, m.contains name = false →
        (∀ kind, m.read name kind = .ok none) ∧
        (∀ kind default, m.readD name kind default = .ok default) ∧
        m.tensor? name = .ok none ∧ m.tensors? name = .ok none) ∧
      ∀ name a, m.get? name = some a →
        (∀ kind : ValueKind, m.read name kind =
          if a.kind = kind then .ok (some a) else .error (.attributeKind name kind a.kind)) ∧
        (∀ (kind : ValueKind) default, m.readD name kind default =
          if a.kind = kind then .ok a else .error (.attributeKind name kind a.kind)) ∧
        ((∀ t, a = .tensor t → m.tensor? name = .ok (some t)) ∧
          (a.kind ≠ .tensor → m.tensor? name = .error (.attributeKind name .tensor a.kind))) ∧
        (∀ ts, a = .tensors ts → m.tensors? name = .ok (some ts)) ∧
          (a.kind ≠ .tensors → m.tensors? name = .error (.attributeKind name .tensors a.kind)) := by
  refine ⟨fun _ => ofRecords_eq_error_iff, exists_ofRecords_iff, fun m h => ?_⟩
  refine ⟨fun _ _ => get?_ofRecords_eq_some_iff h, fun _ => contains_ofRecords_iff h,
    size_ofRecords h, ?_, ?_⟩
  · exact fun _ hname => ⟨read_of_absent hname, readD_of_absent hname, tensor?_of_absent hname,
      tensors?_of_absent hname⟩
  · exact fun _ _ ha => ⟨read_of_present ha, readD_of_present ha, tensor?_of_present ha,
      tensors?_of_present ha⟩

/-- The second value of `alpha` replaces the first, and the record of `alpha` that holds nothing
does not replace the second.  A record of `beta` that cannot be decoded would spoil all that, though
another one of `beta` follows. -/
theorem last_record_counts_repeated :
    let first : AttributeRecord := { name := "alpha", kind := 2, int := 3 }
    let second : AttributeRecord := { name := "alpha", ints := [1, 2] }
    let empty : AttributeRecord := { name := "alpha" }
    let external : AttributeRecord :=
      { name := "beta", kind := 4, tensor := some { name := "w", dataLocation := some 1 } }
    let good : AttributeRecord := { name := "beta", kind := 2 }
    (∃ m, ofRecords [first, second, empty, good] {} = .ok m ∧
      m.get? "alpha" = some (.ints [1, 2]) ∧ m.size = 2 ∧
      m.read "alpha" .int = .error (.attributeKind "alpha" .int .ints) ∧
      m.tensor? "alpha" = .error (.attributeKind "alpha" .tensor .ints) ∧
      m.readD "axis" .int (.int 7) = .ok (.int 7)) ∧
    ofRecords [first, second, external, empty, good] {} =
      .error (.unsupportedOperation (.externalData "w")) := by
  intro first second empty external good
  have hfirst : Attribute.ofRecord first {} = .ok (some (.int 3)) := rfl
  have hsecond : Attribute.ofRecord second {} = .ok (some (.ints [1, 2])) := rfl
  have hempty : Attribute.ofRecord empty {} = .ok none := rfl
  have hgood : Attribute.ofRecord good {} = .ok (some (.int 0)) := rfl
  constructor
  · obtain ⟨-, hok, hm⟩ := last_record_counts [first, second, empty, good] {}
    obtain ⟨m, h⟩ := hok.2 (by simp [hfirst, hsecond, hempty, hgood])
    obtain ⟨hget, hcontains, hsize, habsent, hpresent⟩ := hm m h
    have halpha : m.get? "alpha" = some (.ints [1, 2]) :=
      (hget _ _).2 ⟨[first], second, [empty, good], rfl, rfl, hsecond, by simp [hempty, good]⟩
    have haxis : m.contains "axis" = false := by
      rw [← Bool.not_eq_true, hcontains]
      simp [first, second, empty, good]
    refine ⟨m, h, halpha, ?_, (hpresent _ _ halpha).1 .int, (hpresent _ _ halpha).2.2.1.2 (by decide),
      (habsent _ haxis).2.1 _ _⟩
    rw [hsize]
    rfl
  · refine ((last_record_counts _ _).1 _).2 ⟨[first, second], external, [empty, good], rfl, ?_, rfl⟩
    simp [hfirst, hsecond]

end Attributes

end TensorGraph
