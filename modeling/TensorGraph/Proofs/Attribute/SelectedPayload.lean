import Mathlib.Data.List.Nodup
import TensorGraph.Proofs.Attribute.Records

/-!
# Only the payload that counts

An attribute record has eight fields for payloads, and an attribute is made of one of them.  Which
one it is can be said without going through the codes and the fields one after the other: a record
`Selects` the payload whose code it bears, or, if it bears none, the first payload in which there is
anything.  What a payload stands for is said by `Payload.Means`, and why it may stand for nothing by
`Payload.Fails`; neither of the two knows the record that the payload comes from.

`AttributeRecord.Selects.selected?_eq` and `AttributeRecord.payload_eq` say that records are read in
this way, and `Attribute.determined_by_payload` puts this together: whatever the other fields of a
record hold, they are never looked at.
-/

set_option autoImplicit false

namespace TensorGraph

theorem Binary32.isZero_iff {x : Binary32} :
    x.isZero = true ↔ x.bits = 0 ∨ x.bits = 0x80000000 := by
  have hlt := x.bits.toNat_lt
  rw [isZero, decide_eq_true_iff, magnitude, ← UInt32.toNat_inj, ← UInt32.toNat_inj]
  show _ ↔ x.bits.toNat = 0 ∨ x.bits.toNat = 0x80000000
  omega

/-! ## Payloads -/

/-- What one field of an attribute record holds. -/
inductive Payload where
  | int (value : Int64)
  | ints (values : List Int64)
  | float (value : Binary32)
  | floats (values : List Binary32)
  | string (bytes : Bytes)
  | strings (values : List Bytes)
  | tensor (record : Option TensorRecord)
  | tensors (records : List TensorRecord)

namespace Payload

/-- The kind of attribute that a payload is made for. -/
def kind : Payload → AttributeKind
  | int _ => .int
  | ints _ => .ints
  | float _ => .float
  | floats _ => .floats
  | string _ => .string
  | strings _ => .strings
  | tensor _ => .tensor
  | tensors _ => .tensors

/-- The code by which a record says that the payload counts. -/
def code : Payload → Int32
  | float _ => 1
  | int _ => 2
  | string _ => 3
  | tensor _ => 4
  | floats _ => 6
  | ints _ => 7
  | strings _ => 8
  | tensors _ => 9

/-- There is anything in the field.  Of floating-point numbers only the two zeros are nothing. -/
def Populated : Payload → Prop
  | int value => value ≠ 0
  | ints values => values ≠ []
  | float value => value.bits ≠ 0 ∧ value.bits ≠ 0x80000000
  | floats values => values ≠ []
  | string bytes => bytes ≠ []
  | strings values => values ≠ []
  | tensor record => record ≠ none
  | tensors records => records ≠ []

/-- The attribute that a payload stands for. -/
inductive Means (options : TensorOptions) : Payload → Attribute → Prop
  | int (value : Int64) : Means options (.int value) (.int value)
  | ints (values : List Int64) : Means options (.ints values) (.ints values)
  | float (value : Binary32) : Means options (.float value) (.float value)
  | floats (values : List Binary32) : Means options (.floats values) (.floats values)
  | string {bytes : Bytes} {text : String} (h : Text.ofUtf8? bytes = some text) :
      Means options (.string bytes) (.string text)
  | strings {values : List Bytes} {texts : List String}
      (h : List.Forall₂ (fun bytes text => Text.ofUtf8? bytes = some text) values texts) :
      Means options (.strings values) (.strings texts)
  | noTensor : Means options (.tensor none) .null
  | tensor {record : TensorRecord} {t : Tensor} (h : Tensor.ofRecord record options = .ok t) :
      Means options (.tensor (some record)) (.tensor t)
  | tensors {records : List TensorRecord} {ts : List Tensor}
      (h : List.Forall₂ (fun record t => Tensor.ofRecord record options = .ok t) records ts) :
      Means options (.tensors records) (.tensors ts)

/-- Why a payload cannot be decoded; of a list, the first entry at fault decides. -/
inductive Fails (name : String) (options : TensorOptions) : Payload → Error → Prop
  | string {bytes : Bytes} (h : Text.ofUtf8? bytes = none) :
      Fails name options (.string bytes) (.invalidUtf8 name)
  | strings {values : List Bytes} {e : Error}
      (h : FirstFault (fun bytes e => Text.ofUtf8? bytes = none ∧ e = .invalidUtf8 name) values e) :
      Fails name options (.strings values) e
  | tensor {record : TensorRecord} {e : Error} (h : Tensor.ofRecord record options = .error e) :
      Fails name options (.tensor (some record)) e
  | tensors {records : List TensorRecord} {e : Error}
      (h : FirstFault (fun record e => Tensor.ofRecord record options = .error e) records e) :
      Fails name options (.tensors records) e

theorem ofCode_code (p : Payload) : AttributeKind.ofCode p.code = p.kind := by
  cases p <;> rfl

theorem code_ne_zero (p : Payload) : p.code ≠ 0 := by
  cases p <;> simp [code]

/-! ## Decoding -/

/-- Decodes a text of the record with a name. -/
def decodeText (name : String) (bytes : Bytes) : Except Error String :=
  match Text.ofUtf8? bytes with
  | some text => .ok text
  | none => .error (.invalidUtf8 name)

/-- Decodes the payload of the record with a name. -/
def decode (name : String) (options : TensorOptions) : Payload → Except Error Attribute
  | int value => .ok (.int value)
  | ints values => .ok (.ints values)
  | float value => .ok (.float value)
  | floats values => .ok (.floats values)
  | string bytes => do return .string (← decodeText name bytes)
  | strings values => do return .strings (← values.mapM (decodeText name))
  | tensor none => .ok .null
  | tensor (some record) => do return .tensor (← Tensor.ofRecord record options)
  | tensors records => do return .tensors (← records.mapM (Tensor.ofRecord · options))

section Decode

variable {name : String} {options : TensorOptions} {p : Payload}

theorem decodeText_eq_ok_iff {bytes : Bytes} {text : String} :
    decodeText name bytes = .ok text ↔ Text.ofUtf8? bytes = some text := by
  rw [decodeText]
  cases Text.ofUtf8? bytes <;> simp

theorem decodeText_eq_error_iff {bytes : Bytes} {e : Error} :
    decodeText name bytes = .error e ↔ Text.ofUtf8? bytes = none ∧ e = .invalidUtf8 name := by
  rw [decodeText]
  cases Text.ofUtf8? bytes <;> simp [eq_comm]

/-- A payload is decoded to what it stands for. -/
theorem decode_eq_ok_iff {a : Attribute} : p.decode name options = .ok a ↔ p.Means options a := by
  constructor
  · intro h
    cases p with
    | int | ints | float | floats =>
      cases h
      constructor
    | string bytes =>
      obtain ⟨text, htext, h⟩ := bind_eq_ok_iff.1 h
      cases h
      exact .string (decodeText_eq_ok_iff.1 htext)
    | strings values =>
      obtain ⟨texts, htexts, h⟩ := bind_eq_ok_iff.1 h
      cases h
      exact .strings ((mapM_eq_ok_iff.1 htexts).imp fun _ _ => decodeText_eq_ok_iff.1)
    | tensor record =>
      cases record with
      | none =>
        cases h
        exact .noTensor
      | some record =>
        obtain ⟨t, ht, h⟩ := bind_eq_ok_iff.1 h
        cases h
        exact .tensor ht
    | tensors records =>
      obtain ⟨ts, hts, h⟩ := bind_eq_ok_iff.1 h
      cases h
      exact .tensors (mapM_eq_ok_iff.1 hts)
  · intro h
    cases h with
    | int | ints | float | floats | noTensor => rfl
    | string h => exact bind_eq_ok_iff.2 ⟨_, decodeText_eq_ok_iff.2 h, rfl⟩
    | strings h =>
      exact bind_eq_ok_iff.2
        ⟨_, mapM_eq_ok_iff.2 (h.imp fun _ _ => decodeText_eq_ok_iff.2), rfl⟩
    | tensor h => exact bind_eq_ok_iff.2 ⟨_, h, rfl⟩
    | tensors h => exact bind_eq_ok_iff.2 ⟨_, mapM_eq_ok_iff.2 h, rfl⟩

/-- A payload that cannot be decoded fails for its own reason. -/
theorem decode_eq_error_iff {e : Error} :
    p.decode name options = .error e ↔ p.Fails name options e := by
  -- what is made of the parts of a payload cannot fail any more
  have hpure {β : Type} {x : Except Error β} {f : β → Attribute} :
      (do return f (← x)) = .error e ↔ x = .error e := by
    cases x <;> simp [bind, Except.bind, pure, Except.pure]
  have htexts {values : List Bytes} : values.mapM (decodeText name) = .error e ↔
      FirstFault (fun bytes e => Text.ofUtf8? bytes = none ∧ e = .invalidUtf8 name) values e :=
    mapM_eq_error_iff.trans (firstFault_congr fun _ _ => decodeText_eq_error_iff)
  constructor
  · intro h
    cases p with
    | int | ints | float | floats => cases h
    | string bytes =>
      obtain ⟨htext, rfl⟩ := decodeText_eq_error_iff.1 (hpure.1 h)
      exact .string htext
    | strings values => exact .strings (htexts.1 (hpure.1 h))
    | tensor record =>
      cases record with
      | none => cases h
      | some record => exact .tensor (hpure.1 h)
    | tensors records => exact .tensors (mapM_eq_error_iff.1 (hpure.1 h))
  · intro h
    cases h with
    | string h => exact hpure.2 (decodeText_eq_error_iff.2 ⟨h, rfl⟩)
    | strings h => exact hpure.2 (htexts.2 h)
    | tensor h => exact hpure.2 h
    | tensors h => exact hpure.2 (mapM_eq_error_iff.2 h)

end Decode

end Payload

/-! ## Selection -/

namespace AttributeRecord

/-- The payloads of a record, in the order in which they are looked through. -/
def payloads (r : AttributeRecord) : List Payload :=
  [.int r.int, .ints r.ints, .float r.float, .floats r.floats, .string r.string,
    .strings r.strings, .tensor r.tensor, .tensors r.tensors]

/-- **The payload that counts**: that of the record's code or, if the code is zero, the first one in
which there is anything. -/
inductive Selects (r : AttributeRecord) (p : Payload) : Prop
  | typed (hmem : p ∈ r.payloads) (hcode : p.code = r.kind)
  | untyped {before after : List Payload} (hkind : r.kind = 0)
      (hsplit : r.payloads = before ++ p :: after) (hbefore : ∀ q ∈ before, ¬ q.Populated)
      (hpopulated : p.Populated)

variable {r : AttributeRecord} {options : TensorOptions} {p q : Payload}

theorem kinds_payloads (r : AttributeRecord) :
    r.payloads.map Payload.kind = AttributeKind.probeOrder := rfl

theorem codes_payloads (r : AttributeRecord) :
    r.payloads.map Payload.code = [2, 7, 1, 6, 3, 8, 4, 9] := rfl

theorem mem_payloads_iff :
    p ∈ r.payloads ↔ p = .int r.int ∨ p = .ints r.ints ∨ p = .float r.float ∨
      p = .floats r.floats ∨ p = .string r.string ∨ p = .strings r.strings ∨
      p = .tensor r.tensor ∨ p = .tensors r.tensors := by
  simp [payloads]

theorem eq_of_kind_eq (hp : p ∈ r.payloads) (hq : q ∈ r.payloads) (h : p.kind = q.kind) :
    p = q := by
  have hnodup : (r.payloads.map Payload.kind).Nodup := by
    rw [kinds_payloads]
    decide
  exact List.inj_on_of_nodup_map hnodup hp hq h

theorem populated_iff (hp : p ∈ r.payloads) : r.populated p.kind = true ↔ p.Populated := by
  rcases mem_payloads_iff.1 hp with rfl | rfl | rfl | rfl | rfl | rfl | rfl | rfl
  case inr.inr.inl =>
    show (!r.float.isZero) = true ↔ r.float.bits ≠ 0 ∧ r.float.bits ≠ 0x80000000
    rw [Bool.not_eq_true', ← Bool.not_eq_true, Binary32.isZero_iff, not_or]
  all_goals simp [populated, Payload.kind, Payload.Populated, Option.isSome_iff_ne_none]

/-- The kinds are looked through like the payloads. -/
theorem find?_probeOrder (r : AttributeRecord) :
    AttributeKind.probeOrder.find? r.populated =
      (r.payloads.find? fun p => r.populated p.kind).map Payload.kind := by
  rw [← r.kinds_payloads, List.find?_map]
  rfl

theorem find?_payloads_eq_some_iff :
    (r.payloads.find? fun p => r.populated p.kind) = some p ↔
      p.Populated ∧ ∃ before after, r.payloads = before ++ p :: after ∧
        ∀ q ∈ before, ¬ q.Populated := by
  rw [List.find?_eq_some_iff_append]
  have hmem {before after : List Payload} (h : r.payloads = before ++ p :: after) :
      p ∈ r.payloads ∧ ∀ q ∈ before, q ∈ r.payloads := by
    rw [h]
    exact ⟨by simp, fun q hq => List.mem_append_left _ hq⟩
  constructor
  · rintro ⟨hp, before, after, hsplit, hbefore⟩
    refine ⟨(populated_iff (hmem hsplit).1).1 hp, before, after, hsplit, fun q hq hpopulated => ?_⟩
    have := hbefore q hq
    rw [(populated_iff ((hmem hsplit).2 q hq)).2 hpopulated] at this
    cases this
  · rintro ⟨hp, before, after, hsplit, hbefore⟩
    refine ⟨(populated_iff (hmem hsplit).1).2 hp, before, after, hsplit, fun q hq => ?_⟩
    rw [Bool.not_eq_true', ← Bool.not_eq_true, populated_iff ((hmem hsplit).2 q hq)]
    exact hbefore q hq

theorem Selects.mem (h : r.Selects p) : p ∈ r.payloads := by
  cases h with
  | typed hmem _ => exact hmem
  | untyped _ hsplit _ _ =>
    rw [hsplit]
    simp

/-- **The kind of the payload that counts** is the one that is decoded. -/
theorem Selects.selected?_eq (h : r.Selects p) : r.selected? = some p.kind := by
  rw [selected?]
  cases h with
  | typed _ hcode => rw [if_neg (hcode ▸ p.code_ne_zero), ← hcode, p.ofCode_code]
  | untyped hkind hsplit hbefore hpopulated =>
    rw [if_pos hkind, find?_probeOrder,
      find?_payloads_eq_some_iff.2 ⟨hpopulated, _, _, hsplit, hbefore⟩, Option.map_some]

theorem Selects.unique (hp : r.Selects p) (hq : r.Selects q) : p = q :=
  eq_of_kind_eq hp.mem hq.mem (Option.some.inj (hp.selected?_eq.symm.trans hq.selected?_eq))

/-- The only payload without anything in it that still counts is a tensor that is left out. -/
theorem selects_noTensor_iff : r.Selects (.tensor none) ↔ r.kind = 4 ∧ r.tensor = none := by
  have hmem : Payload.tensor none ∈ r.payloads ↔ r.tensor = none := by
    simp [mem_payloads_iff, eq_comm]
  constructor
  · intro h
    refine ⟨?_, hmem.1 h.mem⟩
    cases h with
    | typed _ hcode => exact hcode.symm
    | untyped _ _ _ hpopulated => exact absurd rfl hpopulated
  · rintro ⟨hkind, htensor⟩
    exact .typed (hmem.2 htensor) hkind.symm

theorem exists_selects_of_kind (h : r.kind ∈ ([1, 2, 3, 4, 6, 7, 8, 9] : List Int32)) :
    ∃ p, r.Selects p := by
  have hcodes : r.kind ∈ r.payloads.map Payload.code := by
    rw [codes_payloads]
    simp only [List.mem_cons] at h ⊢
    tauto
  obtain ⟨p, hmem, hcode⟩ := List.mem_map.1 hcodes
  exact ⟨p, .typed hmem hcode⟩

theorem exists_selects_of_populated (hkind : r.kind = 0) (hmem : p ∈ r.payloads)
    (hpopulated : p.Populated) : ∃ q, r.Selects q := by
  have hsome : (r.payloads.find? fun p => r.populated p.kind).isSome = true :=
    List.find?_isSome.2 ⟨p, hmem, (populated_iff hmem).2 hpopulated⟩
  obtain ⟨q, hq⟩ := Option.isSome_iff_exists.1 hsome
  obtain ⟨hq, before, after, hsplit, hbefore⟩ := find?_payloads_eq_some_iff.1 hq
  exact ⟨q, .untyped hkind hsplit hbefore hq⟩

/-- A record that bears no code, and a code that stands for no payload. -/
theorem selected?_eq_none_iff :
    r.selected? = none ↔ r.kind = 0 ∧ ∀ p ∈ r.payloads, ¬ p.Populated := by
  rw [selected?]
  by_cases hkind : r.kind = 0
  · rw [if_pos hkind, find?_probeOrder, Option.map_eq_none_iff, List.find?_eq_none]
    simp only [hkind, true_and]
    exact forall₂_congr fun p hp => not_congr (populated_iff hp)
  · simp [hkind]

theorem selected?_of_unknown (h : r.kind ∉ ([0, 1, 2, 3, 4, 6, 7, 8, 9] : List Int32)) :
    r.selected? = some .null := by
  simp only [List.mem_cons, List.not_mem_nil, or_false, not_or] at h
  simp [selected?, AttributeKind.ofCode, h]

/-- The payload that counts is decoded, and nothing else is looked at. -/
theorem payload_eq (hp : p ∈ r.payloads) (options : TensorOptions) :
    r.payload options p.kind = p.decode r.name options := by
  rcases mem_payloads_iff.1 hp with rfl | rfl | rfl | rfl | rfl | rfl | rfl | rfl
  case inr.inr.inr.inr.inr.inr.inl =>
    rw [Payload.kind, payload]
    cases r.tensor <;> rfl
  all_goals rfl

end AttributeRecord

namespace Attribute

variable {r r' : AttributeRecord} {options : TensorOptions} {p : Payload}

/-! ## The attribute of a record -/

theorem ofRecord_of_selects (h : r.Selects p) :
    ofRecord r options = do return some (← p.decode r.name options) := by
  rw [ofRecord, h.selected?_eq]
  show (do return some (← r.payload options p.kind)) = _
  rw [AttributeRecord.payload_eq h.mem]

theorem ofRecord_eq_ok_of_selects (h : r.Selects p) {a : Attribute} :
    ofRecord r options = .ok (some a) ↔ p.Means options a := by
  rw [ofRecord_of_selects h, ← Payload.decode_eq_ok_iff]
  cases p.decode r.name options <;> simp [bind, Except.bind, pure, Except.pure]

theorem ofRecord_eq_error_of_selects (h : r.Selects p) {e : Error} :
    ofRecord r options = .error e ↔ p.Fails r.name options e := by
  rw [ofRecord_of_selects h, ← Payload.decode_eq_error_iff]
  cases p.decode r.name options <;> simp [bind, Except.bind, pure, Except.pure]

/-- Without a payload that counts, a record holds nothing, or nothing that is modelled. -/
theorem ofRecord_of_not_selects (h : ∀ p, ¬ r.Selects p) :
    ofRecord r options = .ok (if r.kind = 0 then none else some .null) := by
  by_cases hkind : r.kind = 0
  · rw [if_pos hkind, ofRecord_eq_ok_none_iff, AttributeRecord.selected?_eq_none_iff]
    refine ⟨hkind, fun p hp hpopulated => ?_⟩
    obtain ⟨q, hq⟩ := AttributeRecord.exists_selects_of_populated hkind hp hpopulated
    exact h q hq
  · have hunknown : r.kind ∉ ([0, 1, 2, 3, 4, 6, 7, 8, 9] : List Int32) := by
      rw [List.mem_cons, not_or]
      refine ⟨hkind, fun hmem => ?_⟩
      obtain ⟨q, hq⟩ := AttributeRecord.exists_selects_of_kind hmem
      exact h q hq
    rw [if_neg hkind, ofRecord, AttributeRecord.selected?_of_unknown hunknown]
    rfl

theorem ofRecord_eq_null_iff :
    ofRecord r options = .ok (some .null) ↔
      r.kind ∉ ([0, 1, 2, 3, 4, 6, 7, 8, 9] : List Int32) ∨ r.kind = 4 ∧ r.tensor = none := by
  rw [← AttributeRecord.selects_noTensor_iff]
  constructor
  · intro h
    by_cases hselects : ∃ p, r.Selects p
    · obtain ⟨p, hp⟩ := hselects
      cases (ofRecord_eq_ok_of_selects hp).1 h
      exact .inr hp
    · rw [not_exists] at hselects
      refine .inl fun hmem => ?_
      rcases List.mem_cons.1 hmem with hkind | hmem
      · rw [ofRecord_of_not_selects hselects, if_pos hkind] at h
        cases h
      · obtain ⟨p, hp⟩ := AttributeRecord.exists_selects_of_kind hmem
        exact hselects p hp
  · rintro (hunknown | hselects)
    · exact ofRecord_eq_ok_some_iff.2 ⟨.null, AttributeRecord.selected?_of_unknown hunknown, rfl⟩
    · exact (ofRecord_eq_ok_of_selects hselects).2 .noTensor

/-- **An attribute is determined by the payload of its record that counts.**  There is none exactly
if the record bears no code and nothing is in its fields; it is null exactly if the code is that of
no payload, or that of a tensor which is not there.  In all other cases one payload counts, and the
attribute is what this payload stands for, or the error is that of this payload.  So two records of
one name and code in which the same payload counts are read alike, whatever else is in them. -/
theorem determined_by_payload (r : AttributeRecord) (options : TensorOptions) :
    (ofRecord r options = .ok none ↔ r.kind = 0 ∧ ∀ p ∈ r.payloads, ¬ p.Populated) ∧
    (ofRecord r options = .ok (some .null) ↔
      r.kind ∉ ([0, 1, 2, 3, 4, 6, 7, 8, 9] : List Int32) ∨ r.kind = 4 ∧ r.tensor = none) ∧
    (ofRecord r options ≠ .ok none → ofRecord r options ≠ .ok (some .null) →
      ∃! p, r.Selects p) ∧
    (∀ p, r.Selects p →
      (∀ a, ofRecord r options = .ok (some a) ↔ p.Means options a) ∧
      ∀ e, ofRecord r options = .error e ↔ p.Fails r.name options e) ∧
    ∀ r' : AttributeRecord, r'.name = r.name → r'.kind = r.kind →
      (∀ p, r'.Selects p ↔ r.Selects p) → ofRecord r' options = ofRecord r options := by
  refine ⟨?_, ofRecord_eq_null_iff, ?_, fun p hp => ?_, fun r' hname hkind hselects => ?_⟩
  · rw [ofRecord_eq_ok_none_iff, AttributeRecord.selected?_eq_none_iff]
  · intro hnone hnull
    by_cases h : ∃ p, r.Selects p
    · obtain ⟨p, hp⟩ := h
      exact ⟨p, hp, fun q hq => hq.unique hp⟩
    · rw [not_exists] at h
      rw [ofRecord_of_not_selects h] at hnone hnull
      split at hnone
      · exact absurd rfl hnone
      · rename_i hkind
        rw [if_neg hkind] at hnull
        exact absurd rfl hnull
  · exact ⟨fun _ => ofRecord_eq_ok_of_selects hp, fun _ => ofRecord_eq_error_of_selects hp⟩
  · by_cases h : ∃ p, r.Selects p
    · obtain ⟨p, hp⟩ := h
      rw [ofRecord_of_selects hp, ofRecord_of_selects ((hselects p).2 hp), hname]
    · rw [not_exists] at h
      rw [ofRecord_of_not_selects h, ofRecord_of_not_selects fun p hp => h p ((hselects p).1 hp),
        hkind]

/-- A NaN counts, and what stands behind it is not looked at, though it cannot be decoded. -/
theorem determined_by_payload_nan :
    let r : AttributeRecord := { name := "alpha", float := ⟨0x7fc00001⟩ }
    let r' : AttributeRecord := { r with string := [0xff], tensor := some {}, tensors := [{}] }
    ofRecord r {} = .ok (some (.float ⟨0x7fc00001⟩)) ∧ ofRecord r' {} = ofRecord r {} := by
  intro r r'
  have hselects (s : AttributeRecord) (hs : s = r ∨ s = r') : s.Selects (.float r.float) := by
    refine @AttributeRecord.Selects.untyped s _ [.int 0, .ints []] (s.payloads.drop 3) ?_ ?_ ?_ ?_
    · rcases hs with rfl | rfl <;> rfl
    · rcases hs with rfl | rfl <;> rfl
    · simp [Payload.Populated]
    · exact ⟨by decide, by decide⟩
  have hr := hselects r (.inl rfl)
  have hr' := hselects r' (.inr rfl)
  obtain ⟨-, -, -, hmeans, halike⟩ := determined_by_payload r {}
  refine ⟨((hmeans _ hr).1 _).2 (.float _), halike r' rfl rfl fun p => ?_⟩
  exact ⟨fun hp => hp.unique hr' ▸ hr, fun hp => hp.unique hr ▸ hr'⟩

end Attribute

end TensorGraph
