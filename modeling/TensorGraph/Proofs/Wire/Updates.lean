import TensorGraph.Proofs.Wire.Takes
import TensorGraph.Wire.Message

/-!
# How data changes a record

A record is decoded by reading updates and applying them to the empty record, one update for each
field that was written.  `Message.Updates m budget data r r'` says that the data consists of such
fields and that they turn the record `r` into `r'`.

* `Updates.append` puts fields one after the other, and `decode_of_updates` goes from the empty
  record to what the data stands for.
* For each way to write a field there is one lemma that says how it changes a record: for a single
  value `Updates.scalarUnless` (left out if it is what the record holds already), for a list of
  numbers `Updates.packed`, and for byte strings, texts and records `Updates.repeated` and
  `Updates.optional`.

What a table puts where is not repeated here.  Each lemma asks that the table has a field of its
number and its kind, and that putting the value in gives the record that comes next; for a table
that is written out, both hold by definition.
-/

set_option autoImplicit false

namespace TensorGraph.Wire

open Encode

variable {R M α : Type}

namespace Message

variable {m : Message R} {sub : Message M} {budget : Nat} {r r' r'' : R}

/-- The data consists of fields that turn the record `r` into `r'`. -/
def Updates (m : Message R) (budget : Nat) (data : Bytes) (r r' : R) : Prop :=
  ∃ updates, (m.entry budget).TakesMany data updates ∧ applyAll updates r = r'

namespace Updates

theorem refl (r : R) : m.Updates budget [] r r := ⟨[], .nil, rfl⟩

theorem append {data data' : Bytes} (h : m.Updates budget data r r')
    (h' : m.Updates budget data' r' r'') : m.Updates budget (data ++ data') r r'' := by
  obtain ⟨updates, htakes, rfl⟩ := h
  obtain ⟨updates', htakes', rfl⟩ := h'
  exact ⟨updates ++ updates', htakes.append htakes', applyAll_append _ _ _⟩

/-- Pieces that are written for the entries of a list, each with what it does to the record. -/
theorem flatMap {piece : α → Bytes} {state : List α → R}
    (h : ∀ before a, m.Updates budget (piece a) (state before) (state (before ++ [a])))
    (before as : List α) :
    m.Updates budget (as.flatMap piece) (state before) (state (before ++ as)) := by
  induction as generalizing before with
  | nil =>
    rw [List.append_nil]
    exact refl _
  | cons a as ih =>
    have htail := ih (before ++ [a])
    rw [List.append_assoc] at htail
    exact (h before a).append htail

/-- The fields are read up to the end of the data. -/
theorem exists_many {data : Bytes} (h : m.Updates budget data r r')
    (hlen : data.length < Varint.bound) :
    ∃ updates, (m.entry budget).many 0 data = .ok (updates, []) ∧ applyAll updates r = r' := by
  obtain ⟨updates, htakes, happly⟩ := h
  have hmany := htakes.many hlen []
  rw [List.append_nil, List.length_nil] at hmany
  exact ⟨updates, hmany, happly⟩

end Updates

/-- **A byte string is decoded to what its fields turn the empty record into.** -/
theorem decode_of_updates {data : Bytes} (h : m.Updates depthLimit data m.empty r)
    (hlen : data.length < Varint.bound) : m.decode data = .ok r := by
  obtain ⟨updates, hmany, rfl⟩ := h.exists_many hlen
  rw [decode, hmany]

/-! ## One field -/

namespace Updates

variable {number : Nat} {label : String} {wireType : WireType} {data : Bytes}

/-- **A key and a value are read as what the field of that number makes of the value.** -/
theorem field {f : Field R} {update : R → R} (hf : m.field? number = some f)
    (h : (f.read budget wireType).Takes data update)
    (hnumber : Key.IsNumber number) :
    m.Updates budget (Key.encode ⟨number, wireType⟩ ++ data) r (update r) := by
  refine ⟨[update], Reader.Takes.many ((takes_key wireType hnumber).bind ?_), rfl⟩
  simp only [hf]
  exact h.within _

theorem scalar {s : Scalar α} {put : α → R → R} {a : α}
    (hf : m.field? number = some (.scalar number label s put)) (h : s.read.Takes data a)
    (hr : put a r = r') (hnumber : Key.IsNumber number) :
    m.Updates budget (Key.encode ⟨number, s.wireType⟩ ++ data) r r' := by
  have hread : (Field.scalar number label s put).read budget s.wireType = s.read.map put :=
    if_pos rfl
  rw [← hr]
  refine field hf ?_ hnumber
  rw [hread]
  exact h.map put

/-- A value that is left out under a condition under which it changes nothing. -/
theorem scalarUnless {p : Prop} [Decidable p] {s : Scalar α} {put : α → R → R} {a : α}
    (hf : m.field? number = some (.scalar number label s put)) (h : s.read.Takes data a)
    (hp : p → put a r = r) (hr : put a r = r')
    (hnumber : Key.IsNumber number) :
    m.Updates budget (if p then [] else Key.encode ⟨number, s.wireType⟩ ++ data) r r' := by
  split
  · rename_i hempty
    rw [← hr, hp hempty]
    exact refl r
  · exact scalar hf h hr hnumber

/-- A record in a field of its own. -/
theorem message {modify : (M → M) → R → R} {a : M}
    (hf : m.field? number = some (.message number label sub modify))
    (h : sub.Updates budget data sub.empty a)
    (hr : ∀ update, update sub.empty = a → modify update r = r')
    (hnumber : Key.IsNumber number) :
    m.Updates (budget + 1) (delimitedField number data) r r' := by
  obtain ⟨updates, htakes, hupdates⟩ := h
  have hread : (Field.message number label sub modify).read (budget + 1) .lengthDelimited =
      ((sub.entry budget).delimitedMany.map applyAll).map modify := rfl
  rw [← hr (applyAll updates) hupdates]
  refine field hf ?_ hnumber
  rw [hread]
  exact (htakes.delimited.map applyAll).map modify

/-! ## Lists and optional values -/

/-- A list of numbers behind one key. -/
theorem packed {s : Scalar α} {append : List α → R → R} {value : α → Bytes} {as : List α}
    (hf : m.field? number = some (.packable number label s append))
    (h : ∀ a, s.read.Takes (value a) a) (hnil : append [] r = r) (hr : append as r = r')
    (hnumber : Key.IsNumber number) :
    m.Updates budget (packedField number value as) r r' := by
  rw [packedField, ← hr]
  split
  · rename_i hempty
    rw [hempty, hnil]
    exact refl r
  · have hread : (Field.packable number label s append).read budget .lengthDelimited =
        s.read.delimitedMany.map append := rfl
    refine field hf ?_ hnumber
    rw [hread]
    exact (Reader.takesMany_flatMap h as).delimited.map append

/-- A list of values, each behind a key of its own; `withList` puts a list into the record. -/
theorem repeated {value : α → Bytes} {as : List α} (withList : List α → R → R)
    (h : ∀ before a, m.Updates budget (delimitedField number (value a)) (withList before r)
      (withList (before ++ [a]) r))
    (hnil : withList [] r = r) (hr : withList as r = r') :
    m.Updates budget (repeatedField number value as) r r' := by
  have hall : m.Updates budget (repeatedField number value as) (withList [] r)
      (withList ([] ++ as) r) := flatMap h [] as
  rwa [List.nil_append, hnil, hr] at hall

/-- A list of texts or byte strings. -/
theorem scalars {s : Scalar α} {put : α → R → R} {value : α → Bytes} {as : List α}
    (withList : List α → R → R) (hf : m.field? number = some (.scalar number label s put))
    (hs : s.wireType = .lengthDelimited) (h : ∀ a, s.read.Takes (delimited (value a)) a)
    (hput : ∀ a l, put a (withList l r) = withList (l ++ [a]) r) (hnil : withList [] r = r)
    (hr : withList as r = r') (hnumber : Key.IsNumber number) :
    m.Updates budget (repeatedField number value as) r r' := by
  refine repeated withList (fun before a => ?_) hnil hr
  rw [delimitedField, ← hs]
  exact scalar hf (h a) (hput a before) hnumber

/-- A list of records. -/
theorem messages {modify : (M → M) → R → R} {value : M → Bytes} {as : List M}
    (withList : List M → R → R) (hf : m.field? number = some (.message number label sub modify))
    (h : ∀ a, sub.Updates budget (value a) sub.empty a)
    (hmodify : ∀ update l, modify update (withList l r) = withList (l ++ [update sub.empty]) r)
    (hnil : withList [] r = r) (hr : withList as r = r')
    (hnumber : Key.IsNumber number) :
    m.Updates (budget + 1) (repeatedField number value as) r r' := by
  refine repeated withList (fun before a => message hf (h a) (fun update hupdate => ?_) hnumber)
    hnil hr
  rw [hmodify, hupdate]

/-- A record that may be absent; `withValue` puts it into the record around it. -/
theorem optional {modify : (M → M) → R → R} {value : M → Bytes} {a : Option M}
    (withValue : Option M → R → R)
    (hf : m.field? number = some (.message number label sub modify))
    (h : ∀ a, sub.Updates budget (value a) sub.empty a)
    (hmodify : ∀ update, modify update r = withValue (some (update sub.empty)) r)
    (hnone : withValue none r = r) (hr : withValue a r = r')
    (hnumber : Key.IsNumber number) :
    m.Updates (budget + 1) (optionalField number value a) r r' := by
  cases a with
  | none =>
    rw [← hr, hnone]
    exact refl r
  | some a =>
    refine message hf (h a) (fun update hupdate => ?_) hnumber
    rw [hmodify, hupdate, hr]

/-! ## Single values -/

theorem int64 {put : Int64 → R → R} {a : Int64}
    (hf : m.field? number = some (.scalar number label .int64 put)) (hzero : put 0 r = r)
    (hr : put a r = r') (hnumber : Key.IsNumber number) :
    m.Updates budget (int64Field number a) r r' :=
  scalarUnless hf (takes_int64 a) (fun h => h ▸ hzero) hr hnumber

theorem int32 {put : Int32 → R → R} {a : Int32}
    (hf : m.field? number = some (.scalar number label .int32 put)) (hzero : put 0 r = r)
    (hr : put a r = r') (hnumber : Key.IsNumber number) :
    m.Updates budget (int32Field number a) r r' :=
  scalarUnless hf (takes_int32 a) (fun h => h ▸ hzero) hr hnumber

theorem float {put : Binary32 → R → R} {a : Binary32}
    (hf : m.field? number = some (.scalar number label .float put)) (hzero : put ⟨0⟩ r = r)
    (hr : put a r = r') (hnumber : Key.IsNumber number) :
    m.Updates budget (floatField number a) r r' := by
  refine scalarUnless hf (takes_float a) (fun h => ?_) hr hnumber
  obtain ⟨bits⟩ := a
  cases h
  exact hzero

theorem bytes {put : Bytes → R → R} {a : Bytes}
    (hf : m.field? number = some (.scalar number label .bytes put)) (hempty : put [] r = r)
    (hr : put a r = r') (hnumber : Key.IsNumber number) :
    m.Updates budget (bytesField number a) r r' :=
  scalarUnless hf (takes_delimited a) (fun h => h ▸ hempty) hr hnumber

theorem string {put : String → R → R} {a : String}
    (hf : m.field? number = some (.scalar number label .string put)) (hempty : put "" r = r)
    (hr : put a r = r') (hnumber : Key.IsNumber number) :
    m.Updates budget (stringField number a) r r' := by
  refine scalarUnless hf (takes_string a) (fun h => ?_) hr hnumber
  have htext : some a = some "" := by
    rw [← Text.ofUtf8?_toUtf8 a, h]
    exact Text.ofUtf8?_toUtf8 ""
  cases htext
  exact hempty

end Updates
end Message
end TensorGraph.Wire
