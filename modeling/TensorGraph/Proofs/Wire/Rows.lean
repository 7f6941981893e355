import TensorGraph.Proofs.Wire.Skip
import TensorGraph.Wire.Message

/-!
# Rows of fields

What a byte string does to a record is what its fields do one after the other, so it can be taken
apart and put together field by field.

* `Message.changes` reads fields and composes what they do.
* `Contributes m budget data x` says that whatever stands behind the data, its fields do `x`: they
  change the record, or fail.  `Contributes.append` composes it, and `exists_contributes` says that
  every byte string of whole fields contributes something, also where the budget is smaller than
  the one it was read with.
* `Interchangeable m budget data data'` says less: whatever stands behind them, the one may stand
  for the other.  A record in a field may be replaced by one that it can be interchanged with
  (`Interchangeable.framed`), with its length adjusted.

All of it rests on the readers of fields finding what they read; a table whose fields are `Steady`
has this property.
-/

set_option autoImplicit false

namespace TensorGraph.Wire

variable {R M α : Type}

/-! ## Steady tables -/

/-- The field is found where it is read, and with a smaller budget it still is, or fails. -/
def Field.Steady (f : Field R) : Prop :=
  ∀ ⦃budget' budget⦄, budget' ≤ budget → ∀ wireType,
    (f.read budget' wireType).Follows (f.read budget wireType)

/-- All fields of the table are steady. -/
def Message.Steady (m : Message R) : Prop := ∀ f ∈ m.fields, f.Steady

namespace Message

variable {m : Message R} {sub : Message M} {budget budget' : Nat}

theorem Steady.follows_entry (hm : m.Steady) (h : budget' ≤ budget) :
    (m.entry budget').Follows (m.entry budget) := by
  refine Key.follows_reader.bind fun key => ?_
  cases hf : m.field? key.number with
  | none => exact (follows_skip h _ _).map _
  | some f => exact (hm f (List.mem_of_find?_eq_some hf) h _).within _

theorem Steady.follows_embedded (hm : m.Steady) (h : budget' ≤ budget) (wireType : WireType) :
    (m.embedded budget' wireType).Follows (m.embedded budget wireType) := by
  unfold embedded
  split
  · cases budget with
    | zero =>
      rw [Nat.le_zero.1 h]
      exact Reader.fail_follows _ _
    | succ budget =>
      have hpositive : ∀ b ≤ budget, ((m.entry b).delimitedMany.map applyAll).Follows
          ((m.entry budget).delimitedMany.map applyAll) := fun b hb =>
        ((hm.follows_entry hb).delimitedMany Varint.follows_reader).map _
      cases budget' with
      | zero => exact Reader.follows_fail (hpositive budget (Nat.le_refl _)) _
      | succ budget' => exact hpositive budget' (Nat.le_of_succ_le_succ h)
  · exact Reader.fail_follows _ _

end Message

namespace Field

@[simp] theorem Steady.scalar {number : Nat} {label : String} {s : Scalar α} {put : α → R → R}
    (hs : s.read.Follows s.read) : (Field.scalar number label s put).Steady := by
  intro budget' budget _ wireType
  rw [Field.scalar]
  dsimp only
  split
  · exact hs.map _
  · exact Reader.fail_follows _ _

@[simp] theorem Steady.packable {number : Nat} {label : String} {s : Scalar α}
    {append : List α → R → R} (hs : s.read.Follows s.read) :
    (Field.packable number label s append).Steady := by
  intro budget' budget _ wireType
  rw [Field.packable]
  dsimp only
  split
  · exact (hs.delimitedMany Varint.follows_reader).map _
  · split
    · exact hs.map _
    · exact Reader.fail_follows _ _

@[simp] theorem Steady.message {number : Nat} {label : String} {m : Message M}
    {modify : (M → M) → R → R} (hm : m.Steady) : (Field.message number label m modify).Steady :=
  fun _ _ h wireType => (hm.follows_embedded h wireType).map _

end Field

namespace Message

variable {m : Message R} {sub : Message M} {budget budget' : Nat} {data data' rest : Bytes}

/-! ## What fields do to a record -/

/-- Reads fields until no more than `limit` bytes are left: what they do to a record together, and
the bytes that are left. -/
def changes (m : Message R) (budget limit : Nat) (data : Bytes) :
    Except DecodeError ((R → R) × Bytes) :=
  ((m.entry budget).many limit data).map fun p => (applyAll p.1, p.2)

/-- Whatever stands behind the data, its fields do `x` to a record. -/
def Contributes (m : Message R) (budget : Nat) (data : Bytes)
    (x : Except DecodeError (R → R)) : Prop :=
  ∀ rest limit, limit ≤ rest.length → m.changes budget limit (data ++ rest) = do
    let change ← x
    let (later, rest') ← m.changes budget limit rest
    return (later ∘ change, rest')

/-- Whatever stands behind them, `data'` does to a record what `data` does. -/
def Interchangeable (m : Message R) (budget : Nat) (data data' : Bytes) : Prop :=
  ∀ rest limit, limit ≤ rest.length →
    m.changes budget limit (data ++ rest) = m.changes budget limit (data' ++ rest)

theorem changes_length (m : Message R) (budget : Nat) (rest : Bytes) :
    m.changes budget rest.length rest = .ok (id, rest) := by
  rw [changes, Reader.many_length]
  rfl

theorem decode_eq (m : Message R) (data : Bytes) :
    m.decode data = (m.changes depthLimit 0 data).map fun p => p.1 m.empty := by
  rw [decode, changes]
  cases (m.entry depthLimit).many 0 data <;> rfl

theorem changes_of_lt {limit : Nat} (hlt : limit < data.length) :
    m.changes budget limit data = do
      let (change, rest) ← (m.entry budget).run data
      let (later, rest') ← m.changes budget limit rest
      return (later ∘ change, rest') := by
  rw [changes, Reader.many_of_lt hlt]
  cases (m.entry budget).run data with
  | error e => rfl
  | ok p =>
    simp only [bind, Except.bind, changes]
    cases (m.entry budget).many limit p.2 <;> rfl

/-! ## Contributions -/

namespace Contributes

variable {x x' : Except DecodeError (R → R)}

theorem of_findsMany {y : Except DecodeError (List (R → R))}
    (h : (m.entry budget).FindsMany data y) : m.Contributes budget data (y.map applyAll) := by
  intro rest limit hlimit
  rw [changes, h rest limit hlimit, changes]
  cases y with
  | error e => rfl
  | ok us =>
    cases (m.entry budget).many limit rest with
    | error e => rfl
    | ok p =>
      simp only [bind, Except.bind, Except.map, pure, Except.pure]
      congr 2
      funext r
      exact applyAll_append us p.1 r

theorem of_finds (h : (m.entry budget).Finds data x) (hne : data ≠ []) :
    m.Contributes budget data x := by
  intro rest limit hlimit
  rw [changes_of_lt (Reader.Finds.lt_length hne hlimit), h rest]
  cases x <;> rfl

theorem append (h : m.Contributes budget data x) (h' : m.Contributes budget data' x') :
    m.Contributes budget (data ++ data') (do
      let change ← x
      let later ← x'
      return later ∘ change) := by
  intro rest limit hlimit
  have hlimit' : limit ≤ (data' ++ rest).length := by
    rw [List.length_append]
    omega
  rw [List.append_assoc, h _ limit hlimit', h' rest limit hlimit]
  cases x with
  | error e => rfl
  | ok change =>
    cases x' with
    | error e => rfl
    | ok later => cases m.changes budget limit rest <;> rfl

/-- What a byte string contributes decides what it is decoded to. -/
theorem decode (h : m.Contributes depthLimit data x) :
    m.decode data = x.map fun change => change m.empty := by
  have hall := h [] 0 (Nat.le_refl _)
  rw [List.append_nil, ← List.length_nil (α := UInt8), changes_length] at hall
  rw [decode_eq, ← List.length_nil (α := UInt8), hall]
  cases x <;> rfl

theorem interchangeable (h : m.Contributes budget data x) (h' : m.Contributes budget data' x) :
    m.Interchangeable budget data data' := by
  intro rest limit hlimit
  rw [h rest limit hlimit, h' rest limit hlimit]

end Contributes

/-! ## Rows -/

/-- The data is a row of whole fields. -/
def IsRow (m : Message R) (budget : Nat) (data : Bytes) : Prop :=
  ∃ updates, (m.entry budget).many 0 data = .ok (updates, [])

theorem isRow_of_decode {r : R} (h : m.decode data = .ok r) : m.IsRow depthLimit data := by
  rw [decode] at h
  split at h
  · cases h
  · rename_i updates rest hmany
    obtain rfl := List.length_eq_zero_iff.1 (Reader.length_of_many _ hmany)
    exact ⟨updates, hmany⟩

/-- What was read as a row of fields contributes what was read. -/
theorem Steady.contributes (hm : m.Steady) {updates : List (R → R)}
    (h : (m.entry budget).many 0 data = .ok (updates, [])) :
    m.Contributes budget data (.ok (applyAll updates)) := by
  obtain ⟨row, hdata, hrow | ⟨e, hrow⟩⟩ := (hm.follows_entry (Nat.le_refl budget)).many h
  · rw [List.append_nil] at hdata
    rw [hdata]
    exact .of_findsMany hrow
  · have herror := hrow [] 0 (Nat.le_refl _)
    rw [← hdata, h] at herror
    cases herror

/-- **A row of fields contributes something** also where the budget is smaller than the one it was
read with. -/
theorem IsRow.exists_contributes (h : m.IsRow budget data) (hm : m.Steady)
    (hbudget : budget' ≤ budget) : ∃ x, m.Contributes budget' data x := by
  obtain ⟨updates, hmany⟩ := h
  obtain ⟨row, hdata, hrow⟩ := (hm.follows_entry hbudget).many hmany
  rw [List.append_nil] at hdata
  rw [hdata]
  rcases hrow with hrow | ⟨e, hrow⟩
  · exact ⟨_, .of_findsMany hrow⟩
  · exact ⟨_, .of_findsMany hrow⟩

/-! ## Interchangeable data -/

namespace Interchangeable

theorem append_right (h : m.Interchangeable budget data data') (behind : Bytes) :
    m.Interchangeable budget (data ++ behind) (data' ++ behind) := by
  intro rest limit hlimit
  have hlimit' : limit ≤ (behind ++ rest).length := by
    rw [List.length_append]
    omega
  rw [List.append_assoc, List.append_assoc, h _ limit hlimit']

theorem append_left {front : Bytes} {x : Except DecodeError (R → R)}
    (hfront : m.Contributes budget front x) (h : m.Interchangeable budget data data') :
    m.Interchangeable budget (front ++ data) (front ++ data') := by
  intro rest limit hlimit
  have hle : ∀ d : Bytes, limit ≤ (d ++ rest).length := by
    intro d
    rw [List.length_append]
    omega
  rw [List.append_assoc, List.append_assoc, hfront _ limit (hle data),
    hfront _ limit (hle data'), h rest limit hlimit]

theorem decode_eq (h : m.Interchangeable depthLimit data data') :
    m.decode data = m.decode data' := by
  have hall := h [] 0 (Nat.le_refl _)
  rw [List.append_nil, List.append_nil] at hall
  rw [Message.decode_eq, Message.decode_eq, hall]

end Interchangeable

/-! ## Fields -/

section Entries

variable {number : Nat} {wireType : WireType} {key value : Bytes} {f : Field R}

/-- Behind a key stands a value of the field of its number. -/
theorem run_entry (hkey : Key.IsSpelling key ⟨number, wireType⟩) (hf : m.field? number = some f)
    (rest : Bytes) : (m.entry budget).run (key ++ rest) =
      ((f.read budget wireType).within ⟨m.name, f.label⟩).run rest := by
  simp only [entry, Reader.bind, hkey.finds rest, Except.map, hf]

theorem finds_entry {x : Except DecodeError (R → R)} (hkey : Key.IsSpelling key ⟨number, wireType⟩)
    (hf : m.field? number = some f) (h : (f.read budget wireType).Finds value x) :
    (m.entry budget).Finds (key ++ value) (x.mapError (·.within ⟨m.name, f.label⟩)) := by
  intro rest
  rw [List.append_assoc, run_entry hkey hf]
  exact h.within _ rest

/-- A field that the table does not have changes nothing. -/
theorem finds_entry_of_isField (h : IsField budget number data) (hf : m.field? number = none) :
    (m.entry budget).Finds data (.ok id) := by
  obtain ⟨key, value, wireType, rfl, hkey, -, hvalue⟩ := h.finds_skip
  refine hkey.finds.bind ?_
  simp only [hf]
  exact hvalue.map _

variable {label : String} {modify : (M → M) → R → R} {length content content' : Bytes}

/-- A record behind its length is read up to its end, and not cut out of the data. -/
theorem run_embedded (hlength : Varint.IsSpelling length content.length) (rest : Bytes) :
    (sub.embedded (budget + 1) .lengthDelimited).run (length ++ (content ++ rest)) =
      sub.changes budget rest.length (content ++ rest) := by
  have hfits : ¬ (content ++ rest).length < content.length := by
    rw [List.length_append]
    omega
  have hlimit : (content ++ rest).length - content.length = rest.length := by
    rw [List.length_append, Nat.add_sub_cancel_left]
  have hcontent : (sub.entry budget).delimitedMany.run (length ++ (content ++ rest)) =
      (sub.entry budget).many rest.length (content ++ rest) := by
    simp only [Reader.delimitedMany, hlength.finds (content ++ rest), Except.map, if_neg hfits,
      hlimit]
  have hembedded : sub.embedded (budget + 1) .lengthDelimited =
      (sub.entry budget).delimitedMany.map applyAll := rfl
  simp only [hembedded, Reader.map, Reader.mapOrFail, hcontent, changes]
  cases (sub.entry budget).many rest.length (content ++ rest) <;> rfl

/-- What a field with a record in it comes to is what the fields of that record come to. -/
theorem run_framed (hf : m.field? number = some (.message number label sub modify))
    (h : Framed number content data) (rest : Bytes) :
    (m.entry (budget + 1)).run (data ++ rest) =
      ((sub.changes budget rest.length (content ++ rest)).map
        fun p => (modify p.1, p.2)).mapError (·.within ⟨m.name, label⟩) := by
  obtain ⟨key, length, hkey, hlength, rfl⟩ := h
  have hread : (Field.message number label sub modify).read (budget + 1) .lengthDelimited =
      (sub.embedded (budget + 1) .lengthDelimited).map modify := rfl
  rw [List.append_assoc, List.append_assoc, run_entry hkey hf, hread]
  simp only [Reader.within, Reader.map, Reader.mapOrFail, run_embedded hlength rest]
  cases sub.changes budget rest.length (content ++ rest) <;> rfl

/-- **What a field with a record contributes** is what its content contributes to that record. -/
theorem Contributes.framed {x : Except DecodeError (M → M)}
    (hf : m.field? number = some (.message number label sub modify))
    (h : Framed number content data) (hcontent : sub.Contributes budget content x) :
    m.Contributes (budget + 1) data
      ((x.map modify).mapError (·.within ⟨m.name, label⟩)) := by
  refine .of_finds (fun rest => ?_) h.ne_nil
  rw [run_framed hf h, hcontent rest rest.length (Nat.le_refl _), changes_length]
  cases x <;> rfl

/-- **A record in a field may be replaced** by one that it can be interchanged with. -/
theorem Interchangeable.framed (hf : m.field? number = some (.message number label sub modify))
    (h : Framed number content data) (h' : Framed number content' data')
    (hcontent : sub.Interchangeable budget content content') :
    m.Interchangeable (budget + 1) data data' := by
  intro rest limit hlimit
  rw [changes_of_lt (Reader.Finds.lt_length h.ne_nil hlimit),
    changes_of_lt (Reader.Finds.lt_length h'.ne_nil hlimit), run_framed hf h, run_framed hf h',
    hcontent rest rest.length (Nat.le_refl _)]

end Entries

end Message
end TensorGraph.Wire
