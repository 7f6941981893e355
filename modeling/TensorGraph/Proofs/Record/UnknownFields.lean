import Mathlib.Logic.Relation
import TensorGraph.Proofs.Record.RoundTrip
import TensorGraph.Proofs.Record.Tables

/-!
# Fields that nobody knows

A record may hold fields that its table does not have, and they mean nothing, wherever they stand
between its other fields: also in a record inside it, whose length they add to, and whatever they
hold themselves.  `Inserted` says that one such field was put in somewhere in a tree of records,
and `IsTable.decode_eq_of_unknown` that decoding does not notice any number of them.

Nothing is assumed of what stands behind the field.  It may be data that cannot be read, and then
the error is the same with and without the field.
-/

set_option autoImplicit false

namespace TensorGraph

open Wire

/-! ## One field -/

namespace Wire

variable {R : Type} {m : Message R} {budget number : Nat} {field : Bytes}

theorem IsField.ne_nil (h : IsField budget number field) : field ≠ [] := by
  obtain ⟨key, value, wireType, rfl, hkey, -, -⟩ := h.finds_skip
  intro hnil
  exact hkey.finds.ne_nil (List.append_eq_nil_iff.1 hnil).1

namespace Message

theorem field?_eq_none (h : number ∉ m.fields.map Field.number) : m.field? number = none := by
  rw [field?, List.find?_eq_none]
  intro f hf heq
  exact h (List.mem_map.2 ⟨f, hf, beq_iff_eq.1 heq⟩)

/-- What the fields that were written turn a record into is no matter here. -/
theorem Updates.isRow {data : Bytes} {r r' : R} (h : m.Updates budget data r r')
    (hlen : data.length < Varint.bound) : m.IsRow budget data := by
  obtain ⟨updates, hmany, -⟩ := h.exists_many hlen
  exact ⟨updates, hmany⟩

/-- A field that the table does not have may stand where nothing stands. -/
theorem interchangeable_of_isField (h : IsField budget number field)
    (hnumber : number ∉ m.fields.map Field.number) : m.Interchangeable budget [] field := by
  have hfield : m.Contributes budget field (.ok id) :=
    .of_finds (finds_entry_of_isField h (field?_eq_none hnumber)) h.ne_nil
  have hnothing : m.Contributes budget [] (.ok id) := .of_findsMany (Reader.findsMany_nil _)
  exact hnothing.interchangeable hfield

/-- The same, behind fields that can be read and in front of anything. -/
theorem interchangeable_insert {front : Bytes} (hm : m.Steady) (hfront : m.IsRow budget front)
    (h : IsField budget number field) (hnumber : number ∉ m.fields.map Field.number)
    (behind : Bytes) :
    m.Interchangeable budget (front ++ behind) (front ++ (field ++ behind)) := by
  obtain ⟨x, hx⟩ := hfront.exists_contributes hm (Nat.le_refl budget)
  exact .append_left hx ((interchangeable_of_isField h hnumber).append_right behind)

end Message
end Wire

/-! ## Any number of fields, anywhere -/

/-- The second byte string is the first with one more field in it, which the table of the record
that it stands in does not have: in this record, behind some of its fields, or in a record inside
it, the length of which is written anew. -/
inductive Inserted : {R : Type} → Message R → (budget : Nat) → Bytes → Bytes → Prop
  | here {R : Type} {m : Message R} {budget number : Nat} {front field behind : Bytes}
    (hm : IsTable m) (hfront : m.IsRow budget front) (hfield : IsField budget number field)
    (hnumber : number ∉ m.fields.map Field.number) :
    Inserted m budget (front ++ behind) (front ++ (field ++ behind))
  | inside {R M : Type} {m : Message R} {sub : Message M} {budget number : Nat} {label : String}
    {modify : (M → M) → R → R} {front content content' record record' behind : Bytes}
    (hm : IsTable m) (hfront : m.IsRow (budget + 1) front)
    (hf : m.field? number = some (.message number label sub modify))
    (hrecord : Framed number content record) (hrecord' : Framed number content' record')
    (h : Inserted sub budget content content') :
    Inserted m (budget + 1) (front ++ (record ++ behind)) (front ++ (record' ++ behind))

/-- What is inserted deep inside is carried outwards, one record after the other. -/
theorem Inserted.interchangeable {R : Type} {m : Message R} {budget : Nat} {data data' : Bytes}
    (h : Inserted m budget data data') : m.Interchangeable budget data data' := by
  induction h with
  | here hm hfront hfield hnumber =>
    exact Message.interchangeable_insert hm.steady hfront hfield hnumber _
  | inside hm hfront hf hrecord hrecord' _ ih =>
    obtain ⟨x, hx⟩ := hfront.exists_contributes hm.steady (Nat.le_refl _)
    exact .append_left hx ((ih.framed hf hrecord hrecord').append_right _)

/-- **Fields that nobody knows change nothing.**  Behind a part of a record that can be read for
itself, a field of any layout, of a number that the table does not have, may stand or be left out;
and so may any number of them, in the record or in those inside it. -/
theorem IsTable.decode_eq_of_unknown {R : Type} {m : Message R} (hm : IsTable m) :
    (∀ front field behind number, (∃ r, m.decode front = .ok r) →
      IsField depthLimit number field → number ∉ m.fields.map Field.number →
      m.decode (front ++ (field ++ behind)) = m.decode (front ++ behind)) ∧
    ∀ data data', Relation.ReflTransGen (Inserted m depthLimit) data data' →
      m.decode data' = m.decode data := by
  constructor
  · intro front field behind number hfront hfield hnumber
    obtain ⟨r, hr⟩ := hfront
    have hrow := Message.isRow_of_decode hr
    exact (Message.interchangeable_insert hm.steady hrow hfield hnumber behind).decode_eq.symm
  · intro data data' h
    induction h with
    | refl => rfl
    | tail _ hstep ih => exact hstep.interchangeable.decode_eq.symm.trans ih

/-- A group of the number 99 with a number and a group in it. -/
def unknownGroup : Bytes :=
  Key.encode ⟨99, .startGroup⟩ ++ ([(1, Encode.varintField 1 (Varint.encode 300)),
    (2, Key.encode ⟨2, .startGroup⟩ ++ Key.encode ⟨2, .endGroup⟩)].flatMap Prod.snd ++
      Key.encode ⟨99, .endGroup⟩)

theorem isField_unknownGroup (depth : Nat) : IsField (depth + 2) 99 unknownGroup := by
  have hkey : ∀ number wireType, Key.IsNumber number →
      Key.IsSpelling (Key.encode ⟨number, wireType⟩) ⟨number, wireType⟩ :=
    fun _ _ h => Key.isSpelling_encode h
  refine .group (hkey 99 _ (by decide)) ?_ (hkey 99 _ (by decide))
  rw [List.forall_mem_cons, List.forall_mem_singleton]
  constructor
  · exact .varint (hkey 1 _ (by decide)) (Varint.isSpelling_encode (by decide))
  · have hinner : IsField (depth + 1) 2 (Key.encode ⟨2, .startGroup⟩ ++
        (([] : List (Nat × Bytes)).flatMap Prod.snd ++ Key.encode ⟨2, .endGroup⟩)) :=
      .group (hkey 2 _ (by decide)) (by simp) (hkey 2 _ (by decide))
    exact hinner

/-- A model without a graph. -/
def bareModel : Bytes := ({ irVersion := 7 } : ModelRecord).encode

/-- A graph without nodes. -/
def bareGraph : Bytes := ({ name := "g" } : GraphRecord).encode

theorem IsTable.decode_eq_of_unknown_group :
    IsTable ModelRecord.message ∧ (∃ r, ModelRecord.message.decode bareModel = .ok r) ∧
      IsField depthLimit 99 unknownGroup ∧
      99 ∉ ModelRecord.message.fields.map Field.number ∧
      ModelRecord.message.decode
          (bareModel ++ (unknownGroup ++ Encode.delimitedField 7 bareGraph)) =
        ModelRecord.message.decode (bareModel ++ Encode.delimitedField 7 bareGraph) ∧
      Relation.ReflTransGen (Inserted ModelRecord.message depthLimit)
        (bareModel ++ (Encode.delimitedField 7 bareGraph ++ []))
        (bareModel ++ (Encode.delimitedField 7 (bareGraph ++ (unknownGroup ++ [])) ++ [])) ∧
      ModelRecord.decode
          (bareModel ++ (Encode.delimitedField 7 (bareGraph ++ (unknownGroup ++ [])) ++ [])) =
        ModelRecord.decode (bareModel ++ (Encode.delimitedField 7 bareGraph ++ [])) := by
  have hmodel : ModelRecord.message.decode bareModel = .ok { irVersion := 7 } :=
    Message.decode_of_updates (ModelRecord.updates_encode 94 _) (by decide +kernel)
  have hgraph : GraphRecord.message.IsRow 99 bareGraph :=
    (GraphRecord.updates_encode 94 _).isRow (by decide +kernel)
  have hrecord : Framed 7 bareGraph (Encode.delimitedField 7 bareGraph) :=
    framed_delimitedField (by decide) (by decide +kernel)
  have hrecord' : Framed 7 (bareGraph ++ (unknownGroup ++ []))
      (Encode.delimitedField 7 (bareGraph ++ (unknownGroup ++ []))) :=
    framed_delimitedField (by decide) (by decide +kernel)
  have hinside : Inserted GraphRecord.message 99 (bareGraph ++ [])
      (bareGraph ++ (unknownGroup ++ [])) :=
    .here .graph hgraph (isField_unknownGroup 97) (by decide)
  rw [List.append_nil bareGraph] at hinside
  have hinserted : Inserted ModelRecord.message depthLimit
      (bareModel ++ (Encode.delimitedField 7 bareGraph ++ []))
      (bareModel ++ (Encode.delimitedField 7 (bareGraph ++ (unknownGroup ++ [])) ++ [])) :=
    .inside .model (Message.isRow_of_decode hmodel) rfl hrecord hrecord' hinside
  have hchain := Relation.ReflTransGen.single hinserted
  exact ⟨.model, ⟨_, hmodel⟩, isField_unknownGroup 98, by decide,
    (IsTable.decode_eq_of_unknown .model).1 _ _ _ 99 ⟨_, hmodel⟩ (isField_unknownGroup 98)
      (by decide), hchain, (IsTable.decode_eq_of_unknown .model).2 _ _ hchain⟩

end TensorGraph
