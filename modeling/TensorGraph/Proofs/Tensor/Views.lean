import TensorGraph.Tensor.View

/-!
# Views are independent cursors

Any number of views can be taken of a tensor, or copied from each other, and read in any order.
This module says that each of them is a cursor of its own over the same bytes.

`Operation` is one thing that can be done with a view, and `Effect` is the table of what it
answers and where it leaves the cursor, told by the bytes of the tensor alone; `effect_perform`
says that views behave as the table says.  All that is wanted of one operation is read off the
table: the cursor stays within the bytes (`Effect.le_length`), a failure does not move it
(`Effect.eq_of_failed`), and what is read is the slice that the cursor passes
(`Effect.chunk_eq`).  Slices that follow each other are one slice, and so is what is read between
two seeks (`exists_slice_performAll`).

`Readers` is a tensor with all views that were made so far.  A step keeps the invariant
(`Readers.Sound.step`) and moves one view at most (`getElem?_views_step`), so in a run each view
goes where its own operations lead, whatever is asked of the others (`getElem?_views_run`).
`Readers.independent_cursors` puts this together.
-/

set_option autoImplicit false

namespace TensorGraph

namespace TensorView

/-! ## Operations -/

/-- One thing that can be done with a view.  A copy makes another view, and is not among them. -/
inductive Operation : Type 1
  | next (α : Type) [FixedWidth α]
  | take (count : Nat)
  | takeAll
  | seek (position : Nat)
  | bytes

/-- What an operation comes back with. -/
inductive Answer : Type 1
  | number (α : Type) [FixedWidth α] (value : Option α)
  | raw (bytes : Bytes)
  | moved (result : Except Error Unit)
  | whole (bytes : Bytes)

/-- Whether there was no number left, or the position was refused. -/
def Answer.failed : Answer → Prop
  | @Answer.number _ _ value => value = none
  | .moved result => ∃ error, result = .error error
  | .raw _ | .whole _ => False

/-- The bytes that were read. -/
def Answer.chunk (order : ByteOrder) : Answer → Bytes
  | @Answer.number _ _ value =>
    match value with
    | some value => FixedWidth.encode order value
    | none => []
  | .raw bytes => bytes
  | .moved _ | .whole _ => []

/-- The answer to an operation, and the view afterwards.  Where no number is left and where a
position is refused, the view stays as it is. -/
def perform (v : TensorView) : Operation → Answer × TensorView
  | @Operation.next α _ =>
    match v.next? α with
    | some (value, v') => (.number α (some value), v')
    | none => (.number α none, v)
  | .take count => (.raw (v.take count).1, (v.take count).2)
  | .takeAll => (.raw v.takeAll.1, v.takeAll.2)
  | .seek position =>
    match v.seek position with
    | .ok v' => (.moved (.ok ()), v')
    | .error error => (.moved (.error error), v)
  | .bytes => (.whole v.bytes, v)

/-- The answers to operations one after the other, and the view afterwards. -/
def performAll (v : TensorView) : List Operation → List Answer × TensorView
  | [] => ([], v)
  | operation :: operations =>
    ((v.perform operation).1 :: ((v.perform operation).2.performAll operations).1,
      ((v.perform operation).2.performAll operations).2)

/-! ## What an operation does -/

/-- What an operation at a position answers, and the position afterwards, in terms of the bytes
that are viewed. -/
inductive Effect (content : Bytes) (order : ByteOrder) (p : Nat) : Operation → Answer → Nat → Prop
  | number {α : Type} [FixedWidth α] {value : α} {q : Nat} (hq : q = p + FixedWidth.width α)
      (hfits : q ≤ content.length) (hvalue : FixedWidth.encode order value = content.extract p q) :
      Effect content order p (.next α) (.number α (some value)) q
  | short {α : Type} [FixedWidth α] (hshort : content.length < p + FixedWidth.width α) :
      Effect content order p (.next α) (.number α none) p
  | take {count q : Nat} (hq : q = p + min count (content.length - p)) :
      Effect content order p (.take count) (.raw (content.extract p q)) q
  | takeAll :
      Effect content order p .takeAll (.raw (content.extract p content.length)) content.length
  | seek {q : Nat} (hq : q ≤ content.length) :
      Effect content order p (.seek q) (.moved (.ok ())) q
  | refuse {q : Nat} (hq : content.length < q) :
      Effect content order p (.seek q)
        (.moved (.error (.illegalArgument (.pastEnd q content.length)))) p
  | bytes : Effect content order p .bytes (.whole content) p

namespace Effect

variable {content : Bytes} {order : ByteOrder} {p q : Nat} {operation : Operation}
  {answer : Answer}

/-- The cursor stays within the bytes. -/
theorem le_length (h : Effect content order p operation answer q) (hp : p ≤ content.length) :
    q ≤ content.length := by
  cases h with
  | number _ hfits _ => exact hfits
  | short | refuse | bytes => exact hp
  | take hq => omega
  | takeAll => exact Nat.le_refl _
  | seek hq => exact hq

/-- A failure does not move the cursor. -/
theorem eq_of_failed (h : Effect content order p operation answer q) (hfailed : answer.failed) :
    q = p := by
  cases h with
  | short | refuse | bytes => rfl
  | number => cases hfailed
  | take | takeAll => exact hfailed.elim
  | seek =>
    obtain ⟨error, herror⟩ := hfailed
    cases herror

/-- Unless it is a seek, an operation reads the slice that the cursor passes. -/
theorem chunk_eq (h : Effect content order p operation answer q) (hp : p ≤ content.length)
    (hseek : ∀ r, operation ≠ .seek r) :
    p ≤ q ∧ answer.chunk order = content.extract p q := by
  have hnone : content.extract p p = [] := by
    rw [List.extract_eq_take_drop, Nat.sub_self, List.take_zero]
  cases h with
  | number hq _ hvalue => exact ⟨by omega, hvalue⟩
  | take hq => exact ⟨by omega, rfl⟩
  | takeAll => exact ⟨hp, rfl⟩
  | short | bytes => exact ⟨Nat.le_refl _, hnone.symm⟩
  | seek | refuse => exact absurd rfl (hseek _)

end Effect

/-- A number is read exactly if it is still there in whole. -/
theorem isSome_next?_iff (α : Type) [FixedWidth α] {v : TensorView} (hv : v.position ≤ v.length) :
    (v.next? α).isSome = true ↔ FixedWidth.width α ≤ v.remaining := by
  rw [next?, remaining]
  by_cases hfits : v.position + FixedWidth.width α ≤ v.length
  · rw [if_pos hfits]
    exact iff_of_true rfl (by omega)
  · rw [if_neg hfits]
    exact iff_of_false Bool.false_ne_true (by omega)

/-! ## The invariant of a view -/

/-- **The invariant of views**: a cursor within the bytes that are viewed. -/
structure Sound (content : Bytes) (order : ByteOrder) (v : TensorView) : Prop where
  bytes_eq : v.bytes = content
  byteOrder_eq : v.byteOrder = order
  position_le : v.position ≤ content.length

section Sound

variable {content : Bytes} {order : ByteOrder} {v : TensorView}

/-- The next bytes are the slice that the cursor passes. -/
theorem Sound.take_eq (h : v.Sound content order) (count : Nat) :
    v.take count =
      (content.extract v.position (v.position + min count (content.length - v.position)),
        { v with position := v.position + min count (content.length - v.position) }) := by
  have hmin : (v.bytes.drop v.position).take count =
      (v.bytes.drop v.position).take (min count (v.bytes.drop v.position).length) :=
    List.take_eq_take_min
  rw [take, rest, hmin, List.extract_eq_take_drop, Nat.add_sub_cancel_left, h.bytes_eq]
  simp

/-- **What a view does is what the table says**, and nothing of it but the position changes. -/
theorem Sound.effect_perform (h : v.Sound content order) (operation : Operation) :
    ∃ q, Effect content order v.position operation (v.perform operation).1 q ∧
      (v.perform operation).2 = { v with position := q } := by
  have hlength : v.length = content.length := by rw [length, h.bytes_eq]
  have hposition := h.position_le
  cases operation with
  | @next α _ =>
    rw [perform, next?, hlength]
    by_cases hfits : v.position + FixedWidth.width α ≤ content.length
    · rw [if_pos hfits, h.take_eq, Nat.min_eq_left (by omega), h.byteOrder_eq]
      refine ⟨_, .number rfl hfits (FixedWidth.encode_decode order ?_), rfl⟩
      rw [List.length_take, List.length_drop]
      omega
    · rw [if_neg hfits]
      exact ⟨_, .short (by omega), rfl⟩
  | take count =>
    rw [perform, h.take_eq]
    exact ⟨_, .take rfl, rfl⟩
  | takeAll =>
    rw [perform, takeAll, h.take_eq, remaining, hlength, Nat.min_self,
      Nat.add_sub_cancel' hposition]
    exact ⟨_, .takeAll, rfl⟩
  | seek position =>
    rw [perform, seek, hlength]
    by_cases hq : position ≤ content.length
    · rw [if_pos hq]
      exact ⟨_, .seek hq, rfl⟩
    · rw [if_neg hq]
      exact ⟨_, .refuse (by omega), rfl⟩
  | bytes =>
    refine ⟨_, ?_, rfl⟩
    rw [perform, h.bytes_eq]
    exact .bytes

/-- An operation keeps the invariant. -/
theorem Sound.perform (h : v.Sound content order) (operation : Operation) :
    (v.perform operation).2.Sound content order := by
  obtain ⟨q, heffect, hq⟩ := h.effect_perform operation
  rw [hq]
  exact ⟨h.bytes_eq, h.byteOrder_eq, heffect.le_length h.position_le⟩

/-- **Between two seeks**, what is read is one slice of the bytes, in whatever way it is read. -/
theorem Sound.exists_slice_performAll (h : v.Sound content order) {operations : List Operation}
    (hseek : ∀ r, .seek r ∉ operations) :
    ∃ q, v.position ≤ q ∧ q ≤ content.length ∧
      (v.performAll operations).2 = { v with position := q } ∧
      (v.performAll operations).1.flatMap (Answer.chunk order) = content.extract v.position q := by
  induction operations generalizing v with
  | nil =>
    refine ⟨v.position, Nat.le_refl _, h.position_le, rfl, ?_⟩
    rw [List.extract_eq_take_drop, Nat.sub_self, List.take_zero]
    rfl
  | cons operation operations ih =>
    obtain ⟨q, heffect, hq⟩ := h.effect_perform operation
    obtain ⟨hle, hchunk⟩ := heffect.chunk_eq h.position_le
      fun r hr => hseek r (hr ▸ List.mem_cons_self)
    obtain ⟨r, hqr, hr, hend, hchunks⟩ := ih (h.perform operation)
      fun r hr => hseek r (List.mem_cons_of_mem _ hr)
    rw [hq] at hqr hend hchunks
    replace hqr : q ≤ r := hqr
    refine ⟨r, Nat.le_trans hle hqr, hr, ?_, ?_⟩
    · rw [performAll, hq, hend]
    · rw [performAll, List.flatMap_cons, hq, hchunk, hchunks, List.extract_eq_take_drop,
        List.extract_eq_take_drop, List.extract_eq_take_drop]
      -- the second slice starts where the first one ends
      rw [show r - v.position = (q - v.position) + (r - q) by omega, List.take_add,
        List.drop_drop, Nat.add_sub_cancel' hle]

end Sound

/-- Operations in two portions are done as one list. -/
theorem performAll_append (v : TensorView) (first second : List Operation) :
    v.performAll (first ++ second) =
      ((v.performAll first).1 ++ ((v.performAll first).2.performAll second).1,
        ((v.performAll first).2.performAll second).2) := by
  induction first generalizing v with
  | nil => rfl
  | cons operation first ih =>
    rw [List.cons_append, performAll, ih]
    rfl

end TensorView

/-! ## Many views -/

/-- A tensor and the views of it, in the order in which they were made. -/
structure Readers where
  tensor : Tensor
  views : List TensorView

namespace Readers

open TensorView

/-- One thing that can be asked: a new view of the tensor, a copy of a view, or an operation on
one.  A view goes by its place in the list. -/
inductive Request : Type 1
  | view
  | clone (id : Nat)
  | on (id : Nat) (operation : Operation)

/-- A tensor that nobody looks at yet. -/
def ofTensor (t : Tensor) : Readers := ⟨t, []⟩

/-- What comes of a request: the answer of a view, if one was asked, and all views afterwards. -/
def step (s : Readers) : Request → List (Nat × Answer) × Readers
  | .view =>
    match s.tensor.view with
    | .ok v => ([], { s with views := s.views ++ [v] })
    | .error _ => ([], s)
  | .clone id => ([], { s with views := s.views ++ s.views[id]?.toList })
  | .on id operation =>
    match s.views[id]? with
    | some v =>
      ([(id, (v.perform operation).1)], { s with views := s.views.set id (v.perform operation).2 })
    | none => ([], s)

/-- What comes of requests one after the other. -/
def run (s : Readers) : List Request → List (Nat × Answer) × Readers
  | [] => ([], s)
  | request :: requests =>
    ((s.step request).1 ++ ((s.step request).2.run requests).1,
      ((s.step request).2.run requests).2)

/-- The answers of one view. -/
def answersOf (id : Nat) (log : List (Nat × Answer)) : List Answer :=
  log.filterMap fun entry => if entry.1 = id then some entry.2 else none

/-- The operations that a request has for a view. -/
def Request.operationsOn (id : Nat) : Request → List Operation
  | .on id' operation => if id' = id then [operation] else []
  | .view | .clone _ => []

/-- The operations that requests have for a view. -/
def operationsOn (id : Nat) (requests : List Request) : List Operation :=
  requests.flatMap (Request.operationsOn id)

/-! ## A request concerns one view -/

/-- A request makes of a view what its operations for this view make of it, and of a view that it
has none for it makes nothing. -/
theorem getElem?_views_step {s : Readers} {id : Nat} {v : TensorView} (hv : s.views[id]? = some v)
    (request : Request) :
    (s.step request).2.views[id]? = some (v.performAll (request.operationsOn id)).2 ∧
      answersOf id (s.step request).1 = (v.performAll (request.operationsOn id)).1 := by
  have hlt : id < s.views.length := (List.getElem?_eq_some_iff.1 hv).1
  cases request with
  | view =>
    rw [step]
    cases s.tensor.view with
    | ok w => exact ⟨(List.getElem?_append_left hlt).trans hv, rfl⟩
    | error _ => exact ⟨hv, rfl⟩
  | clone id' => exact ⟨(List.getElem?_append_left hlt).trans hv, rfl⟩
  | on id' operation =>
    rw [step, Request.operationsOn]
    by_cases hid : id' = id
    · subst hid
      rw [hv, if_pos rfl]
      refine ⟨List.getElem?_set_self hlt, ?_⟩
      simp [answersOf, performAll]
    · rw [if_neg hid]
      cases s.views[id']? with
      | none => exact ⟨hv, rfl⟩
      | some w =>
        refine ⟨(List.getElem?_set_ne hid).trans hv, ?_⟩
        simp [answersOf, performAll, hid]

/-- **Views are independent**: in a run, a view answers and moves as if nobody had asked for
anything but the operations on this view. -/
theorem getElem?_views_run {s : Readers} {id : Nat} {v : TensorView} (hv : s.views[id]? = some v)
    (requests : List Request) :
    (s.run requests).2.views[id]? = some (v.performAll (operationsOn id requests)).2 ∧
      answersOf id (s.run requests).1 = (v.performAll (operationsOn id requests)).1 := by
  induction requests generalizing s v with
  | nil => exact ⟨hv, rfl⟩
  | cons request requests ih =>
    obtain ⟨hstep, hanswer⟩ := getElem?_views_step hv request
    obtain ⟨hrun, hanswers⟩ := ih hstep
    rw [run, operationsOn, List.flatMap_cons, performAll_append]
    refine ⟨hrun, ?_⟩
    rw [answersOf, List.filterMap_append, ← answersOf, ← answersOf, hanswer, hanswers]
    rfl

/-! ## The invariant of all views -/

/-- The tensor is as it was, and every view is one of its bytes. -/
structure Sound (t : Tensor) (content : Bytes) (s : Readers) : Prop where
  tensor_eq : s.tensor = t
  views : ∀ v ∈ s.views, v.Sound content t.byteOrder

section Sound

variable {t : Tensor} {content : Bytes} {s : Readers}

theorem sound_ofTensor : (ofTensor t).Sound t content := ⟨rfl, fun _ hv => by cases hv⟩

theorem Sound.step_view (h : s.Sound t content) (ht : t.bytes = .ok content) :
    s.step .view = ([], { s with views := s.views ++ [⟨content, t.byteOrder, 0⟩] }) := by
  rw [step, Tensor.view, h.tensor_eq, ht]
  rfl

/-- A request keeps the invariant. -/
theorem Sound.step (h : s.Sound t content) (ht : t.bytes = .ok content) (request : Request) :
    (s.step request).2.Sound t content := by
  cases request with
  | view =>
    rw [h.step_view ht]
    refine ⟨h.tensor_eq, fun v hv => ?_⟩
    rcases List.mem_append.1 hv with hv | hv
    · exact h.views v hv
    · rw [List.mem_singleton.1 hv]
      exact ⟨rfl, rfl, Nat.zero_le _⟩
  | clone id =>
    refine ⟨h.tensor_eq, fun v hv => ?_⟩
    rcases List.mem_append.1 hv with hv | hv
    · exact h.views v hv
    · exact h.views v (List.mem_of_getElem? (Option.mem_toList.1 hv))
  | on id operation =>
    rw [Readers.step]
    cases hid : s.views[id]? with
    | none => exact h
    | some w =>
      refine ⟨h.tensor_eq, fun v hv => ?_⟩
      rcases List.mem_or_eq_of_mem_set hv with hv | rfl
      · exact h.views v hv
      · exact (h.views w (List.mem_of_getElem? hid)).perform operation

/-- A run keeps the invariant. -/
theorem Sound.run (h : s.Sound t content) (ht : t.bytes = .ok content) (requests : List Request) :
    (s.run requests).2.Sound t content := by
  induction requests generalizing s with
  | nil => exact h
  | cons request requests ih => exact ih (h.step ht request)

end Sound

/-- **Views are sound, independent cursors.**  Whatever is asked of a tensor with the bytes
`content` and of its views, the tensor stays as it is and every view is a cursor within `content`.

An operation on a view does what `Effect` says, and if it fails it leaves the view alone; a number
is read exactly if its width is left.  What is not for a view does not move it.  In every run from
there, the answers of the view and its position are those of its own operations, and without a
seek among them the bytes that were read are the slice between the old and the new position.  A
new view starts at the first byte, and a copy where its source is; both go their own way
afterwards. -/
theorem independent_cursors {t : Tensor} {content : Bytes} (ht : t.bytes = .ok content)
    (requests : List Request) :
    let s := ((ofTensor t).run requests).2
    s.tensor = t ∧
      (s.step .view).2 = { s with views := s.views ++ [⟨content, t.byteOrder, 0⟩] } ∧
      (∀ request, (s.step request).2.tensor = t) ∧
      ∀ id v, s.views[id]? = some v →
        v.bytes = content ∧ v.byteOrder = t.byteOrder ∧ v.position ≤ content.length ∧
        v.remaining = content.length - v.position ∧
        (∀ (α : Type) [FixedWidth α],
          (v.next? α).isSome = true ↔ FixedWidth.width α ≤ v.remaining) ∧
        (∀ operation, ∃ q,
          Effect content t.byteOrder v.position operation (v.perform operation).1 q ∧
          (v.perform operation).2 = { v with position := q } ∧
          ((v.perform operation).1.failed → (v.perform operation).2 = v)) ∧
        (∀ request, request.operationsOn id = [] → (s.step request).2.views[id]? = some v) ∧
        (∀ later,
          (s.run later).2.views[id]? = some (v.performAll (operationsOn id later)).2 ∧
          answersOf id (s.run later).1 = (v.performAll (operationsOn id later)).1 ∧
          ((∀ r, .seek r ∉ operationsOn id later) → ∃ q,
            v.position ≤ q ∧ q ≤ content.length ∧
            (s.run later).2.views[id]? = some { v with position := q } ∧
            (answersOf id (s.run later).1).flatMap (Answer.chunk t.byteOrder) =
              content.extract v.position q)) ∧
        (s.step (.clone id)).2 = { s with views := s.views ++ [v] } ∧
        ∀ later,
          ((s.step (.clone id)).2.run later).2.views[id]? =
            some (v.performAll (operationsOn id later)).2 ∧
          ((s.step (.clone id)).2.run later).2.views[s.views.length]? =
            some (v.performAll (operationsOn s.views.length later)).2 := by
  intro s
  have hs : s.Sound t content := sound_ofTensor.run ht requests
  refine ⟨hs.tensor_eq, by rw [hs.step_view ht], fun request => (hs.step ht request).tensor_eq,
    fun id v hid => ?_⟩
  have hv := hs.views v (List.mem_of_getElem? hid)
  have hlength : v.length = content.length := by rw [length, hv.bytes_eq]
  have hclone : (s.step (.clone id)).2 = { s with views := s.views ++ [v] } := by
    rw [step, hid]
    rfl
  refine ⟨hv.bytes_eq, hv.byteOrder_eq, hv.position_le, ?_, ?_, ?_, ?_, ?_, hclone, ?_⟩
  · rw [remaining, hlength]
  · exact fun α _ => isSome_next?_iff α (hlength ▸ hv.position_le)
  · intro operation
    obtain ⟨q, heffect, hq⟩ := hv.effect_perform operation
    refine ⟨q, heffect, hq, fun hfailed => ?_⟩
    rw [hq, heffect.eq_of_failed hfailed]
  · intro request hnone
    have hstep := (getElem?_views_step hid request).1
    rw [hnone] at hstep
    exact hstep
  · intro later
    obtain ⟨hviews, hanswers⟩ := getElem?_views_run hid later
    refine ⟨hviews, hanswers, fun hseek => ?_⟩
    obtain ⟨q, hle, hq, hend, hchunks⟩ := hv.exists_slice_performAll hseek
    exact ⟨q, hle, hq, by rw [hviews, hend], by rw [hanswers, hchunks]⟩
  · intro later
    have hold : (s.step (.clone id)).2.views[id]? = some v := (getElem?_views_step hid _).1
    have hnew : (s.step (.clone id)).2.views[s.views.length]? = some v := by
      rw [hclone]
      exact List.getElem?_concat_length
    exact ⟨(getElem?_views_run hold later).1, (getElem?_views_run hnew later).1⟩

/-- A copy that is read to the end, while its source is read as well and one number is too wide. -/
theorem independent_cursors_copied :
    let t : Tensor := ⟨⟨.int16, ⟨[2]⟩⟩, .big, some ⟨[1, 2, 3, 4], .direct⟩⟩
    let s := ((ofTensor t).run [.view, .on 0 (.take 1), .clone 0]).2
    let later : List Request :=
      [.on 1 (.next UInt16), .on 0 .takeAll, .on 1 (.next UInt32), .on 1 (.take 9)]
    t.bytes = .ok [1, 2, 3, 4] ∧
      s.views[1]? = some ⟨[1, 2, 3, 4], .big, 1⟩ ∧
      (s.run later).2.views[1]? = some ⟨[1, 2, 3, 4], .big, 4⟩ ∧
      (answersOf 1 (s.run later).1).flatMap (Answer.chunk .big) = [2, 3, 4] := by
  intro t s later
  have ht : t.bytes = .ok [1, 2, 3, 4] := rfl
  have hview : s.views[1]? = some ⟨[1, 2, 3, 4], .big, 1⟩ := rfl
  have hend : (s.run later).2.views[1]? = some ⟨[1, 2, 3, 4], .big, 4⟩ := by decide +kernel
  obtain ⟨-, -, -, hviews⟩ := independent_cursors ht [.view, .on 0 (.take 1), .clone 0]
  obtain ⟨-, -, -, -, -, -, -, hlater, -⟩ := hviews 1 _ hview
  obtain ⟨q, -, -, hq, hchunks⟩ := (hlater later).2.2 (by simp [later, operationsOn,
    Request.operationsOn])
  refine ⟨ht, hview, hend, ?_⟩
  cases hend.symm.trans hq
  exact hchunks

end Readers

end TensorGraph
