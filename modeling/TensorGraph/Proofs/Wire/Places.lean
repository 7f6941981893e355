import Mathlib.Data.List.Forall2
import TensorGraph.Proofs.Wire.Rows

/-!
# Where a field puts what it reads

A field changes one place of a record, and the fields with other numbers change other places.  So
it does not matter what stands between two fields of one number, as long as it is fields of other
numbers, and the two may be moved together.

* A `Place` is a part of a record that can be read and replaced, and `Avoids u place` says that an
  update neither changes what stands there nor depends on it.
* `Lacks number data` says that the data is a row of fields without one of that number; what it
  does to a record avoids the place of that field (`Lacks.exists_contributes`).
* `merge_framed` is the law of records in a field: two pieces of such a record, with other fields
  between them, are one piece.  `Layout.contributes` is the law of numbers in a list: however the
  list is cut, and whatever stands between, the numbers are all appended in their order.
-/

set_option autoImplicit false

namespace TensorGraph.Wire

variable {R M α β : Type}

/-! ## Places -/

/-- A part of a record that can be read and replaced.  For a field of a structure the three laws
hold by definition. -/
structure Place (R α : Type) where
  get : R → α
  put : α → R → R
  get_put : ∀ a r, get (put a r) = a := by exact fun _ _ => rfl
  put_put : ∀ a b r, put b (put a r) = put b r := by exact fun _ _ _ => rfl
  put_get : ∀ r, put (get r) r = r := by exact fun _ => rfl

namespace Place

/-- Replaces what stands at the place by a function of it. -/
def modify (place : Place R α) (f : α → α) (r : R) : R := place.put (f (place.get r)) r

/-- Appends to the list at the place. -/
def append (place : Place R (List α)) (as : List α) : R → R := place.modify (· ++ as)

/-- Updates the record at the place, which is the empty one if there is none. -/
def update (place : Place R (Option M)) (empty : M) (u : M → M) : R → R :=
  place.modify fun a => some (u (a.getD empty))

theorem modify_comp_modify (place : Place R α) (f g : α → α) :
    place.modify g ∘ place.modify f = place.modify (g ∘ f) := by
  funext r
  simp only [Function.comp, modify, place.get_put, place.put_put]

theorem append_comp_append (place : Place R (List α)) (as bs : List α) :
    place.append bs ∘ place.append as = place.append (as ++ bs) := by
  rw [append, append, modify_comp_modify, append]
  congr 1
  funext l
  exact List.append_assoc l as bs

theorem append_nil (place : Place R (List α)) : place.append [] = id := by
  funext r
  simp only [append, modify, List.append_nil, place.put_get, id]

theorem update_comp_update (place : Place R (Option M)) (empty : M) (u v : M → M) :
    place.update empty v ∘ place.update empty u = place.update empty (v ∘ u) :=
  place.modify_comp_modify _ _

end Place

/-- The update neither changes what stands at the place nor depends on it. -/
def Avoids (u : R → R) (place : Place R α) : Prop :=
  (∀ r, place.get (u r) = place.get r) ∧ ∀ a r, u (place.put a r) = place.put a (u r)

namespace Avoids

variable {u v : R → R} {place : Place R α}

theorem id : Avoids id place := ⟨fun _ => rfl, fun _ _ => rfl⟩

theorem comp (hv : Avoids v place) (hu : Avoids u place) : Avoids (v ∘ u) place := by
  refine ⟨fun r => (hv.1 (u r)).trans (hu.1 r), fun a r => ?_⟩
  show v (u (place.put a r)) = place.put a (v (u r))
  rw [hu.2, hv.2]

theorem applyAll {updates : List (R → R)} (h : ∀ u ∈ updates, Avoids u place) :
    Avoids (applyAll updates) place := by
  induction updates with
  | nil => exact .id
  | cons u updates ih =>
    rw [List.forall_mem_cons] at h
    exact (ih h.2).comp h.1

/-- An update that avoids a place may be made before or after one of this place. -/
theorem comp_modify (h : Avoids u place) (f : α → α) : u ∘ place.modify f = place.modify f ∘ u := by
  funext r
  simp only [Function.comp, Place.modify, h.1, h.2]

end Avoids

namespace Reader

variable {r : Reader α} {r' : Reader β} {f : α → β} {limit : Nat} {data rest : Bytes}

theorem run_map (r : Reader α) (f : α → β) (data : Bytes) :
    (r.map f).run data = (r.run data).map fun p => (f p.1, p.2) := by
  simp only [map, mapOrFail]
  cases r.run data <;> rfl

theorem eq_of_run_map {b : β} (h : (r.map f).run data = .ok (b, rest)) : ∃ a, b = f a := by
  rw [run_map] at h
  cases hr : r.run data with
  | error e =>
    rw [hr] at h
    cases h
  | ok p =>
    rw [hr] at h
    cases h
    exact ⟨p.1, rfl⟩

theorem many_eq_map (h : ∀ data, r'.run data = (r.run data).map fun p => (f p.1, p.2))
    (limit : Nat) (data : Bytes) :
    r'.many limit data = (r.many limit data).map fun p => (p.1.map f, p.2) := by
  fun_induction Reader.many r limit data with
  | case1 data hlt e he =>
    rw [many_of_lt hlt, h, he]
    rfl
  | case2 data hlt a rest ha e he ih =>
    rw [many_of_lt hlt, h, ha]
    simp only [Except.map, Bind.bind, Except.bind, ih, he]
  | case3 data hlt a rest ha as rest' has ih =>
    rw [many_of_lt hlt, h, ha]
    simp only [Except.map, Bind.bind, Except.bind, ih, has]
    rfl
  | case4 data hlt heq =>
    rw [many, if_neg hlt, if_pos heq]
    rfl
  | case5 data hlt hne =>
    rw [many, if_neg hlt, if_neg hne]
    rfl

/-- Each of the values read in a row was read somewhere. -/
theorem exists_run_of_mem {a : α} {as : List α} (h : r.many limit data = .ok (as, rest))
    (ha : a ∈ as) : ∃ data' rest', r.run data' = .ok (a, rest') := by
  fun_induction Reader.many r limit data generalizing as rest with
  | case1 => cases h
  | case2 => cases h
  | case3 data _ b rest₁ hb as₁ rest₂ htail ih =>
    cases h
    rcases List.mem_cons.1 ha with rfl | ha
    · exact ⟨_, _, hb⟩
    · exact ih htail ha
  | case4 =>
    cases h
    cases ha
  | case5 => cases h

end Reader

namespace Field

/-- All that the field reads avoids the place. -/
def Avoids (f : Field R) (place : Place R α) : Prop :=
  ∀ ⦃budget wireType data u rest⦄, (f.read budget wireType).run data = .ok (u, rest) →
    Wire.Avoids u place

variable {place : Place R α} {number : Nat} {label : String}

@[simp] theorem avoids_scalar {s : Scalar β} {put : β → R → R}
    (hget : ∀ b r, place.get (put b r) = place.get r)
    (hput : ∀ b a r, put b (place.put a r) = place.put a (put b r)) :
    (scalar number label s put).Avoids place := by
  intro budget wireType data u rest hread
  simp only [scalar] at hread
  split at hread
  · obtain ⟨b, rfl⟩ := Reader.eq_of_run_map hread
    exact ⟨hget b, hput b⟩
  · cases hread

@[simp] theorem avoids_packable {s : Scalar β} {append : List β → R → R}
    (hget : ∀ bs r, place.get (append bs r) = place.get r)
    (hput : ∀ bs a r, append bs (place.put a r) = place.put a (append bs r)) :
    (packable number label s append).Avoids place := by
  intro budget wireType data u rest hread
  simp only [packable] at hread
  split at hread
  · obtain ⟨bs, rfl⟩ := Reader.eq_of_run_map hread
    exact ⟨hget bs, hput bs⟩
  · split at hread
    · obtain ⟨b, rfl⟩ := Reader.eq_of_run_map hread
      exact ⟨hget [b], hput [b]⟩
    · cases hread

@[simp] theorem avoids_message {m : Message M} {modify : (M → M) → R → R}
    (hget : ∀ u r, place.get (modify u r) = place.get r)
    (hput : ∀ u a r, modify u (place.put a r) = place.put a (modify u r)) :
    (message number label m modify).Avoids place := by
  intro budget wireType data u rest hread
  obtain ⟨v, rfl⟩ := Reader.eq_of_run_map hread
  exact ⟨hget v, hput v⟩

@[simp] theorem number_scalar {s : Scalar β} {put : β → R → R} :
    (scalar number label s put).number = number := rfl

@[simp] theorem number_packable {s : Scalar β} {append : List β → R → R} :
    (packable number label s append).number = number := rfl

@[simp] theorem number_message {m : Message M} {modify : (M → M) → R → R} :
    (message number label m modify).number = number := rfl

end Field

/-! ## Rows without a field of some number -/

namespace Message

variable {m : Message R} {sub : Message M} {number : Nat} {label : String} {place : Place R α}

/-- Reads one field, known or unknown, as its number and an update. -/
def numbered (m : Message R) (budget : Nat) : Reader (Nat × (R → R)) :=
  Key.reader.bind fun key =>
    match m.field? key.number with
    | some f => ((f.read budget key.wireType).within ⟨m.name, f.label⟩).map (key.number, ·)
    | none => (skip budget key.wireType key.number).map fun _ => (key.number, id)

/-- The numbers of the fields in the data, in order. -/
def numbers (m : Message R) (data : Bytes) : Except DecodeError (List Nat) :=
  ((m.numbered depthLimit).many 0 data).map fun p => p.1.map Prod.fst

/-- The data is a row of fields, and none of them has the number. -/
def Lacks (m : Message R) (number : Nat) (data : Bytes) : Prop :=
  ∃ found, m.numbers data = .ok found ∧ number ∉ found

/-- The fields of other numbers put what they read elsewhere. -/
def Reserves (m : Message R) (number : Nat) (place : Place R α) : Prop :=
  ∀ f ∈ m.fields, f.number ≠ number → f.Avoids place

theorem run_entry_eq_map (m : Message R) (budget : Nat) (data : Bytes) :
    (m.entry budget).run data = ((m.numbered budget).run data).map fun p => (p.1.2, p.2) := by
  simp only [entry, numbered, Reader.bind]
  cases Key.reader.run data with
  | error e => rfl
  | ok p =>
    obtain ⟨key, rest⟩ := p
    dsimp only
    cases m.field? key.number with
    | none =>
      rw [Reader.run_map, Reader.run_map]
      cases (skip budget key.wireType key.number).run rest <;> rfl
    | some f =>
      rw [Reader.run_map]
      cases ((f.read budget key.wireType).within ⟨m.name, f.label⟩).run rest <;> rfl

theorem avoids_of_run_numbered (hreserves : m.Reserves number place) {budget : Nat}
    {data rest : Bytes} {p : Nat × (R → R)} (h : (m.numbered budget).run data = .ok (p, rest))
    (hne : p.1 ≠ number) : Avoids p.2 place := by
  simp only [numbered, Reader.bind] at h
  split at h
  · cases h
  · rename_i key rest' hkey
    cases hf : m.field? key.number with
    | none =>
      rw [hf] at h
      obtain ⟨u, rfl⟩ := Reader.eq_of_run_map h
      exact .id
    | some f =>
      have hmem : f ∈ m.fields := List.mem_of_find?_eq_some hf
      have hnumber : f.number = key.number := by simpa using List.find?_some hf
      simp only [hf, Reader.map, Reader.mapOrFail, Reader.within] at h
      split at h
      · cases h
      · rename_i u rest'' hread
        cases h
        split at hread
        · cases hread
        · rename_i found hfound
          cases hread
          exact hreserves f hmem (hnumber ▸ hne) hfound

/-- **A row without a field of some number** avoids the place of that field. -/
theorem Lacks.exists_contributes {data : Bytes} (h : m.Lacks number data) (hm : m.Steady)
    (hreserves : m.Reserves number place) :
    ∃ u, m.Contributes depthLimit data (.ok u) ∧ Avoids u place := by
  obtain ⟨found, hfound, hlacks⟩ := h
  rw [numbers] at hfound
  cases hmany : (m.numbered depthLimit).many 0 data with
  | error e =>
    rw [hmany] at hfound
    cases hfound
  | ok read =>
    obtain ⟨entries, rest⟩ := read
    rw [hmany] at hfound
    cases hfound
    obtain rfl := List.length_eq_zero_iff.1 (Reader.length_of_many _ hmany)
    have hentries : (m.entry depthLimit).many 0 data = .ok (entries.map Prod.snd, []) := by
      rw [Reader.many_eq_map (run_entry_eq_map m depthLimit), hmany]
      rfl
    refine ⟨_, hm.contributes hentries, .applyAll ?_⟩
    intro u hu
    obtain ⟨entry, hentry, rfl⟩ := List.mem_map.1 hu
    obtain ⟨data', rest', hrun⟩ := Reader.exists_run_of_mem hmany hentry
    exact avoids_of_run_numbered hreserves hrun fun heq =>
      hlacks (List.mem_map.2 ⟨entry, hentry, heq⟩)

/-! ## Records in pieces -/

/-- **Two pieces of a record are one piece**, which may stand where the first or where the second
stood, whatever fields of other numbers stand between them. -/
theorem merge_framed {place : Place R (Option M)} {p q between first second whole : Bytes}
    (hf : m.field? number = some (.message number label sub (place.update sub.empty)))
    (hm : m.Steady) (hsub : sub.Steady) (hreserves : m.Reserves number place)
    (hp : sub.IsRow depthLimit p) (hq : sub.IsRow depthLimit q)
    (hfirst : Framed number p first) (hsecond : Framed number q second)
    (hwhole : Framed number (p ++ q) whole) (hbetween : m.Lacks number between) :
    m.Interchangeable depthLimit (first ++ (between ++ second)) (whole ++ between) ∧
      m.Interchangeable depthLimit (first ++ (between ++ second)) (between ++ whole) := by
  have hle : 99 ≤ depthLimit := by decide
  obtain ⟨x, hx⟩ := hp.exists_contributes hsub hle
  obtain ⟨y, hy⟩ := hq.exists_contributes hsub hle
  obtain ⟨u, hu, havoids⟩ := hbetween.exists_contributes hm hreserves
  have hfirst' : m.Contributes depthLimit first _ := .framed hf hfirst hx
  have hsecond' : m.Contributes depthLimit second _ := .framed hf hsecond hy
  have hwhole' : m.Contributes depthLimit whole _ := .framed hf hwhole (hx.append hy)
  have hapart := hfirst'.append (hu.append hsecond')
  have hbehind := hwhole'.append hu
  have hbefore := hu.append hwhole'
  cases x with
  | error e => exact ⟨hapart.interchangeable hbehind, hapart.interchangeable hbefore⟩
  | ok v =>
    cases y with
    | error e => exact ⟨hapart.interchangeable hbehind, hapart.interchangeable hbefore⟩
    | ok w =>
      let put := place.update sub.empty
      have hcomm : ∀ v, u ∘ put v = put v ∘ u := fun _ => havoids.comp_modify _
      have hone : (put w ∘ u) ∘ put v = u ∘ put (w ∘ v) := calc
        (put w ∘ u) ∘ put v = (u ∘ put w) ∘ put v := by rw [hcomm]
        _ = u ∘ (put w ∘ put v) := rfl
        _ = u ∘ put (w ∘ v) := by rw [place.update_comp_update]
      have hapart' : m.Contributes depthLimit (first ++ (between ++ second))
          (.ok (u ∘ put (w ∘ v))) := hone ▸ hapart
      exact ⟨hapart'.interchangeable hbehind,
        hapart'.interchangeable ((hcomm (w ∘ v)).symm ▸ hbefore)⟩

/-! ## Numbers in pieces -/

/-- The data is a row of fields, in which those of the number hold the values, many of them packed
behind a length or one by one; the other fields are `others`. -/
inductive Layout (m : Message R) (number : Nat) (s : Scalar α) (writes : Bytes → α → Prop) :
    Bytes → List α → Bytes → Prop
  | nil : Layout m number s writes [] [] []
  | packed {pieces : List Bytes} {chunk data behind others} {values : List α}
    (hvalues : List.Forall₂ writes pieces chunk) (h : Framed number pieces.flatten data)
    (tail : Layout m number s writes behind values others) :
    Layout m number s writes (data ++ behind) (chunk ++ values) others
  | single {key value behind others : Bytes} {a : α} {values : List α}
    (hkey : Key.IsSpelling key ⟨number, s.wireType⟩) (hvalue : writes value a)
    (tail : Layout m number s writes behind values others) :
    Layout m number s writes (key ++ value ++ behind) (a :: values) others
  | other {data behind others : Bytes} {values : List α} (h : m.Lacks number data)
    (tail : Layout m number s writes behind values others) :
    Layout m number s writes (data ++ behind) values (data ++ others)

section Numbers

variable {s : Scalar α} {writes : Bytes → α → Prop} {list : Place R (List α)} {data : Bytes}

theorem findsMany_of_forall₂ {pieces : List Bytes} {as : List α}
    (hwrites : ∀ data a, writes data a → s.read.Finds data (.ok a))
    (h : List.Forall₂ writes pieces as) : s.read.FindsMany pieces.flatten (.ok as) := by
  induction h with
  | nil => exact Reader.findsMany_nil _
  | cons hfirst _ ih => exact .cons (hwrites _ _ hfirst) ih

theorem contributes_packed {pieces : List Bytes} {chunk : List α}
    (hf : m.field? number = some (.packable number label s list.append))
    (hwrites : ∀ data a, writes data a → s.read.Finds data (.ok a))
    (hvalues : List.Forall₂ writes pieces chunk) (h : Framed number pieces.flatten data)
    (budget : Nat) : m.Contributes budget data (.ok (list.append chunk)) := by
  have hne := h.ne_nil
  obtain ⟨key, length, hkey, hlength, rfl⟩ := h
  have hread : ((Field.packable number label s list.append).read budget .lengthDelimited).Finds
      (length ++ pieces.flatten) (.ok (list.append chunk)) :=
    ((findsMany_of_forall₂ hwrites hvalues).delimited hlength.finds).map list.append
  exact .of_finds (finds_entry hkey hf hread) hne

theorem contributes_single {key value : Bytes} {a : α}
    (hf : m.field? number = some (.packable number label s list.append))
    (hs : s.wireType ≠ .lengthDelimited) (hkey : Key.IsSpelling key ⟨number, s.wireType⟩)
    (hvalue : s.read.Finds value (.ok a)) (budget : Nat) :
    m.Contributes budget (key ++ value) (.ok (list.append [a])) := by
  have hread : ((Field.packable number label s list.append).read budget s.wireType).Finds value
      (.ok (list.append [a])) := by
    rw [Field.packable]
    dsimp only
    rw [if_neg hs, if_pos rfl]
    exact hvalue.map fun a => list.append [a]
  refine .of_finds (finds_entry hkey hf hread) fun hnil => ?_
  exact hkey.finds.ne_nil (List.append_eq_nil_iff.1 hnil).1

/-- **However a list of numbers is written**, it is appended as a whole, and the other fields do
what they do without it. -/
theorem Layout.contributes {values : List α} {others : Bytes}
    (h : Layout m number s writes data values others)
    (hf : m.field? number = some (.packable number label s list.append))
    (hs : s.wireType ≠ .lengthDelimited)
    (hwrites : ∀ data a, writes data a → s.read.Finds data (.ok a)) (hm : m.Steady)
    (hreserves : m.Reserves number list) :
    ∃ u, m.Contributes depthLimit data (.ok (list.append values ∘ u)) ∧
      m.Contributes depthLimit others (.ok u) ∧ Avoids u list := by
  -- A chunk in front of the rest goes past the other fields to the values behind it.
  have hpast : ∀ {u : R → R} (chunk values : List α), Avoids u list →
      (list.append values ∘ u) ∘ list.append chunk = list.append (chunk ++ values) ∘ u := by
    intro u chunk values hu
    have hcomm : u ∘ list.append chunk = list.append chunk ∘ u := hu.comp_modify _
    rw [← list.append_comp_append]
    exact congrArg (list.append values ∘ ·) hcomm
  induction h with
  | nil =>
    rw [list.append_nil]
    exact ⟨id, .of_findsMany (Reader.findsMany_nil _), .of_findsMany (Reader.findsMany_nil _), .id⟩
  | @packed pieces chunk data behind others values hvalues hframed _ ih =>
    obtain ⟨u, hdata, hothers, hu⟩ := ih
    have hchunk := contributes_packed hf hwrites hvalues hframed depthLimit
    exact ⟨u, hpast chunk values hu ▸ hchunk.append hdata, hothers, hu⟩
  | @single key value behind others a values hkey hvalue _ ih =>
    obtain ⟨u, hdata, hothers, hu⟩ := ih
    have hchunk := contributes_single hf hs hkey (hwrites _ _ hvalue) depthLimit
    exact ⟨u, hpast [a] values hu ▸ hchunk.append hdata, hothers, hu⟩
  | other hlacks _ ih =>
    obtain ⟨u, hdata, hothers, hu⟩ := ih
    obtain ⟨v, hv, hv'⟩ := hlacks.exists_contributes hm hreserves
    exact ⟨u ∘ v, hv.append hdata, hv.append hothers, hu.comp hv'⟩

end Numbers

end Message
end TensorGraph.Wire
