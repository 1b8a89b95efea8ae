import ScsiInitiator.Proofs.ReplyBuffers

/-!
# Using a reply buffer

A reply buffer is used by writing bytes into it, by copying it, and by reading
it: all of its bytes, the header, a view of the elements, or one element.
`ReplyBuffer.use` says what each of these uses does to the buffer and what it
gives.

Only writes count for what the buffer holds, and each byte is the one that was
written there last (`ReplyBuffer.byteAt_useAll_reverse`).  What a use shows is
told by the bytes of the buffer alone: a read shows slices of them
(`ReplyBuffer.shown_use`).  The header and the elements are the whole buffer, cut
without gaps (`ReplyBuffer.header_append_elements`).  A view shows as many elements
as are reported and as there is room for, each at its place
(`ReplyBuffer.exists_getChecked_elements`).  What is written within one element
therefore shows in no other (`ReplyBuffer.element_write_of_ne`).
-/

namespace ScsiInitiator

/-! ## Bytes that are overwritten -/

namespace Bytes

variable {b new : Bytes} {offset p : Nat}

/-- A byte that is written over is the one that was written. -/
theorem getElem?_overwrite_of_mem (h : offset ≤ p) (h' : p < offset + new.length)
    (hp : p < b.length) : (overwrite b offset new)[p]? = new[p - offset]? := by
  have htake : (b.take offset).length = offset := List.length_take_of_le (by omega)
  rw [overwrite, List.append_assoc, List.getElem?_append_right (by omega), htake,
    List.getElem?_append_left (by rw [List.length_take]; omega),
    List.getElem?_take_of_lt (by omega)]

/-- A byte that is not written over stays. -/
theorem getElem?_overwrite_of_not_mem (h : p < offset ∨ offset + new.length ≤ p) :
    (overwrite b offset new)[p]? = b[p]? := by
  rcases Nat.lt_or_ge p b.length with hp | hp
  · rcases h with h | h
    · have htake : p < (b.take offset).length := by
        rw [List.length_take]
        omega
      rw [overwrite, List.append_assoc, List.getElem?_append_left htake,
        List.getElem?_take_of_lt h]
    · have hfront : (b.take offset ++ new.take (b.length - offset)).length =
          offset + new.length := by
        rw [List.length_append, List.length_take, List.length_take]
        omega
      rw [overwrite, List.getElem?_append_right (by omega), hfront, List.getElem?_drop,
        Nat.add_sub_cancel' h]
  · rw [List.getElem?_eq_none hp, List.getElem?_eq_none (by rwa [length_overwrite])]

theorem byteAt_overwrite (hp : p < b.length) :
    byteAt (overwrite b offset new) p =
      if offset ≤ p ∧ p < offset + new.length then byteAt new (p - offset) else byteAt b p := by
  by_cases h : offset ≤ p ∧ p < offset + new.length
  · rw [if_pos h, byteAt, getElem?_overwrite_of_mem h.1 h.2 hp, byteAt]
  · rw [if_neg h, byteAt, getElem?_overwrite_of_not_mem (by omega), byteAt]

/-- A slice stays if nothing is written into it. -/
theorem slice_overwrite_of_disjoint {start count : Nat}
    (h : start + count ≤ offset ∨ offset + new.length ≤ start) :
    slice (overwrite b offset new) start count = slice b start count := by
  apply List.ext_getElem?
  intro k
  rw [slice, slice, List.getElem?_take, List.getElem?_take]
  split
  · rw [List.getElem?_drop, List.getElem?_drop, getElem?_overwrite_of_not_mem (by omega)]
  · rfl

end Bytes

namespace ReplyBuffer

variable {s : ReplyShape}

/-! ## Uses -/

/-- One thing done with a reply buffer. -/
inductive Use
  /-- Write bytes from an offset on. -/
  | write (offset : Nat) (new : Bytes)
  /-- Take a copy, and go on with it. -/
  | copy
  /-- Read all bytes. -/
  | dump
  /-- Read the header. -/
  | header
  /-- Read the elements a device reports. -/
  | elements (reported : UInt64)
  /-- Read one of the elements a device reports. -/
  | reported (reported index : UInt64)
  /-- Read one of the elements there is room for. -/
  | element (index : UInt64)
deriving DecidableEq, Repr

/-- What a use gives. -/
inductive Use.Result (s : ReplyShape)
  /-- Nothing is read. -/
  | done
  /-- All bytes. -/
  | bytes (b : Bytes)
  /-- The header. -/
  | header (r : Record s.header)
  /-- A view of elements. -/
  | elements (v : ElementView s.element)
  /-- One element. -/
  | element (r : Record s.element)

/-- The bytes a result shows, record by record. -/
def Use.Result.shown : Use.Result s → List Bytes
  | done => []
  | bytes b => [b]
  | header r => [r.bytes]
  | elements v => v.toList.map Record.bytes
  | element r => [r.bytes]

/-- The bytes at the place of an element. -/
def placeOf (s : ReplyShape) (b : Bytes) (i : Nat) : Bytes :=
  Bytes.slice b (s.header.size + i * s.element.size) s.element.size

/-- The bytes at the place of an element, if it is one of the first `count`. -/
def placeOfChecked (s : ReplyShape) (b : Bytes) (count : Nat) (i : UInt64) :
    Except Fault (List Bytes) :=
  if i.toNat < count then .ok [placeOf s b i.toNat]
  else .error (.noSuchElement i (UInt64.ofNat count))

/-- What a use shows of the bytes of a buffer, told by their places. -/
def Use.shows (s : ReplyShape) (capacity : UInt64) (b : Bytes) : Use → Except Fault (List Bytes)
  | .write _ _ => .ok []
  | .copy => .ok []
  | .dump => .ok [b]
  | .header => .ok [Bytes.slice b 0 s.header.size]
  | .elements count => .ok ((List.range (min count.toNat capacity.toNat)).map (placeOf s b))
  | .reported count index => placeOfChecked s b (min count.toNat capacity.toNat) index
  | .element index => placeOfChecked s b capacity.toNat index

/-- A write is the only use that is meant to change a buffer. -/
def Use.IsWrite : Use → Prop
  | .write _ _ => True
  | _ => False

/-- The buffer after a use, and what the use gives. -/
def use (b : ReplyBuffer s) : Use → ReplyBuffer s × Except Fault (Use.Result s)
  | .write offset new => (b.write offset new, .ok .done)
  | .copy => (b, .ok .done)
  | .dump => (b, .ok (.bytes b.bytes))
  | .header => (b, .ok (.header b.header))
  | .elements reported => (b, .ok (.elements (b.elements reported)))
  | .reported reported index => (b, ((b.elements reported).getChecked index).map .element)
  | .element index => (b, (b.element index).map .element)

/-- The buffer after some uses, first use first. -/
def useAll (b : ReplyBuffer s) (us : List Use) : ReplyBuffer s :=
  us.foldl (fun b u => (b.use u).1) b

/-- The byte that was written at a position last, latest use first. -/
def lastWritten (p : Nat) : List Use → UInt8
  | [] => 0
  | .write offset new :: earlier =>
      if offset ≤ p ∧ p < offset + new.length then Bytes.byteAt new (p - offset)
      else lastWritten p earlier
  | _ :: earlier => lastWritten p earlier

theorem use_of_not_isWrite (b : ReplyBuffer s) {u : Use} (h : ¬u.IsWrite) : (b.use u).1 = b := by
  cases u with
  | write offset new => exact absurd trivial h
  | copy => rfl
  | dump => rfl
  | header => rfl
  | elements reported => rfl
  | reported reported index => rfl
  | element index => rfl

theorem capacity_use (b : ReplyBuffer s) (u : Use) : (b.use u).1.capacity = b.capacity := by
  cases u <;> rfl

theorem useAll_concat (b : ReplyBuffer s) (us : List Use) (u : Use) :
    b.useAll (us ++ [u]) = ((b.useAll us).use u).1 := by
  rw [useAll, List.foldl_append]
  rfl

theorem capacity_useAll (b : ReplyBuffer s) (us : List Use) :
    (b.useAll us).capacity = b.capacity := by
  induction us using List.reverseRecOn with
  | nil => rfl
  | append_singleton us u ih => rw [useAll_concat, capacity_use, ih]

theorem size_useAll (b : ReplyBuffer s) (us : List Use) : (b.useAll us).size = b.size := by
  rw [size, size, length_eq, length_eq, capacity_useAll]

/-- A buffer that nothing is written to stays as it is. -/
theorem useAll_of_no_write (b : ReplyBuffer s) {us : List Use} (h : ∀ u ∈ us, ¬u.IsWrite) :
    b.useAll us = b := by
  induction us with
  | nil => rfl
  | cons u us ih =>
      have hu := b.use_of_not_isWrite (h u (.head _))
      rw [useAll, List.foldl_cons, hu]
      exact ih fun v hv => h v (.tail _ hv)

/-- A byte is what was written there last, or zero as in the beginning.  The
induction is on the history, so the use that is looked at is the last one. -/
theorem byteAt_useAll_reverse {b : ReplyBuffer s} (hzero : b.bytes = Bytes.zeros b.size) {p : Nat}
    (hp : p < b.size) : ∀ history : List Use,
    Bytes.byteAt (b.useAll history.reverse).bytes p = lastWritten p history
  | [] => by
      show Bytes.byteAt b.bytes p = 0
      rw [hzero, Bytes.byteAt_zeros]
  | u :: earlier => by
      have ih := byteAt_useAll_reverse hzero hp earlier
      have hlength : p < (b.useAll earlier.reverse).bytes.length := by
        rw [← size, size_useAll]
        exact hp
      rw [List.reverse_cons, useAll_concat]
      cases u with
      | write offset new =>
          show Bytes.byteAt (Bytes.overwrite _ offset new) p = _
          rw [Bytes.byteAt_overwrite hlength, ih, lastWritten]
      | copy => exact ih
      | dump => exact ih
      | header => exact ih
      | elements reported => exact ih
      | reported reported index => exact ih
      | element index => exact ih

/-! ## Header and elements -/

/-- A buffer that was made has the capacity it was made for, and is zero. -/
theorem of_ofCapacity {capacity : UInt64} {b : ReplyBuffer s}
    (h : ofCapacity s capacity = .ok b) :
    b.capacity = capacity ∧ b.bytes = Bytes.zeros b.size := by
  cases hlength : s.byteLength capacity with
  | error fault =>
      rw [ofCapacity_of_byteLength hlength] at h
      cases h
  | ok n =>
      rw [ofCapacity_of_byteLength hlength] at h
      cases h
      exact ⟨rfl, congrArg Bytes.zeros (Bytes.length_zeros _).symm⟩

theorem flatMap_recordsOf (l : Layout) : ∀ (n : Nat) (b : Bytes) (h : n * l.size ≤ b.length),
    b.length = n * l.size → (recordsOf l n b h).flatMap Record.bytes = b
  | 0, b, _, hlength => by
      rw [Nat.zero_mul] at hlength
      exact (List.length_eq_zero_iff.mp hlength).symm
  | n + 1, b, _, hlength => by
      have hrest : (b.drop l.size).length = n * l.size := by
        rw [List.length_drop, hlength, Nat.succ_mul, Nat.add_sub_cancel]
      have ih := flatMap_recordsOf l n (b.drop l.size) (Nat.le_of_eq hrest.symm) hrest
      rw [recordsOf, List.flatMap_cons, ih]
      exact List.take_append_drop l.size b

variable (b : ReplyBuffer s)

/-- The header and the elements, one after another, are all bytes there are. -/
theorem header_append_elements :
    b.header.bytes ++ (b.elements b.capacity).toList.flatMap Record.bytes = b.bytes := by
  have hcount := b.count_elements b.capacity
  have hlength : (b.bytes.drop s.header.size).length =
      (b.elements b.capacity).count.toNat * s.element.size := by
    rw [hcount, Nat.min_self, List.length_drop, b.length_eq, Nat.add_sub_cancel_left]
  have helements : (b.elements b.capacity).toList.flatMap Record.bytes =
      b.bytes.drop s.header.size := flatMap_recordsOf _ _ _ _ hlength
  rw [helements]
  exact List.take_append_drop s.header.size b.bytes

/-- An element that is reported and that there is room for is the slice of the
buffer at its place. -/
theorem exists_getChecked_elements {reported i : UInt64}
    (h : i.toNat < min reported.toNat b.capacity.toNat) :
    ∃ e : Record s.element, (b.elements reported).getChecked i = .ok e ∧
      e.bytes = Bytes.slice b.bytes (s.header.size + i.toNat * s.element.size) s.element.size := by
  have hlt : i < (b.elements reported).count := by
    rw [UInt64.lt_iff_toNat_lt, count_elements]
    exact h
  refine ⟨_, dif_pos hlt, ?_⟩
  exact Bytes.slice_drop b.bytes s.header.size _ _

theorem getChecked_elements_of_le {reported i : UInt64}
    (h : min reported.toNat b.capacity.toNat ≤ i.toNat) :
    (b.elements reported).getChecked i = .error (.noSuchElement i (b.elements reported).count) := by
  have hge : ¬i < (b.elements reported).count := by
    rw [UInt64.not_lt, UInt64.le_iff_toNat_le, count_elements]
    exact h
  exact dif_neg hge

theorem exists_element {i : UInt64} (h : i.toNat < b.capacity.toNat) :
    ∃ e : Record s.element, b.element i = .ok e ∧
      e.bytes = Bytes.slice b.bytes (s.header.size + i.toNat * s.element.size) s.element.size :=
  b.exists_getChecked_elements (by rwa [Nat.min_self])

theorem element_of_le {i : UInt64} (h : b.capacity.toNat ≤ i.toNat) :
    b.element i = .error (.noSuchElement i b.capacity) := by
  have hcount : (b.elements b.capacity).count = b.capacity := by
    rw [← UInt64.toNat_inj, count_elements, Nat.min_self]
  have helement : b.element i = .error (.noSuchElement i (b.elements b.capacity).count) :=
    b.getChecked_elements_of_le (by rwa [Nat.min_self])
  rwa [hcount] at helement

theorem element_eq_error_iff {i : UInt64} :
    b.element i = .error (.noSuchElement i b.capacity) ↔ b.capacity.toNat ≤ i.toNat := by
  constructor
  · intro h
    refine Nat.not_lt.mp fun hlt => ?_
    obtain ⟨e, he, -⟩ := b.exists_element hlt
    rw [he] at h
    cases h
  · exact b.element_of_le

/-- A view gives the elements of the buffer. -/
theorem getChecked_elements_eq_element {reported i : UInt64}
    (h : i.toNat < min reported.toNat b.capacity.toNat) :
    (b.elements reported).getChecked i = b.element i := by
  obtain ⟨e, he, hbytes⟩ := b.exists_getChecked_elements h
  obtain ⟨e', he', hbytes'⟩ := b.exists_element (i := i) (by omega)
  rw [he, he', Record.ext_bytes (hbytes.trans hbytes'.symm)]

/-- What is shown of an element that is reported and that there is room for is
what stands at its place, and any other element is refused. -/
theorem shown_getChecked_elements (reported i : UInt64) :
    ((b.elements reported).getChecked i).map (fun r => [r.bytes]) =
      placeOfChecked s b.bytes (min reported.toNat b.capacity.toNat) i := by
  rw [placeOfChecked]
  rcases Nat.lt_or_ge i.toNat (min reported.toNat b.capacity.toNat) with hlt | hge
  · obtain ⟨e, he, hbytes⟩ := b.exists_getChecked_elements hlt
    rw [he, if_pos hlt, placeOf, ← hbytes]
    rfl
  · have hcount := congrArg UInt64.ofNat (b.count_elements reported)
    rw [UInt64.ofNat_toNat] at hcount
    rw [b.getChecked_elements_of_le hge, if_neg (Nat.not_lt.mpr hge), hcount]
    rfl

/-- What a use shows is told by the bytes of the buffer. -/
theorem shown_use (u : Use) :
    (b.use u).2.map Use.Result.shown = u.shows s b.capacity b.bytes := by
  have hmap : ∀ x : Except Fault (Record s.element),
      (x.map Use.Result.element).map Use.Result.shown = x.map fun r => [r.bytes] := by
    intro x
    cases x <;> rfl
  cases u with
  | write offset new => rfl
  | copy => rfl
  | dump => rfl
  | header => rfl
  | elements reported =>
      exact congrArg Except.ok (b.map_toList_elements reported fun i r h => h)
  | reported reported index => exact (hmap _).trans (b.shown_getChecked_elements reported index)
  | element index =>
      have hshown := b.shown_getChecked_elements b.capacity index
      rw [Nat.min_self] at hshown
      exact (hmap _).trans hshown

/-- A use fails only if there is no such element. -/
theorem kind_of_use {u : Use} {fault : Fault} (h : (b.use u).2 = .error fault) :
    fault.kind = .outOfRange := by
  have hchecked : ∀ {count : Nat} {i : UInt64},
      placeOfChecked s b.bytes count i = .error fault → fault.kind = .outOfRange := by
    intro count i hplace
    rw [placeOfChecked] at hplace
    split at hplace
    · cases hplace
    · cases hplace
      rfl
  have hshown := b.shown_use u
  rw [h] at hshown
  cases u with
  | write offset new => cases hshown
  | copy => cases hshown
  | dump => cases hshown
  | header => cases hshown
  | elements reported => cases hshown
  | reported reported index => exact hchecked hshown.symm
  | element index => exact hchecked hshown.symm

/-- The elements of the buffer in a row. -/
theorem element_eq_getElem_toList {i : UInt64}
    (h : i.toNat < (b.elements b.capacity).toList.length) :
    b.element i = .ok ((b.elements b.capacity).toList[i.toNat]) := by
  have hlt : i.toNat < b.capacity.toNat := by
    rwa [length_toList_elements, Nat.min_self] at h
  obtain ⟨e, he, hbytes⟩ := b.exists_element hlt
  have hrow := b.bytes_getElem_toList_elements b.capacity i.toNat h
  rw [he, Record.ext_bytes (hbytes.trans hrow.symm)]

/-! ## Writing within an element -/

theorem header_write_of_le {offset : Nat} (new : Bytes) (h : s.header.size ≤ offset) :
    (b.write offset new).header = b.header := by
  apply Record.ext_bytes
  have hbefore : 0 + s.header.size ≤ offset := by rwa [Nat.zero_add]
  have hslice : Bytes.slice (b.bytes.overwrite offset new) 0 s.header.size =
      Bytes.slice b.bytes 0 s.header.size := Bytes.slice_overwrite_of_disjoint (.inl hbefore)
  exact hslice

/-- What is written within one element changes no other.  Of two elements one
ends before the other one starts. -/
theorem element_write_of_ne {i j : UInt64} {offset : Nat} {new : Bytes} (hne : j ≠ i)
    (hstart : s.header.size + i.toNat * s.element.size ≤ offset)
    (hend : offset + new.length ≤ s.header.size + (i.toNat + 1) * s.element.size) :
    (b.write offset new).element j = b.element j := by
  have hapart : s.header.size + j.toNat * s.element.size + s.element.size ≤ offset ∨
      offset + new.length ≤ s.header.size + j.toNat * s.element.size := by
    rcases Nat.lt_or_gt_of_ne (fun h => hne (UInt64.toNat_inj.mp h)) with hlt | hgt
    · have hbefore : (j.toNat + 1) * s.element.size ≤ i.toNat * s.element.size :=
        Nat.mul_le_mul_right _ hlt
      rw [Nat.succ_mul] at hbefore
      omega
    · have hafter : (i.toNat + 1) * s.element.size ≤ j.toNat * s.element.size :=
        Nat.mul_le_mul_right _ hgt
      omega
  rcases Nat.lt_or_ge j.toNat b.capacity.toNat with hlt | hge
  · obtain ⟨e, he, hbytes⟩ := b.exists_element hlt
    obtain ⟨e', he', hbytes'⟩ := (b.write offset new).exists_element (i := j) hlt
    have hslice := Bytes.slice_overwrite_of_disjoint (b := b.bytes) hapart
    rw [he, he', Record.ext_bytes (hbytes'.trans (hslice.trans hbytes.symm))]
  · rw [b.element_of_le hge, (b.write offset new).element_of_le (i := j) hge]
    rfl

/-- However a buffer is used, it keeps its capacity and its size, each byte is
what was written there last, and reading changes nothing.  What the next use shows
is told by these bytes, and it fails only for an element that is out of range.
Header and elements are the whole buffer.  A view shows the elements that are
reported and that there is room for, each of them the slice at its place, and
refuses all others.  What is written within one element changes neither the header
nor another element. -/
theorem useAll_keeps_shape {capacity : UInt64} {made : ReplyBuffer s}
    (hmade : ofCapacity s capacity = .ok made) (us : List Use) :
    let b := made.useAll us
    b.capacity = capacity ∧ b.size = s.header.size + capacity.toNat * s.element.size ∧
    (∀ p < b.size, Bytes.byteAt b.bytes p = lastWritten p us.reverse) ∧
    ((∀ u ∈ us, ¬u.IsWrite) → b.bytes = Bytes.zeros b.size) ∧
    (∀ u : Use, ¬u.IsWrite → (b.use u).1 = b) ∧
    (∀ u : Use, (b.use u).2.map Use.Result.shown = u.shows s capacity b.bytes) ∧
    (∀ (u : Use) (fault : Fault), (b.use u).2 = .error fault → fault.kind = .outOfRange) ∧
    (∃ es : List (Record s.element), es.length = capacity.toNat ∧
      (∀ (i : UInt64) (h : i.toNat < es.length), b.element i = .ok es[i.toNat]) ∧
      b.header.bytes ++ es.flatMap Record.bytes = b.bytes) ∧
    (∀ reported : UInt64,
      (b.elements reported).count.toNat = min reported.toNat capacity.toNat ∧
      ∀ i : UInt64,
        (i.toNat < min reported.toNat capacity.toNat →
          ∃ e : Record s.element, (b.elements reported).getChecked i = .ok e ∧
            b.element i = .ok e ∧
            e.bytes =
              Bytes.slice b.bytes (s.header.size + i.toNat * s.element.size) s.element.size) ∧
        (min reported.toNat capacity.toNat ≤ i.toNat →
          (b.elements reported).getChecked i =
            .error (.noSuchElement i (b.elements reported).count))) ∧
    (∀ i : UInt64,
      b.element i = .error (.noSuchElement i capacity) ↔ capacity.toNat ≤ i.toNat) ∧
    (∀ (i : UInt64) (offset : Nat) (new : Bytes),
      s.header.size + i.toNat * s.element.size ≤ offset →
      offset + new.length ≤ s.header.size + (i.toNat + 1) * s.element.size →
      (b.write offset new).header = b.header ∧
      ∀ j : UInt64, j ≠ i → (b.write offset new).element j = b.element j) := by
  intro b
  obtain ⟨hmadecapacity, hzero⟩ := of_ofCapacity hmade
  have hcapacity : b.capacity = capacity := (made.capacity_useAll us).trans hmadecapacity
  have hsize : b.size = made.size := made.size_useAll us
  subst hcapacity
  refine ⟨rfl, b.length_eq, ?_, ?_, ?_, b.shown_use, fun _ _ => b.kind_of_use, ?_, ?_, ?_, ?_⟩
  · intro p hp
    have hbyte := byteAt_useAll_reverse hzero (by rwa [← hsize]) us.reverse
    rwa [List.reverse_reverse] at hbyte
  · intro hreads
    have hsame : b = made := made.useAll_of_no_write hreads
    rw [hsame]
    exact hzero
  · intro u hu
    exact b.use_of_not_isWrite hu
  · refine ⟨(b.elements b.capacity).toList, ?_, ?_, b.header_append_elements⟩
    · rw [length_toList_elements, Nat.min_self]
    · intro i h
      exact b.element_eq_getElem_toList h
  · intro reported
    refine ⟨b.count_elements reported, ?_⟩
    intro i
    refine ⟨?_, b.getChecked_elements_of_le⟩
    intro h
    obtain ⟨e, he, hbytes⟩ := b.exists_getChecked_elements h
    exact ⟨e, he, (b.getChecked_elements_eq_element h).symm.trans he, hbytes⟩
  · intro i
    exact b.element_eq_error_iff
  · intro i offset new hstart hend
    refine ⟨b.header_write_of_le new (by omega), ?_⟩
    intro j hne
    exact b.element_write_of_ne hne hstart hend

/-- Of seven elements that are reported the two that there is room for are read,
and the second one holds what was written last. -/
theorem useAll_keeps_shape_two_of_seven :
    let made : ReplyBuffer .sample := ⟨2, Bytes.zeros 5, rfl⟩
    let b := made.useAll [.write 1 [1, 2, 3], .copy, .reported 7 1, .write 3 [9]]
    ofCapacity .sample 2 = .ok made ∧ b.size = 5 ∧ (b.elements 7).count.toNat = 2 ∧
      (∃ e, (b.elements 7).getChecked 1 = .ok e ∧ e.bytes = [9, 0]) ∧
      (b.use (.elements 7)).2.map Use.Result.shown = .ok [[1, 2], [9, 0]] ∧
      b.element 2 = .error (.noSuchElement 2 2) := by
  intro made b
  have hmade : ofCapacity .sample 2 = .ok made := rfl
  obtain ⟨-, hsize, -, -, -, hshown, -, -, hviews, helements, -⟩ :=
    useAll_keeps_shape hmade [.write 1 [1, 2, 3], .copy, .reported 7 1, .write 3 [9]]
  obtain ⟨hcount, hread⟩ := hviews 7
  obtain ⟨e, he, -, hbytes⟩ := (hread 1).1 (by decide)
  exact ⟨hmade, hsize, hcount, ⟨e, he, hbytes⟩, hshown (.elements 7),
    (helements 2).mpr (Nat.le_refl _)⟩

end ReplyBuffer

end ScsiInitiator
