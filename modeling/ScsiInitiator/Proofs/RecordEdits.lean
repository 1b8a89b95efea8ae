import ScsiInitiator.Proofs.RecordFields

/-!
# Edits of a record

A record is edited in two ways: a field is set, or the record is read anew from
a *span* of memory.  An edit may be refused, and a refused edit changes nothing.

`editAll_refines_fields` says that a record behaves as its fields would if each
were stored on its own.  What a field holds after any edits is told by the
edits alone, without bytes: `recorded` looks for the latest edit that was not
refused and has a say in the field.
-/

namespace ScsiInitiator

/-- A piece of memory of which the first `size` bytes count.  Memory that is
missing may come with any size. -/
structure Span where
  /-- The memory. -/
  memory : Option Bytes
  /-- The number of bytes that count. -/
  size : Nat
  /-- They are all there. -/
  covered : ∀ b ∈ memory, size ≤ b.length

/-- The number a field of a layout has in a byte string of the size of the layout. -/
def Layout.valueIn (l : Layout) (b : Bytes) (i : l.Field) : Nat :=
  Bytes.toNat b / 2 ^ (l.widths.drop (i.val + 1)).sum % 2 ^ l.width i

namespace Record

/-! ## Edits and histories -/

/-- An edit of a record. -/
inductive Edit (l : Layout)
  /-- Set a field. -/
  | set (i : l.Field) (v : UInt64)
  /-- Read the record from memory. -/
  | load (s : Span)

variable {l : Layout}

/-- What an edit comes to: another record, or a refusal and the same record. -/
def settle (r : Record l) : Except Fault (Record l) → Record l × Except Fault Unit
  | .ok new => (new, .ok ())
  | .error fault => (r, .error fault)

/-- The record after an edit, and whether the edit was refused. -/
def edit (r : Record l) : Edit l → Record l × Except Fault Unit
  | .set i v => r.settle (r.setChecked i v)
  | .load s => r.settle (ofMemory l s.memory s.size)

/-- The record after edits, from the record of zeros on. -/
def editAll (xs : List (Edit l)) : Record l := xs.foldl (fun r x => (r.edit x).1) (zero l)

/-- What a field holds according to the edits, latest edit first. -/
def recorded (j : l.Field) : List (Edit l) → Nat
  | [] => 0
  | .set i v :: earlier =>
      if i = j ∧ v.toNat < 2 ^ l.width i then v.toNat else recorded j earlier
  | .load ⟨some b, size, _⟩ :: earlier =>
      if l.size ≤ size then l.valueIn (b.take l.size) j else recorded j earlier
  | .load ⟨none, _, _⟩ :: earlier => recorded j earlier

/-! ## One edit -/

theorem edit_set_of_lt (r : Record l) {i : l.Field} {v : UInt64} (h : v.toNat < 2 ^ l.width i) :
    r.edit (.set i v) = (r.set i v ((l.fits_iff i v).mpr h), .ok ()) := by
  rw [edit, setChecked_of_fits r ((l.fits_iff i v).mpr h)]
  rfl

theorem edit_set_of_le (r : Record l) {i : l.Field} {v : UInt64} (h : 2 ^ l.width i ≤ v.toNat) :
    r.edit (.set i v) = (r, .error (.valueTooWide v i.val (l.width i))) := by
  have hv : ¬l.Fits i v := fun hf => Nat.not_lt.mpr h ((l.fits_iff i v).mp hf)
  rw [edit, setChecked_of_not_fits r hv]
  rfl

theorem edit_load_of_le (r : Record l) {b : Bytes} {size : Nat}
    (covered : ∀ c ∈ some b, size ≤ c.length) (h : l.size ≤ size) :
    ∃ new : Record l, new.bytes = b.take l.size ∧
      r.edit (.load ⟨some b, size, covered⟩) = (new, .ok ()) := by
  have hb : size ≤ b.length := covered b rfl
  refine ⟨⟨b.take l.size, by rw [List.length_take]; omega⟩, rfl, ?_⟩
  show r.settle (ofMemory l (some b) size) = _
  rw [ofMemory, dif_pos (by omega)]
  rfl

theorem edit_load_of_lt (r : Record l) {b : Bytes} {size : Nat}
    (covered : ∀ c ∈ some b, size ≤ c.length) (h : size < l.size) :
    r.edit (.load ⟨some b, size, covered⟩) = (r, .error (.recordTooShort l.size size)) := by
  show r.settle (ofMemory l (some b) size) = _
  rw [ofMemory, dif_neg (by omega)]
  rfl

theorem edit_load_none (r : Record l) {size : Nat}
    (covered : ∀ c ∈ (none : Option Bytes), size ≤ c.length) :
    r.edit (.load ⟨none, size, covered⟩) = (r, .error (.recordTooShort l.size size)) := rfl

/-- A refused edit changes nothing. -/
theorem edit_of_error {r : Record l} {x : Edit l} {fault : Fault}
    (h : (r.edit x).2 = .error fault) : (r.edit x).1 = r := by
  have hsettle : ∀ result : Except Fault (Record l),
      (r.settle result).2 = .error fault → (r.settle result).1 = r := by
    intro result hr
    cases result with
    | ok new => cases hr
    | error _ => rfl
  cases x with
  | set i v => exact hsettle _ h
  | load s => exact hsettle _ h

theorem get_edit_set_of_ne (r : Record l) {i j : l.Field} (v : UInt64) (h : j ≠ i) :
    (r.edit (.set i v)).1.get j = r.get j := by
  rcases Nat.lt_or_ge v.toNat (2 ^ l.width i) with hv | hv
  · rw [edit_set_of_lt r hv, get_set, if_neg h]
  · rw [edit_set_of_le r hv]

/-! ## Any edits -/

theorem editAll_append (xs : List (Edit l)) (x : Edit l) :
    editAll (xs ++ [x]) = ((editAll xs).edit x).1 := by
  simp only [editAll, List.foldl_append, List.foldl_cons, List.foldl_nil]

/-- A field holds what the edits say.  The induction is on the history, so the
edit that is looked at is the last one. -/
theorem toNat_get_editAll_reverse (j : l.Field) : ∀ history : List (Edit l),
    ((editAll history.reverse).get j).toNat = recorded j history
  | [] => by
      show ((zero l).get j).toNat = 0
      rw [get_zero, UInt64.toNat_zero]
  | .set i v :: earlier => by
      have ih := toNat_get_editAll_reverse j earlier
      rw [List.reverse_cons, editAll_append, recorded]
      rcases Nat.lt_or_ge v.toNat (2 ^ l.width i) with hv | hv
      · rw [edit_set_of_lt _ hv, get_set]
        by_cases h : j = i
        · rw [if_pos h, if_pos ⟨h.symm, hv⟩]
        · rw [if_neg h, if_neg (fun hc => h hc.1.symm), ih]
      · rw [edit_set_of_le _ hv, if_neg (fun hc => Nat.not_lt.mpr hv hc.2), ih]
  | .load ⟨some b, size, covered⟩ :: earlier => by
      have ih := toNat_get_editAll_reverse j earlier
      rw [List.reverse_cons, editAll_append, recorded]
      rcases Nat.lt_or_ge size l.size with hs | hs
      · rw [edit_load_of_lt _ covered hs, if_neg (Nat.not_le.mpr hs), ih]
      · obtain ⟨new, hbytes, hedit⟩ := edit_load_of_le (editAll earlier.reverse) covered hs
        rw [hedit, if_pos hs, toNat_get, hbytes, Layout.valueIn]
  | .load ⟨none, size, covered⟩ :: earlier => by
      have ih := toNat_get_editAll_reverse j earlier
      rw [List.reverse_cons, editAll_append, recorded, edit_load_none, ih]

/-! ## The refinement -/

/-- A set is refused exactly if the value is too wide for the field. -/
theorem answer_set (r : Record l) (i : l.Field) (v : UInt64) :
    (r.edit (.set i v)).2 =
      if 2 ^ l.width i ≤ v.toNat then .error (.valueTooWide v i.val (l.width i)) else .ok () := by
  rcases Nat.lt_or_ge v.toNat (2 ^ l.width i) with hv | hv
  · rw [edit_set_of_lt r hv, if_neg (Nat.not_le.mpr hv)]
  · rw [edit_set_of_le r hv, if_pos hv]

/-- A load is refused exactly if memory is missing or too short. -/
theorem answer_load (r : Record l) (s : Span) :
    (r.edit (.load s)).2 =
      if s.memory.isNone ∨ s.size < l.size then .error (.recordTooShort l.size s.size)
      else .ok () := by
  rcases s with ⟨_ | b, size, covered⟩
  · rw [edit_load_none, if_pos (.inl rfl)]
  · rcases Nat.lt_or_ge size l.size with hs | hs
    · rw [edit_load_of_lt r covered hs, if_pos (.inr hs)]
    · obtain ⟨new, _, hedit⟩ := edit_load_of_le r covered hs
      have hkept : ¬((some b).isNone = true ∨ size < l.size) := by
        rintro (h | h)
        · cases h
        · exact Nat.not_lt.mpr hs h
      rw [hedit, if_neg hkept]

/-- The argument of a refused edit is invalid. -/
theorem kind_of_edit {r : Record l} {x : Edit l} {fault : Fault}
    (h : (r.edit x).2 = .error fault) : fault.kind = .invalidArgument := by
  cases x with
  | set i v =>
      rw [answer_set] at h
      split at h
      · cases h
        rfl
      · cases h
  | load s =>
      rw [answer_load] at h
      split at h
      · cases h
        rfl
      · cases h

/-- After any edits, a record refuses a value exactly if it is too wide and
memory exactly if it is missing or too short.  A refusal says that the argument is
invalid and leaves every byte as it is.  Every field holds what the edits say, so
setting a field never disturbs another. -/
theorem editAll_refines_fields (l : Layout) (xs : List (Edit l)) :
    (∀ (i : l.Field) (v : UInt64), ((editAll xs).edit (.set i v)).2 =
      if 2 ^ l.width i ≤ v.toNat then .error (.valueTooWide v i.val (l.width i)) else .ok ()) ∧
    (∀ (i : l.Field) (v : UInt64), l.width i = 64 →
      ((editAll xs).edit (.set i v)).2 = .ok ()) ∧
    (∀ s : Span, ((editAll xs).edit (.load s)).2 =
      if s.memory.isNone ∨ s.size < l.size then .error (.recordTooShort l.size s.size)
      else .ok ()) ∧
    (∀ (x : Edit l) (fault : Fault), ((editAll xs).edit x).2 = .error fault →
      fault.kind = .invalidArgument ∧
        ((editAll xs).edit x).1.bytes = (editAll xs).bytes) ∧
    (∀ j : l.Field, ((editAll xs).get j).toNat = recorded j xs.reverse) ∧
    (∀ (i j : l.Field) (v : UInt64), j ≠ i →
      ((editAll xs).edit (.set i v)).1.get j = (editAll xs).get j) := by
  refine ⟨answer_set _, ?_, answer_load _, ?_, ?_, ?_⟩
  · intro i v h64
    rw [answer_set, h64, if_neg (Nat.not_le.mpr v.toNat_lt)]
  · intro x fault h
    exact ⟨kind_of_edit h, by rw [edit_of_error h]⟩
  · intro j
    have h := toNat_get_editAll_reverse j xs.reverse
    rwa [List.reverse_reverse] at h
  · intro i j v h
    exact get_edit_set_of_ne _ v h

end Record

end ScsiInitiator
