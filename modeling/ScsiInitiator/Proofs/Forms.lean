import ScsiInitiator.Proofs.Drafts
import ScsiInitiator.Proofs.RecordEdits

/-!
# Forms

A *form* is a structure over a record.  Some of its fields are there to be filled
in, each with values of a type of its own, and what is filled in is an *entry*.
The other bits are *preprinted*: they are as they were in the blank form, or in
the memory that the form was read from.

A form changes by entries and by loads.  What it shows afterwards is told by the
changes alone: what the latest of them says that says anything (`Form.get_after`,
`Form.bit_after`).  An entry says something of its own field, a load that is not
refused says something of all fields, and a load that is refused says nothing.
-/

namespace ScsiInitiator

/-- The bytes that a record of `n` bytes takes from memory, if there are enough. -/
def Span.first? (m : Span) (n : Nat) : Option Bytes :=
  if n ≤ m.size then m.memory.map (·.take n) else none

theorem Span.first?_eq_none_iff {m : Span} {n : Nat} :
    m.first? n = none ↔ m.memory.isNone ∨ m.size < n := by
  rw [first?]
  split <;> simp <;> omega

/-- A record is read from memory if there are enough bytes, and has those. -/
theorem Record.ofMemory_of_first? (l : Layout) (m : Span) :
    (∃ r : Record l, m.first? l.size = some r.bytes ∧ ofMemory l m.memory m.size = .ok r) ∨
    (m.first? l.size = none ∧
      ofMemory l m.memory m.size = .error (.recordTooShort l.size m.size)) := by
  rcases m with ⟨_ | b, size, covered⟩
  · exact .inr ⟨Span.first?_eq_none_iff.mpr (.inl rfl), rfl⟩
  · have hb : size ≤ b.length := covered b rfl
    rcases Nat.lt_or_ge size l.size with hlt | hle
    · have hshort : ¬l.size ≤ min size b.length := by omega
      exact .inr ⟨Span.first?_eq_none_iff.mpr (.inr hlt), dif_neg hshort⟩
    · have henough : l.size ≤ min size b.length := by omega
      refine .inl ⟨⟨b.take l.size, by rw [List.length_take]; omega⟩, if_pos hle, ?_⟩
      exact dif_pos henough

/-! ## Forms and their laws -/

/-- A structure over a record in which entries `ε` can be made. -/
class Form (S : Type) (ε : outParam Type) where
  /-- The layout of the record. -/
  layout : Layout
  /-- The record. -/
  record : S → Record layout
  /-- The form with a record. -/
  ofRecord : Record layout → S
  /-- The form without any entry. -/
  blank : S
  /-- The field that an entry fills in. -/
  field : ε → layout.Field
  /-- The value that an entry fills in. -/
  value : ε → UInt64
  /-- The form with one more entry. -/
  enter : ε → S → S
  /-- Read a form from the start of a piece of memory. -/
  ofMemory : Option Bytes → Nat → Except Fault S

/-- A form is no more than its record: entries are sets of fields, and reading a
form is reading its record. -/
class LawfulForm (S : Type) {ε : outParam Type} [Form S ε] : Prop where
  /-- A form made of a record has that record. -/
  record_ofRecord : ∀ r : Record (Form.layout S), Form.record (Form.ofRecord r : S) = r
  /-- A form is made of its record. -/
  ofRecord_record : ∀ s : S, Form.ofRecord (Form.record s) = s
  /-- An entry is a set that is never refused. -/
  setChecked_record : ∀ (e : ε) (s : S),
    (Form.record s).setChecked (Form.field e) (Form.value S e) =
      .ok (Form.record (Form.enter e s))
  /-- A form is read as its record is. -/
  ofMemory_eq : ∀ (memory : Option Bytes) (size : Nat),
    (Form.ofMemory memory size : Except Fault S) =
      (Record.ofMemory (Form.layout S) memory size).map Form.ofRecord

namespace Form

/-- A change of a form. -/
inductive Change (ε : Type)
  /-- Make an entry. -/
  | enter (e : ε)
  /-- Read the form from memory. -/
  | load (m : Span)

/-- What a change says of a part of a form: an entry may give it, and memory
with at least `n` bytes always does. -/
def Change.says? {ε β : Type} (n : Nat) (given? : ε → Option β) (decode : Bytes → β) :
    Change ε → Option β
  | .enter e => given? e
  | .load m => (m.first? n).map decode

variable {S ε : Type} [Form S ε]

/-- The bytes of a form. -/
def bytes (s : S) : Bytes := (record s).bytes

/-- The form after a change, and whether the change was refused. -/
def change (s : S) : Change ε → S × Except Fault Unit
  | .enter e => (enter e s, .ok ())
  | .load m =>
      match (ofMemory m.memory m.size : Except Fault S) with
      | .ok new => (new, .ok ())
      | .error fault => (s, .error fault)

/-- The form after changes of the blank form, first change first. -/
def after (S : Type) {ε : Type} [Form S ε] (xs : List (Change ε)) : S :=
  xs.foldl (fun s x => (change s x).1) blank

theorem after_concat (xs : List (Change ε)) (x : Change ε) :
    after S (xs ++ [x]) = (change (after S xs) x).1 := by
  simp only [after, List.foldl_append, List.foldl_cons, List.foldl_nil]

/-- A refused change leaves the form as it is. -/
theorem change_of_error {s : S} {x : Change ε} {fault : Fault}
    (h : (change s x).2 = .error fault) : (change s x).1 = s := by
  cases x with
  | enter e => cases h
  | load m =>
      rw [change] at h ⊢
      split at h
      · cases h
      · rfl

/-! ## One change -/

theorem length_bytes (s : S) : (bytes s).length = (layout S).size := (record s).length_eq

section Lawful

variable [LawfulForm S]

/-- An entry sets its field to its value, which fits. -/
theorem exists_record_enter (e : ε) (s : S) :
    ∃ hfits, record (enter e s) = (record s).set (field e) (value S e) hfits := by
  have hset := LawfulForm.setChecked_record e s
  by_cases hfits : (layout S).Fits (field e) (value S e)
  · rw [Record.setChecked_of_fits _ hfits] at hset
    exact ⟨hfits, (Except.ok.inj hset).symm⟩
  · rw [Record.setChecked_of_not_fits _ hfits] at hset
    cases hset

/-- An entry leaves the bits of the other fields alone. -/
theorem bit_enter {e : ε} {p : Nat}
    (h : p < (layout S).offset (field e) ∨
      (layout S).offset (field e) + (layout S).width (field e) ≤ p) (s : S) :
    Bytes.bit (bytes (enter e s)) p = Bytes.bit (bytes s) p := by
  obtain ⟨hfits, henter⟩ := exists_record_enter e s
  rw [bytes, henter]
  exact Bytes.bit_setBits_of_outside _ _ ((layout S).width_bounds (field e)).2 h

/-- A load takes its bytes from memory, and is refused if there are too few. -/
theorem change_load (s : S) (m : Span) :
    (∃ new : S, m.first? (layout S).size = some (bytes new) ∧
      change s (.load m) = (new, .ok ())) ∨
    (m.first? (layout S).size = none ∧
      change s (.load m) = (s, .error (.recordTooShort (layout S).size m.size))) := by
  rw [change, LawfulForm.ofMemory_eq]
  rcases Record.ofMemory_of_first? (layout S) m with ⟨r, hfirst, hread⟩ | ⟨hfirst, hread⟩
  · refine .inl ⟨ofRecord r, ?_, by rw [hread]; rfl⟩
    rw [hfirst, bytes, LawfulForm.record_ofRecord]
  · exact .inr ⟨hfirst, by rw [hread]; rfl⟩

/-- A form is read back from its bytes, whatever follows them. -/
theorem ofMemory_append (s : S) (rest : Bytes) :
    (ofMemory (some (bytes s ++ rest)) (bytes s ++ rest).length : Except Fault S) = .ok s := by
  rw [LawfulForm.ofMemory_eq, bytes, Record.ofMemory_append]
  exact congrArg Except.ok (LawfulForm.ofRecord_record s)

/-! ## Any changes -/

/-- A part of a form is what the latest change says of it that says anything, if
an entry gives the part or leaves it alone and the bytes of a form tell it.  The
induction is on the changes from the end. -/
theorem read_after {β : Type} (read : S → β) {given? : ε → Option β} {decode : Bytes → β}
    (henter : ∀ (e : ε) (s : S), read (enter e s) = (given? e).getD (read s))
    (hdecode : ∀ s : S, read s = decode (bytes s)) (xs : List (Change ε)) :
    read (after S xs) =
      latest (Change.says? (layout S).size given? decode) (read blank) xs := by
  induction xs using List.reverseRecOn with
  | nil => rfl
  | append_singleton xs x ih =>
      rw [after_concat, latest_concat]
      cases x with
      | enter e =>
          refine (henter e _).trans ?_
          rw [ih]
          rfl
      | load m =>
          rw [Change.says?]
          rcases change_load (after S xs) m with ⟨new, hfirst, hload⟩ | ⟨hfirst, hload⟩
          · rw [hload, hfirst, hdecode]
            rfl
          · rw [hload, hfirst, ih]
            rfl

/-- A bit outside the fields of all entries is as in the blank form, or as in the
memory that was read last. -/
theorem bit_after {p : Nat}
    (h : ∀ e : ε, p < (layout S).offset (field (S := S) e) ∨
      (layout S).offset (field (S := S) e) + (layout S).width (field (S := S) e) ≤ p)
    (xs : List (Change ε)) :
    Bytes.bit (bytes (after S xs)) p =
      latest (Change.says? (layout S).size (fun _ => none) (Bytes.bit · p))
        (Bytes.bit (bytes (blank : S)) p) xs :=
  read_after (fun s => Bytes.bit (bytes s) p) (fun e s => bit_enter (h e) s) (fun _ => rfl) xs

/-- A field shows the latest value for it, in the type it is shown in. -/
theorem get_after {β : Type} (j : (layout S).Field) (view : UInt64 → β) {given? : ε → Option β}
    {decode : Bytes → β} {default : β}
    (hgiven : ∀ e : ε, given? e = if j = field e then some (view (value S e)) else none)
    (hdecode : ∀ s : S, view ((record s).get j) = decode (bytes s))
    (hblank : view ((record (blank : S)).get j) = default) (xs : List (Change ε)) :
    view ((record (after S xs)).get j) =
      latest (Change.says? (layout S).size given? decode) default xs := by
  rw [← hblank]
  apply read_after (fun s => view ((record s).get j)) _ hdecode
  intro e s
  obtain ⟨hfits, henter⟩ := exists_record_enter e s
  rw [henter, Record.get_set, hgiven]
  split <;> rfl

/-- A field of whole bytes shows the latest number for it, and memory has that
number in the same bytes. -/
theorem window_after {β : Type} (ofNat : Nat → β) (j : (layout S).Field) {start count : Nat}
    (hoffset : (layout S).offset j = 8 * start) (hwidth : (layout S).width j = 8 * count)
    {given? : ε → Option β} {default : β}
    (hgiven : ∀ e : ε, given? e = if j = field e then some (ofNat (value S e).toNat) else none)
    (hblank : ofNat ((record (blank : S)).get j).toNat = default) (xs : List (Change ε)) :
    ofNat ((record (after S xs)).get j).toNat =
      latest (Change.says? (layout S).size given? fun m =>
        ofNat (Bytes.toNat (Bytes.slice m start count))) default xs := by
  apply get_after j (fun v => ofNat v.toNat) hgiven _ hblank
  intro s
  exact congrArg ofNat ((record s).toNat_get_slice j hoffset hwidth)

/-! ## What every form keeps to -/

/-- A form keeps to its blank bytes and to the windows that its entries fill in,
each a start and a number of bytes. -/
structure Steady (S : Type) {ε : Type} [Form S ε] (blankBytes : Bytes)
    (windows : List (Nat × Nat)) : Prop where
  /-- The bytes of the blank form. -/
  bytes_blank : bytes (blank : S) = blankBytes
  /-- An entry is never refused by the record, whose field it sets. -/
  accepts : ∀ (s : S) (e : ε),
    (record s).setChecked (field e) (value S e) = .ok (record (enter e s))
  /-- Memory is refused exactly if it is missing or too short. -/
  refuses : ∀ (s : S) (m : Span), (change s (.load m)).2 =
    if m.memory.isNone ∨ m.size < blankBytes.length then
      .error (.recordTooShort blankBytes.length m.size)
    else .ok ()
  /-- A refused change leaves the form as it is. -/
  unchanged : ∀ (s : S) (x : Change ε) (fault : Fault),
    (change s x).2 = .error fault → (change s x).1 = s
  /-- A bit outside the windows is as in the memory that was read last, or as in
  the blank form. -/
  preprinted : ∀ (xs : List (Change ε)) (p : Nat),
    (∀ w ∈ windows, p < 8 * w.1 ∨ 8 * (w.1 + w.2) ≤ p) →
    Bytes.bit (bytes (after S xs)) p =
      latest (Change.says? blankBytes.length (fun _ => none) (Bytes.bit · p))
        (Bytes.bit blankBytes p) xs
  /-- A form is read back from its bytes, whatever follows them. -/
  read_back : ∀ (s : S) (rest : Bytes),
    (ofMemory (some (bytes s ++ rest)) (bytes s ++ rest).length : Except Fault S) = .ok s

/-- A form keeps to the windows of its fields, if every entry has one. -/
theorem steady {blankBytes : Bytes} {windows : List (Nat × Nat)}
    (hblank : bytes (blank : S) = blankBytes)
    (hwindows : ∀ e : ε, ∃ w ∈ windows,
      (layout S).offset (field e) = 8 * w.1 ∧ (layout S).width (field e) = 8 * w.2) :
    Steady S blankBytes windows := by
  have hlength : blankBytes.length = (layout S).size := by rw [← hblank, length_bytes]
  refine ⟨hblank, fun s e => LawfulForm.setChecked_record e s, ?_, fun _ _ _ => change_of_error,
    ?_, ofMemory_append⟩
  · intro s m
    rw [hlength]
    rcases change_load s m with ⟨new, hfirst, hload⟩ | ⟨hfirst, hload⟩
    · have henough : ¬(m.memory.isNone ∨ m.size < (layout S).size) := by
        rw [← Span.first?_eq_none_iff, hfirst]
        exact Option.some_ne_none _
      rw [hload, if_neg henough]
    · rw [hload, if_pos (Span.first?_eq_none_iff.mp hfirst)]
  · intro xs p hp
    rw [hlength, ← hblank]
    apply bit_after
    intro e
    obtain ⟨w, hw, hoffset, hwidth⟩ := hwindows e
    have := hp w hw
    omega

end Lawful

end Form

end ScsiInitiator
