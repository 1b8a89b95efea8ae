import ScsiInitiator.Proofs.RecordFields

/-!
# The bytes of a record as its fields

The number of a record is written with its fields as digits, the first field
highest, where the place of a field is worth two to the number of bits after it
(`Record.toNat_bytes`).  This is the expansion of a number in a mixed radix
(`sum_digits_eq_mod`), and no byte of the record plays a part in it.

Values for all fields then make one record, whatever it was before and in
whatever order they are set (`Record.exists_setEach`).

Where the fields are whole bytes, the bytes of a record are those of its fields,
one after another (`Record.bytes_of_whole_fields`).
-/

namespace ScsiInitiator

open scoped BigOperators

/-! ## Digits -/

/-- The digits of a number whose radices are powers of two, each times its place
value, add up to the number.  What is above the highest digit is cut. -/
theorem sum_digits_eq_mod (ws : List Nat) (n : Nat) :
    ∑ i : Fin ws.length,
      n / 2 ^ (ws.drop (i.val + 1)).sum % 2 ^ ws.get i * 2 ^ (ws.drop (i.val + 1)).sum =
      n % 2 ^ ws.sum := by
  induction ws with
  | nil => simp [Nat.mod_one]
  | cons w ws ih =>
      have hhigh : n % 2 ^ (w :: ws).sum =
          n / 2 ^ ws.sum % 2 ^ w * 2 ^ ws.sum + n % 2 ^ ws.sum := by
        rw [List.sum_cons, Nat.add_comm w, Nat.pow_add, Nat.mod_mul, Nat.mul_comm, Nat.add_comm]
      rw [hhigh, ← ih]
      exact Fin.sum_univ_succ _

namespace Record

variable {l : Layout}

theorem toNat_bytes (r : Record l) :
    Bytes.toNat r.bytes =
      ∑ i : l.Field, (r.get i).toNat * 2 ^ (l.widths.drop (i.val + 1)).sum := by
  have hlt : Bytes.toNat r.bytes < 2 ^ l.widths.sum := by
    have h := Bytes.toNat_lt r.bytes
    rwa [show (256 : Nat) = 2 ^ 8 from rfl, ← Nat.pow_mul, r.length_bits] at h
  rw [← Nat.mod_eq_of_lt hlt, ← sum_digits_eq_mod l.widths]
  apply Finset.sum_congr rfl
  intro i _
  rw [toNat_get]
  rfl

/-! ## Setting all fields -/

/-- The record with a value in each of some fields, set one after another. -/
def setEach (r : Record l) (v : l.Field → UInt64) (order : List l.Field) :
    Except Fault (Record l) :=
  order.foldlM (fun r i => r.setChecked i (v i)) r

/-- Values that fit are all set, and fields that are not set stay as they were. -/
theorem setEach_of_fits {v : l.Field → UInt64} (hv : ∀ i, l.Fits i (v i)) :
    ∀ (order : List l.Field) (r : Record l), ∃ s, r.setEach v order = .ok s ∧
      (∀ i ∈ order, s.get i = v i) ∧ ∀ i ∉ order, s.get i = r.get i
  | [], r => ⟨r, rfl, fun _ hi => absurd hi List.not_mem_nil, fun _ _ => rfl⟩
  | i :: order, r => by
      obtain ⟨s, hs, hset, hkept⟩ := setEach_of_fits hv order (r.set i (v i) (hv i))
      refine ⟨s, ?_, ?_, ?_⟩
      · rw [setEach, List.foldlM_cons, setChecked_of_fits r (hv i)]
        exact hs
      · intro j hj
        by_cases hlater : j ∈ order
        · exact hset j hlater
        · rw [hkept j hlater, get_set]
          rcases List.mem_cons.mp hj with rfl | hj
          · exact if_pos rfl
          · exact absurd hj hlater
      · intro j hj
        rw [List.mem_cons, not_or] at hj
        rw [hkept j hj.2, get_set, if_neg hj.1]

/-- Values that fit make one record.  Setting all fields gives it, from any
record and in any order. -/
theorem exists_setEach {v : l.Field → UInt64} (hv : ∀ i, l.Fits i (v i)) :
    ∃ s : Record l, (∀ (r : Record l) (order : List l.Field), (∀ i, i ∈ order) →
      r.setEach v order = .ok s) ∧ ∀ i, s.get i = v i := by
  obtain ⟨s, -, hs, -⟩ := setEach_of_fits hv (List.finRange _) (zero l)
  have hget : ∀ i, s.get i = v i := fun i => hs i (List.mem_finRange i)
  refine ⟨s, ?_, hget⟩
  intro r order hall
  obtain ⟨s', heq, hs', -⟩ := setEach_of_fits hv order r
  have hsame : s' = s := ext_get fun i => by rw [hs' i (hall i), hget i]
  rw [heq, hsame]

/-! ## Fields of whole bytes -/

/-- A field of whole bytes is written in these bytes. -/
theorem slice_bytes (r : Record l) (i : l.Field) {start count : Nat}
    (ho : l.offset i = 8 * start) (hw : l.width i = 8 * count) :
    Bytes.slice r.bytes start count = Bytes.ofNat count (r.get i).toNat := by
  have hbits := r.length_bits
  have hend := l.offset_add_width_le i
  have hlength : (Bytes.slice r.bytes start count).length = count := by
    rw [Bytes.length_slice]
    omega
  have hnumber := Bytes.ofNat_toNat (Bytes.slice r.bytes start count)
  rw [hlength] at hnumber
  rw [r.toNat_get_slice i ho hw, hnumber]

/-- The bytes of each field, as many as it has whole ones. -/
def fieldBytes (r : Record l) : List Bytes :=
  List.zipWith (fun w v => Bytes.ofNat (w / 8) v.toNat) l.widths r.values

@[simp] theorem length_fieldBytes (r : Record l) : r.fieldBytes.length = l.widths.length := by
  rw [fieldBytes, List.length_zipWith, length_values, Nat.min_self]

theorem getElem_fieldBytes (r : Record l) (i : l.Field) (h : i.val < r.fieldBytes.length) :
    r.fieldBytes[i.val] = Bytes.ofNat (l.width i / 8) (r.get i).toNat := by
  simp only [fieldBytes, List.getElem_zipWith, getElem_values]
  rfl

/-- The first fields of whole bytes are the first bytes. -/
theorem take_bytes_of_whole_fields (r : Record l) (h : ∀ w ∈ l.widths, 8 ∣ w) {n : Nat}
    (hn : n ≤ l.widths.length) :
    r.bytes.take ((l.widths.take n).sum / 8) = (r.fieldBytes.take n).flatten := by
  induction n with
  | zero => simp
  | succ n ih =>
      let i : l.Field := ⟨n, hn⟩
      obtain ⟨start, ho⟩ : 8 ∣ l.offset i :=
        List.dvd_sum fun w hw => h w (List.mem_of_mem_take hw)
      obtain ⟨count, hw⟩ : 8 ∣ l.width i := h _ (List.getElem_mem hn)
      have hbefore : r.bytes.take (l.offset i / 8) = (r.fieldBytes.take n).flatten :=
        ih (Nat.le_of_succ_le hn)
      have hfield := r.getElem_fieldBytes i (by rwa [length_fieldBytes])
      have hend : (l.widths.take (n + 1)).sum = 8 * (start + count) := by
        rw [← l.offset_add_width i, ho, hw, Nat.mul_add]
      rw [ho, Nat.mul_div_cancel_left _ (by decide)] at hbefore
      rw [hw, Nat.mul_div_cancel_left _ (by decide), ← r.slice_bytes i ho hw] at hfield
      rw [hend, Nat.mul_div_cancel_left _ (by decide), List.take_add, hbefore,
        List.take_succ_eq_append_getElem (by rwa [length_fieldBytes]), List.flatten_append,
        List.flatten_singleton, hfield]
      rfl

/-- A record whose fields are whole bytes is the bytes of its fields. -/
theorem bytes_of_whole_fields (r : Record l) (h : ∀ w ∈ l.widths, 8 ∣ w) :
    r.bytes = r.fieldBytes.flatten := by
  have hall := r.take_bytes_of_whole_fields h (Nat.le_refl _)
  have hsize : l.widths.sum / 8 = r.bytes.length := r.length_eq.symm
  rwa [List.take_length, hsize, List.take_length, ← r.length_fieldBytes, List.take_length] at hall

/-! ## Records and tuples -/

/-- The fields of a record as a tuple of numbers. -/
def digits (r : Record l) (i : l.Field) : Fin (2 ^ l.width i) := ⟨(r.get i).toNat, r.get_lt i⟩

theorem digits_injective : Function.Injective (digits : Record l → _) := by
  intro r s h
  apply ext_get
  intro i
  have hi : (r.digits i).val = (s.digits i).val := by rw [h]
  exact UInt64.toNat_inj.mp hi

theorem digits_surjective : Function.Surjective (digits : Record l → _) := by
  intro t
  have hlt : ∀ i, (t i).val < UInt64.size := fun i =>
    Nat.lt_of_lt_of_le (t i).isLt (Nat.pow_le_pow_right (by decide) (l.width_bounds i).2)
  have hfits : ∀ i, l.Fits i (UInt64.ofNat (t i).val) := by
    intro i
    rw [l.fits_iff, UInt64.toNat_ofNat_of_lt' (hlt i)]
    exact (t i).isLt
  obtain ⟨s, -, hs⟩ := exists_setEach hfits
  refine ⟨s, funext fun i => Fin.ext ?_⟩
  show (s.get i).toNat = (t i).val
  rw [hs, UInt64.toNat_ofNat_of_lt' (hlt i)]

theorem beq_iff_get_eq (r s : Record l) : (r == s) = true ↔ ∀ i, r.get i = s.get i := by
  rw [beq_iff_eq]
  exact ⟨fun h i => by rw [h], ext_get⟩

theorem ofMemory_bytes (r : Record l) : ofMemory l (some r.bytes) r.bytes.length = .ok r := by
  simpa using ofMemory_append r []

/-- The bytes of a record are its fields, the first one highest, and nothing
else: their number is the sum of the fields at their places, values for all
fields make one byte string whatever was there and in whatever order they are
set, and records are equal exactly if their fields are.  Byte strings of the
size of the layout and tuples of values stand for each other. -/
theorem bytes_iff_fields (l : Layout) :
    (∀ r : Record l, Bytes.toNat r.bytes =
      ∑ i : l.Field, (r.get i).toNat * 2 ^ (l.widths.drop (i.val + 1)).sum) ∧
    (∀ v : l.Field → UInt64, (∀ i, (v i).toNat < 2 ^ l.width i) →
      ∃ s : Record l, (∀ (r : Record l) (order : List l.Field), (∀ i, i ∈ order) →
        r.setEach v order = .ok s) ∧ ∀ i, s.get i = v i) ∧
    (∀ r s : Record l, (r == s) = true ↔ ∀ i, r.get i = s.get i) ∧
    (∀ r : Record l, ofMemory l (some r.bytes) r.bytes.length = .ok r) ∧
    Function.Bijective (digits : Record l → (i : l.Field) → Fin (2 ^ l.width i)) := by
  refine ⟨toNat_bytes, ?_, beq_iff_get_eq, ofMemory_bytes, digits_injective, digits_surjective⟩
  intro v hv
  exact exists_setEach fun i => (l.fits_iff i (v i)).mpr (hv i)

end Record

end ScsiInitiator
