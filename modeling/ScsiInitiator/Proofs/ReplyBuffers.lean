import ScsiInitiator.Proofs.ByteNumbers
import ScsiInitiator.ReplyBuffer

/-!
# Reply buffers in bytes

A capacity is refused exactly if the byte length it needs has more than 64 bits
(`replyByteLength_eq_ok_iff`, `replyByteLength_eq_error_iff`), and the buffer
made for it is zero (`ReplyBuffer.exists_ofCapacity`).  The elements of a view
are slices of the buffer, one after another from the end of the header on.
-/

namespace ScsiInitiator

/-! ## Lengths -/

variable {header element capacity : UInt64}

/-- The guard of a capacity is the exact bound, also where the quotient leaves a
remainder. -/
theorem not_guard_lt_iff (he : 0 < element.toNat) :
    ¬(0xFFFFFFFFFFFFFFFF - header) / element < capacity ↔
      header.toNat + capacity.toNat * element.toNat < UInt64.size := by
  have hh := header.toNat_lt
  rw [UInt64.not_lt, UInt64.le_iff_toNat_le, UInt64.toNat_div, toNat_max_sub,
    Nat.le_div_iff_mul_le he]
  simp only [UInt64.size]
  omega

theorem replyByteLength_of_lt (he : 0 < element.toNat)
    (h : header.toNat + capacity.toNat * element.toNat < UInt64.size) :
    replyByteLength header element capacity = .ok (header + capacity * element) := by
  rw [replyByteLength, if_neg ((not_guard_lt_iff he).mpr h)]

theorem replyByteLength_of_le (he : 0 < element.toNat)
    (h : UInt64.size ≤ header.toNat + capacity.toNat * element.toNat) :
    replyByteLength header element capacity = .error (.capacityTooLarge capacity) := by
  have hguard : (0xFFFFFFFFFFFFFFFF - header) / element < capacity :=
    Decidable.of_not_not fun hc => Nat.not_le_of_lt ((not_guard_lt_iff he).mp hc) h
  rw [replyByteLength, if_pos hguard]

/-- A byte length that is given is exact, and it is given if 64 bits hold it. -/
theorem replyByteLength_eq_ok_iff (he : 0 < element.toNat) {n : UInt64} :
    replyByteLength header element capacity = .ok n ↔
      n.toNat = header.toNat + capacity.toNat * element.toNat := by
  constructor
  · exact toNat_of_replyByteLength
  · intro hn
    have hok := replyByteLength_of_lt he (hn ▸ n.toNat_lt)
    rw [hok, Except.ok.injEq, ← UInt64.toNat_inj, toNat_of_replyByteLength hok, hn]

theorem exists_replyByteLength_iff (he : 0 < element.toNat) :
    (∃ n, replyByteLength header element capacity = .ok n) ↔
      header.toNat + capacity.toNat * element.toNat < UInt64.size := by
  constructor
  · rintro ⟨n, hn⟩
    rw [← toNat_of_replyByteLength hn]
    exact n.toNat_lt
  · exact fun h => ⟨_, replyByteLength_of_lt he h⟩

/-- A capacity is refused for its byte length and nothing else. -/
theorem replyByteLength_eq_error_iff (he : 0 < element.toNat) {fault : Fault} :
    replyByteLength header element capacity = .error fault ↔
      fault = .capacityTooLarge capacity ∧
        UInt64.size ≤ header.toNat + capacity.toNat * element.toNat := by
  rcases Nat.lt_or_ge (header.toNat + capacity.toNat * element.toNat) UInt64.size with hlt | hle
  · rw [replyByteLength_of_lt he hlt]
    constructor
    · intro h
      cases h
    · exact fun h => absurd h.2 (Nat.not_le_of_lt hlt)
  · rw [replyByteLength_of_le he hle, Except.error.injEq]
    exact ⟨fun h => ⟨h.symm, hle⟩, fun h => h.1.symm⟩

/-- Neither step of a byte length that is given leaves the 64-bit numbers. -/
theorem no_wrap_of_replyByteLength (he : 0 < element.toNat) {n : UInt64}
    (h : replyByteLength header element capacity = .ok n) :
    n = header + capacity * element ∧
      (capacity * element).toNat = capacity.toNat * element.toNat ∧
      (header + capacity * element).toNat = header.toNat + (capacity * element).toNat := by
  have hexact := toNat_of_replyByteLength h
  have hlt := n.toNat_lt
  have hproduct : (capacity * element).toNat = capacity.toNat * element.toNat := by
    rw [UInt64.toNat_mul, Nat.mod_eq_of_lt (by omega)]
  have hok := replyByteLength_of_lt he (hexact ▸ hlt)
  have hn : n = header + capacity * element := Except.ok.inj (h.symm.trans hok)
  exact ⟨hn, hproduct, by rw [← hn, hexact, hproduct]⟩

/-- More elements need more bytes. -/
theorem exact_lt_exact (he : 0 < element.toNat) {c c' : UInt64} (hc : c < c') :
    header.toNat + c.toNat * element.toNat < header.toNat + c'.toNat * element.toNat :=
  Nat.add_lt_add_left (Nat.mul_lt_mul_of_pos_right (UInt64.lt_iff_toNat_lt.mp hc) he) _

/-- A byte length is worked out from the two sizes of a shape. -/
theorem ReplyShape.byteLength_of_sizes {s : ReplyShape} (hh : s.header.size = header.toNat)
    (he : s.element.size = element.toNat) :
    s.byteLength capacity = replyByteLength header element capacity := by
  rw [byteLength, hh, he, UInt64.ofNat_toNat, UInt64.ofNat_toNat]

/-- Every capacity whose exact byte length has 64 bits gets that length, and
every other one is refused with a length error.  So the lengths grow with the capacity, and the
capacities that are refused are the largest ones. -/
theorem replyByteLength_exact (he : 0 < element) :
    (∀ capacity n, replyByteLength header element capacity = .ok n ↔
      n.toNat = header.toNat + capacity.toNat * element.toNat) ∧
    (∀ capacity, (∃ n, replyByteLength header element capacity = .ok n) ↔
      header.toNat + capacity.toNat * element.toNat ≤ 2 ^ 64 - 1) ∧
    (∀ capacity fault, replyByteLength header element capacity = .error fault ↔
      fault = .capacityTooLarge capacity ∧
        2 ^ 64 - 1 < header.toNat + capacity.toNat * element.toNat) ∧
    (∀ capacity fault, replyByteLength header element capacity = .error fault →
      fault.kind = .lengthError) ∧
    (∀ capacity n, replyByteLength header element capacity = .ok n →
      n = header + capacity * element ∧
      (capacity * element).toNat = capacity.toNat * element.toNat ∧
      (header + capacity * element).toNat = header.toNat + (capacity * element).toNat) ∧
    (∀ c c' n n', c < c' → replyByteLength header element c = .ok n →
      replyByteLength header element c' = .ok n' → n < n') ∧
    (∀ c c' fault, c < c' → replyByteLength header element c = .error fault →
      replyByteLength header element c' = .error (.capacityTooLarge c')) ∧
    (∀ s : ReplyShape, s.header.size = header.toNat → s.element.size = element.toNat →
      ∀ capacity, s.byteLength capacity = replyByteLength header element capacity) := by
  have hpos : 0 < element.toNat := UInt64.lt_iff_toNat_lt.mp he
  have hmax : 2 ^ 64 = UInt64.size := rfl
  refine ⟨fun capacity n => replyByteLength_eq_ok_iff hpos, fun capacity => ?given,
    fun capacity fault => ?refused, fun capacity fault h => ?kind,
    fun capacity n h => no_wrap_of_replyByteLength hpos h,
    fun c c' n n' hc hn hn' => ?increasing, fun c c' fault hc h => ?larger,
    fun s hheader helement capacity => ReplyShape.byteLength_of_sizes hheader helement⟩
  case given =>
    rw [exists_replyByteLength_iff hpos]
    omega
  case refused =>
    rw [replyByteLength_eq_error_iff hpos]
    exact and_congr_right fun _ => by omega
  case kind =>
    obtain ⟨rfl, -⟩ := (replyByteLength_eq_error_iff hpos).mp h
    rfl
  case increasing =>
    rw [UInt64.lt_iff_toNat_lt, toNat_of_replyByteLength hn, toNat_of_replyByteLength hn']
    exact exact_lt_exact hpos hc
  case larger =>
    obtain ⟨-, hle⟩ := (replyByteLength_eq_error_iff hpos).mp h
    exact replyByteLength_of_le hpos (Nat.le_trans hle (Nat.le_of_lt (exact_lt_exact hpos hc)))

/-- With a header and elements of eight bytes, the quotient leaves a remainder:
the largest byte length is seven below the largest number. -/
theorem replyByteLength_exact_of_eight :
    replyByteLength 8 8 0x1FFFFFFFFFFFFFFE = .ok 0xFFFFFFFFFFFFFFF8 ∧
    (0x1FFFFFFFFFFFFFFE * 8 : UInt64).toNat = 0x1FFFFFFFFFFFFFFE * 8 ∧
    replyByteLength 8 8 0x1FFFFFFFFFFFFFFF = .error (.capacityTooLarge 0x1FFFFFFFFFFFFFFF) := by
  obtain ⟨hgiven, -, hrefused, -, hsteps, -⟩ := @replyByteLength_exact 8 8 (by decide)
  have hok := (hgiven 0x1FFFFFFFFFFFFFFE 0xFFFFFFFFFFFFFFF8).mpr (by decide)
  obtain ⟨-, hproduct, -⟩ := hsteps _ _ hok
  exact ⟨hok, hproduct, (hrefused _ _).mpr ⟨rfl, by decide⟩⟩

namespace ReplyBuffer

variable {s : ReplyShape}

/-- A buffer whose byte length has 64 bits can be made, and it is zero. -/
theorem exists_ofCapacity {capacity : UInt64} (he : 0 < s.element.size)
    (h : s.header.size + capacity.toNat * s.element.size < UInt64.size) :
    ∃ b : ReplyBuffer s, ofCapacity s capacity = .ok b ∧ b.capacity = capacity ∧
      b.bytes = Bytes.zeros (s.header.size + capacity.toNat * s.element.size) := by
  have hheader := UInt64.toNat_ofNat_of_lt' s.header_size_lt
  have helement := UInt64.toNat_ofNat_of_lt' s.element_size_lt
  have hlength : s.byteLength capacity =
      .ok (UInt64.ofNat s.header.size + capacity * UInt64.ofNat s.element.size) :=
    replyByteLength_of_lt (by rwa [helement]) (by rwa [hheader, helement])
  refine ⟨_, ofCapacity_of_byteLength hlength, rfl, ?_⟩
  show Bytes.zeros _ = _
  rw [ReplyShape.toNat_of_byteLength hlength]

theorem length_toList_elements (b : ReplyBuffer s) (reported : UInt64) :
    (b.elements reported).toList.length = min reported.toNat b.capacity.toNat := by
  rw [ElementView.toList, length_recordsOf, count_elements]

/-- An element is the slice of the buffer at its place. -/
theorem bytes_getElem_toList_elements (b : ReplyBuffer s) (reported : UInt64) (i : Nat)
    (hi : i < (b.elements reported).toList.length) :
    ((b.elements reported).toList[i]).bytes =
      Bytes.slice b.bytes (s.header.size + i * s.element.size) s.element.size := by
  have h := bytes_getElem_recordsOf s.element _ _ (b.elements reported).fits i hi
  rw [← Bytes.slice_drop]
  exact h

/-- What is read from each element is a function of the slices at their places. -/
theorem map_toList_elements {α : Type} (b : ReplyBuffer s) (reported : UInt64)
    {f : Record s.element → α} {g : Nat → α}
    (h : ∀ (i : Nat) (r : Record s.element),
      r.bytes = Bytes.slice b.bytes (s.header.size + i * s.element.size) s.element.size →
      f r = g i) :
    (b.elements reported).toList.map f =
      (List.range (min reported.toNat b.capacity.toNat)).map g := by
  apply List.ext_getElem
  · rw [List.length_map, length_toList_elements, List.length_map, List.length_range]
  · intro i hi _
    rw [List.length_map] at hi
    rw [List.getElem_map, List.getElem_map, List.getElem_range]
    exact h i _ (b.bytes_getElem_toList_elements reported i hi)

end ReplyBuffer

end ScsiInitiator
