import Mathlib.Data.List.Infix
import ScsiInitiator.Proofs.ByteNumbers
import ScsiInitiator.Sense

/-!
# What sense bytes say

Sense bytes are read in one of three ways (`SenseData.Reads`): as no sense data,
in fixed format or in descriptor format.  The response code decides which, and
each format has the key and its two refinements at places of its own.

No more than fourteen bytes are looked at, and a byte that is missing counts as
zero.  So zeros at the end make no difference, nor does what is cut beyond the
fourteenth byte.  The key has four bits and so a name, and its name is the only
part of the text that could say it has none.
-/

namespace ScsiInitiator

/-- A response code stands for one format, for the other, or for none. -/
theorem SenseFormat.ofCode?_cases (c : UInt8) :
    (ofCode? c = none ∧ (c.toNat < 0x70 ∨ 0x73 < c.toNat)) ∨
    (ofCode? c = some fixed ∧ (c.toNat = 0x70 ∨ c.toNat = 0x71)) ∨
    (ofCode? c = some descriptor ∧ (c.toNat = 0x72 ∨ c.toNat = 0x73)) := by
  generalize hformat : ofCode? c = format
  unfold ofCode? at hformat
  split at hformat
  · exact .inr (.inl ⟨hformat.symm, .inl rfl⟩)
  · exact .inr (.inl ⟨hformat.symm, .inr rfl⟩)
  · exact .inr (.inr ⟨hformat.symm, .inl rfl⟩)
  · exact .inr (.inr ⟨hformat.symm, .inr rfl⟩)
  · rename_i h70 h71 h72 h73
    have hne : ∀ {d : UInt8}, (c = d → False) → c.toNat ≠ d.toNat :=
      fun h heq => h (UInt8.toNat_inj.mp heq)
    have h70' : c.toNat ≠ 0x70 := hne h70
    have h71' : c.toNat ≠ 0x71 := hne h71
    have h72' : c.toNat ≠ 0x72 := hne h72
    have h73' : c.toNat ≠ 0x73 := hne h73
    exact .inl ⟨hformat.symm, by omega⟩

namespace SenseData

/-! ## Three readings -/

/-- The response code of sense bytes: the first byte without its highest bit. -/
def codeOf (b : Bytes) : Nat := (Bytes.byteAt b 0).toNat % 128

/-- Sense bytes say this. -/
inductive Reads (b : Bytes) : SenseData → Prop
  /-- There is no response code of sense data. -/
  | none (h : codeOf b < 0x70 ∨ 0x73 < codeOf b) : Reads b {}
  /-- In fixed format the places are 2, 12 and 13. -/
  | fixed (h : codeOf b = 0x70 ∨ codeOf b = 0x71) : Reads b
      { valid := true
        responseCode := .ofNat (codeOf b)
        deferred := codeOf b = 0x71
        key := ⟨.ofNat ((Bytes.byteAt b 2).toNat % 16)⟩
        asc := Bytes.byteAt b 12
        ascq := Bytes.byteAt b 13 }
  /-- In descriptor format the places are 1, 2 and 3. -/
  | descriptor (h : codeOf b = 0x72 ∨ codeOf b = 0x73) : Reads b
      { valid := true
        responseCode := .ofNat (codeOf b)
        deferred := codeOf b = 0x73
        key := ⟨.ofNat ((Bytes.byteAt b 1).toNat % 16)⟩
        asc := Bytes.byteAt b 2
        ascq := Bytes.byteAt b 3 }

/-- Without its highest bit, a byte is its remainder by 128. -/
theorem toNat_and_0x7F (x : UInt8) : (x &&& 0x7F).toNat = x.toNat % 128 := by
  rw [UInt8.toNat_and]
  exact Nat.and_two_pow_sub_one_eq_mod _ 7

theorem toNat_ofNat_mod_16 (n : Nat) : (UInt8.ofNat (n % 16)).toNat = n % 16 :=
  UInt8.toNat_ofNat_of_lt' (Nat.lt_trans (Nat.mod_lt n (by decide)) (by decide))

theorem and_0x0F (x : UInt8) : x &&& 0x0F = .ofNat (x.toNat % 16) := by
  rw [← UInt8.toNat_inj, UInt8.toNat_and, toNat_ofNat_mod_16]
  exact Nat.and_two_pow_sub_one_eq_mod _ 4

theorem ofBytes_of_format {b : Bytes} {format : SenseFormat}
    (h : SenseFormat.ofCode? (Bytes.byteAt b 0 &&& 0x7F) = some format) :
    ofBytes b =
      { valid := true
        responseCode := Bytes.byteAt b 0 &&& 0x7F
        deferred := decide (Bytes.byteAt b 0 &&& 0x7F = 0x71 ∨ Bytes.byteAt b 0 &&& 0x7F = 0x73)
        key := ⟨Bytes.byteAt b format.keyAt &&& 0x0F⟩
        asc := Bytes.byteAt b format.ascAt
        ascq := Bytes.byteAt b format.ascqAt } := by
  simp only [ofBytes, h]

/-- Sense bytes of any length are read. -/
theorem reads_ofBytes (b : Bytes) : Reads b (ofBytes b) := by
  have hcode := toNat_and_0x7F (Bytes.byteAt b 0)
  rw [← codeOf] at hcode
  have hofNat : Bytes.byteAt b 0 &&& 0x7F = .ofNat (codeOf b) := by
    rw [← hcode, UInt8.ofNat_toNat]
  rcases SenseFormat.ofCode?_cases (Bytes.byteAt b 0 &&& 0x7F) with
    ⟨hformat, h⟩ | ⟨hformat, h⟩ | ⟨hformat, h⟩
  · rw [hcode] at h
    rw [ofBytes, hformat]
    exact .none h
  -- Both codes of a format give the same reading, and only `deferred` tells them apart.
  · rw [hcode] at h
    have hread := Reads.fixed (b := b) h
    rw [ofBytes_of_format hformat, hofNat, and_0x0F]
    rcases h with h | h
    · rw [h] at hread ⊢
      exact hread
    · rw [h] at hread ⊢
      exact hread
  · rw [hcode] at h
    have hread := Reads.descriptor (b := b) h
    rw [ofBytes_of_format hformat, hofNat, and_0x0F]
    rcases h with h | h
    · rw [h] at hread ⊢
      exact hread
    · rw [h] at hread ⊢
      exact hread

/-- Sense bytes say one thing. -/
theorem Reads.eq {b : Bytes} {s s' : SenseData} (h : Reads b s) (h' : Reads b s') : s = s' := by
  cases h with
  | none h =>
      cases h' with
      | none _ => rfl
      | fixed _ => omega
      | descriptor _ => omega
  | fixed h =>
      cases h' with
      | none _ => omega
      | fixed _ => rfl
      | descriptor _ => omega
  | descriptor h =>
      cases h' with
      | none _ => omega
      | fixed _ => omega
      | descriptor _ => rfl

variable {b : Bytes} {s : SenseData}

/-- There is sense data exactly if there are bytes and their code is one of four.
No bytes have the code zero. -/
theorem Reads.valid_iff (h : Reads b s) :
    s.valid = true ↔ b ≠ [] ∧ 0x70 ≤ codeOf b ∧ codeOf b ≤ 0x73 := by
  have hnil : 0x70 ≤ codeOf b → b ≠ [] := by
    rintro hcode rfl
    exact absurd hcode (by decide)
  cases h with
  | none h => exact ⟨fun hvalid => absurd hvalid Bool.false_ne_true, fun _ => by omega⟩
  | fixed h => exact ⟨fun _ => ⟨hnil (by omega), by omega, by omega⟩, fun _ => rfl⟩
  | descriptor h => exact ⟨fun _ => ⟨hnil (by omega), by omega, by omega⟩, fun _ => rfl⟩

theorem Reads.eq_default (h : Reads b s) (hvalid : s.valid = false) : s = {} := by
  cases h with
  | none _ => rfl
  | fixed _ => cases hvalid
  | descriptor _ => cases hvalid

/-- Sense data has its fields from the places of its format. -/
theorem Reads.fields (h : Reads b s) (hvalid : s.valid = true) :
    s.responseCode.toNat = codeOf b ∧
    (s.deferred = true ↔ codeOf b = 0x71 ∨ codeOf b = 0x73) ∧
    (codeOf b = 0x70 ∨ codeOf b = 0x71 →
      s.key.code.toNat = (Bytes.byteAt b 2).toNat % 16 ∧
      s.asc = Bytes.byteAt b 12 ∧ s.ascq = Bytes.byteAt b 13) ∧
    (codeOf b = 0x72 ∨ codeOf b = 0x73 →
      s.key.code.toNat = (Bytes.byteAt b 1).toNat % 16 ∧
      s.asc = Bytes.byteAt b 2 ∧ s.ascq = Bytes.byteAt b 3) := by
  have hlt : codeOf b < UInt8.size := Nat.lt_trans (Nat.mod_lt _ (by decide)) (by decide)
  cases h with
  | none _ => cases hvalid
  | fixed h =>
      refine ⟨UInt8.toNat_ofNat_of_lt' hlt, ?_, fun _ => ⟨toNat_ofNat_mod_16 _, rfl, rfl⟩,
        fun h' => by omega⟩
      rw [decide_eq_true_iff]
      omega
  | descriptor h =>
      refine ⟨UInt8.toNat_ofNat_of_lt' hlt, ?_, fun h' => by omega,
        fun _ => ⟨toNat_ofNat_mod_16 _, rfl, rfl⟩⟩
      rw [decide_eq_true_iff]
      omega

/-! ## What does not count -/

/-- Only the response code and the next thirteen bytes count. -/
theorem Reads.congr {a b : Bytes} {s : SenseData} (hs : Reads a s) (hcode : codeOf a = codeOf b)
    (h : ∀ i, 1 ≤ i → i < 14 → Bytes.byteAt a i = Bytes.byteAt b i) : Reads b s := by
  cases hs with
  | none hnone => exact .none (hcode ▸ hnone)
  | fixed hfixed =>
      rw [hcode, h 2 (by decide) (by decide), h 12 (by decide) (by decide),
        h 13 (by decide) (by decide)]
      exact .fixed (hcode ▸ hfixed)
  | descriptor hdescriptor =>
      rw [hcode, h 1 (by decide) (by decide), h 2 (by decide) (by decide),
        h 3 (by decide) (by decide)]
      exact .descriptor (hcode ▸ hdescriptor)

theorem ofBytes_congr {a b : Bytes} (hcode : codeOf a = codeOf b)
    (h : ∀ i, 1 ≤ i → i < 14 → Bytes.byteAt a i = Bytes.byteAt b i) : ofBytes a = ofBytes b :=
  ((reads_ofBytes a).congr hcode h).eq (reads_ofBytes b)

theorem ofBytes_append_zeros (b : Bytes) (n : Nat) : ofBytes (b ++ Bytes.zeros n) = ofBytes b := by
  apply ofBytes_congr
  · rw [codeOf, Bytes.byteAt_append_zeros, codeOf]
  · intro i _ _
    exact Bytes.byteAt_append_zeros b n i

theorem ofBytes_take (b : Bytes) : ofBytes (b.take 14) = ofBytes b := by
  apply ofBytes_congr
  · rw [codeOf, Bytes.byteAt_take b (by decide), codeOf]
  · intro i _ hi
    exact Bytes.byteAt_take b hi

/-- The highest bit of the first byte does not count. -/
theorem ofBytes_flip (x : UInt8) (b : Bytes) : ofBytes ((x ^^^ 0x80) :: b) = ofBytes (x :: b) := by
  apply ofBytes_congr
  · show (x ^^^ 0x80).toNat % 2 ^ 7 = x.toNat % 2 ^ 7
    have hhigh : (0x80 : Nat) % 2 ^ 7 = 0 := rfl
    rw [UInt8.toNat_xor, Nat.xor_mod_two_pow]
    exact (congrArg _ hhigh).trans (Nat.xor_zero _)
  · intro i hi _
    obtain ⟨k, rfl⟩ : ∃ k, i = k + 1 := ⟨i - 1, by omega⟩
    rw [Bytes.byteAt_cons_succ, Bytes.byteAt_cons_succ]

/-! ## The key in the text -/

/-- The letters of the name that a number beyond four bits has. -/
def unknownLetter (c : Char) : Bool := c ∈ "UNKNOWN".toList

theorem filter_hexDigits : ∀ width n : Nat, (hexDigits width n).filter unknownLetter = []
  | 0, _ => rfl
  | width + 1, n => by
      have hdigit : ∀ d < 16, [hexDigit d].filter unknownLetter = [] := by decide
      rw [hexDigits, List.filter_append, filter_hexDigits width,
        hdigit _ (Nat.mod_lt _ (by decide)), List.append_nil]

/-- In the text of sense data such letters stand in the name of the key only. -/
theorem filter_text {s : SenseData} (h : s.valid = true) :
    s.text.toList.filter unknownLetter = s.key.name.toList.filter unknownLetter := by
  have hend : (if s.deferred then " [deferred]" else "").toList.filter unknownLetter = [] := by
    cases s.deferred <;> decide
  have hasc : " (asc=0x".toList.filter unknownLetter = [] := by decide
  have hascq : ", ascq=0x".toList.filter unknownLetter = [] := by decide
  have hclose : ")".toList.filter unknownLetter = [] := by decide
  rw [text, if_pos h]
  simp only [String.toList_append, hexadecimal, String.toList_ofList, List.filter_append,
    filter_hexDigits, hasc, hascq, hclose, hend, List.append_nil]

/-- No name of a key of four bits has these letters in a row, even if all others
are left out. -/
theorem not_infix_name : ∀ k < 16,
    ¬"UNKNOWN".toList <:+: (SenseKey.name ⟨.ofNat k⟩).toList.filter unknownLetter := by
  decide

theorem Reads.key_lt {b : Bytes} {s : SenseData} (h : Reads b s) : s.key.code.toNat < 16 := by
  cases h with
  | none _ => decide
  | fixed _ => exact (toNat_ofNat_mod_16 _).trans_lt (Nat.mod_lt _ (by decide))
  | descriptor _ => exact (toNat_ofNat_mod_16 _).trans_lt (Nat.mod_lt _ (by decide))

theorem not_infix_name_ofBytes (b : Bytes) :
    ¬"UNKNOWN".toList <:+: (ofBytes b).key.name.toList.filter unknownLetter := by
  have hname := not_infix_name _ (reads_ofBytes b).key_lt
  rwa [UInt8.ofNat_toNat] at hname

/-- The text of sense bytes never says that the key has no name. -/
theorem not_infix_text (b : Bytes) : ¬"UNKNOWN".toList <:+: (ofBytes b).text.toList := by
  intro h
  -- What is in a row in the text is so among these letters, all of them from the name.
  have hfilter := h.filter unknownLetter
  cases hvalid : (ofBytes b).valid with
  | true =>
      rw [filter_text hvalid] at hfilter
      exact not_infix_name_ofBytes b hfilter
  | false =>
      rw [text, hvalid, if_neg Bool.false_ne_true] at h
      exact absurd h (by decide)

/-! ## Sense bytes of any length -/

/-- Sense bytes of any length are read, and a byte that is missing counts as zero.
They are sense data exactly if there are some and their response code is one of
four, and say nothing else otherwise.  The response code tells the format and so
the places of the key, the code and the qualifier.  Zeros at the end, what comes
after the fourteenth byte and the highest bit of the first byte make no
difference.  The key always has a name, and the text never says that it has none. -/
theorem ofBytes_reads_any_length (b : Bytes) :
    ((ofBytes b).valid = true ↔ b ≠ [] ∧ 0x70 ≤ codeOf b ∧ codeOf b ≤ 0x73) ∧
    ((ofBytes b).valid = false → ofBytes b = {}) ∧
    ((ofBytes b).valid = true →
      (ofBytes b).responseCode.toNat = codeOf b ∧
      ((ofBytes b).deferred = true ↔ codeOf b = 0x71 ∨ codeOf b = 0x73) ∧
      (codeOf b = 0x70 ∨ codeOf b = 0x71 →
        (ofBytes b).key.code.toNat = (Bytes.byteAt b 2).toNat % 16 ∧
        (ofBytes b).asc = Bytes.byteAt b 12 ∧ (ofBytes b).ascq = Bytes.byteAt b 13) ∧
      (codeOf b = 0x72 ∨ codeOf b = 0x73 →
        (ofBytes b).key.code.toNat = (Bytes.byteAt b 1).toNat % 16 ∧
        (ofBytes b).asc = Bytes.byteAt b 2 ∧ (ofBytes b).ascq = Bytes.byteAt b 3)) ∧
    (∀ n, ofBytes (b ++ Bytes.zeros n) = ofBytes b) ∧
    ofBytes (b.take 14) = ofBytes b ∧
    (∀ x rest, b = x :: rest → ofBytes ((x ^^^ 0x80) :: rest) = ofBytes b) ∧
    (ofBytes b).key.code.toNat < 16 ∧
    (ofBytes b).key.name ≠ "UNKNOWN" ∧
    ¬"UNKNOWN".toList <:+: (ofBytes b).text.toList := by
  have hread := reads_ofBytes b
  refine ⟨hread.valid_iff, hread.eq_default, hread.fields, ofBytes_append_zeros b, ofBytes_take b,
    ?_, hread.key_lt, ?_, not_infix_text b⟩
  · rintro x rest rfl
    exact ofBytes_flip x rest
  · intro hname
    have hletters := not_infix_name_ofBytes b
    rw [hname] at hletters
    exact hletters (by decide)

end SenseData

end ScsiInitiator
