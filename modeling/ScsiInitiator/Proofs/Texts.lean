import ScsiInitiator.Bytes
import ScsiInitiator.Numeral

/-!
# What texts are made of

A number in decimal is digits, with a minus sign before them if it is negative
(`mem_decimal`, `mem_decimalInt`).  A numeral tells its number: any number in
decimal (`decimal_inj`), and one that has room for all its digits in hexadecimal.

So a text that ends in a numeral can be read from its end.  In hexadecimal the
number of digits is known (`append_hexadecimal_inj`).  In decimal the numeral
starts after the last character that is no digit.  This is said of bytes
(`Bytes.append_decimal_inj`), since what stands before the numeral need not be a
text.

Texts that are joined with a separator between them come back when the whole is
split at the separator, as long as no text has its first character
(`toList_split_intercalate_of_not_mem`).  The standard library has this for a
separator of one character.  Here it follows from the positions at which the
library's search for a separator can stop.
-/

namespace ScsiInitiator

-- Powers are those of core here, also where another instance is in sight.
attribute [local instance (high)] instPowNat

/-! ## Numerals -/

theorem mem_decimal {n : Nat} {c : Char} (h : c ∈ (decimal n).toList) : c.isDigit = true := by
  have hrepr : decimal n = String.ofList (Nat.toDigits 10 n) := rfl
  rw [hrepr, String.toList_ofList] at h
  exact Nat.isDigit_of_mem_toDigits (by decide) (by decide) h

theorem mem_decimalInt {i : Int} {c : Char} (h : c ∈ (decimalInt i).toList) :
    c.isDigit = true ∨ c = '-' := by
  cases i with
  | ofNat n => exact .inl (mem_decimal (n := n) h)
  | negSucc n =>
      have hrepr : decimalInt (.negSucc n) = "-" ++ decimal (n + 1) := rfl
      rw [hrepr, String.toList_append, List.mem_append] at h
      rcases h with hsign | hdigits
      · exact .inr (List.mem_singleton.mp hsign)
      · exact .inl (mem_decimal hdigits)

theorem decimal_inj {m n : Nat} (h : decimal m = decimal n) : m = n := by
  have hread : ∀ k, Nat.ofDigitChars 10 (decimal k).toList 0 = k := by
    intro k
    have hrepr : (decimal k).toList = Nat.toDigits 10 k := String.toList_ofList
    rw [hrepr, Nat.ofDigitChars_toDigits (by decide) (by decide)]
  rw [← hread m, h, hread]

/-- Digits of a fixed number tell a number up to a power of sixteen. -/
theorem hexDigits_inj : ∀ {width m n : Nat}, hexDigits width m = hexDigits width n →
    m % 16 ^ width = n % 16 ^ width
  | 0, m, n, _ => by rw [Nat.pow_zero, Nat.mod_one, Nat.mod_one]
  | width + 1, m, n, h => by
      have hdigit : ∀ d < 16, ∀ e < 16, hexDigit d = hexDigit e → d = e := by decide
      rw [hexDigits, hexDigits] at h
      obtain ⟨hleft, hlast⟩ := List.append_inj' h rfl
      have hlow := hdigit _ (Nat.mod_lt m (by decide)) _ (Nat.mod_lt n (by decide))
        (List.cons.inj hlast).1
      rw [Nat.pow_succ, Nat.mul_comm, Nat.mod_mul, Nat.mod_mul, hlow, hexDigits_inj hleft]

theorem hexadecimal_inj {width m n : Nat} (hm : m < 16 ^ width) (hn : n < 16 ^ width)
    (h : hexadecimal width m = hexadecimal width n) : m = n := by
  have hmod := hexDigits_inj (String.ofList_injective h)
  rwa [Nat.mod_eq_of_lt hm, Nat.mod_eq_of_lt hn] at hmod

theorem nul_not_mem_hexadecimal {width n : Nat} : '\x00' ∉ (hexadecimal width n).toList := by
  have hdigit : ∀ d < 16, '\x00' ≠ hexDigit d := by decide
  rw [hexadecimal, String.toList_ofList]
  induction width generalizing n with
  | zero => exact List.not_mem_nil
  | succ width ih =>
      rw [hexDigits, List.mem_append, List.mem_singleton]
      rintro (hleft | hlast)
      · exact ih hleft
      · exact hdigit _ (Nat.mod_lt n (by decide)) hlast

theorem length_hexadecimal (width n : Nat) : (hexadecimal width n).length = width := by
  rw [hexadecimal, String.length_ofList, length_hexDigits]

/-! ## Texts that end in a numeral -/

theorem append_inj_of_length_eq {s t u v : String} (h : s.length = t.length) :
    s ++ u = t ++ v ↔ s = t ∧ u = v := by
  constructor
  · intro heq
    have hlist := congrArg String.toList heq
    rw [String.toList_append, String.toList_append] at hlist
    obtain ⟨hs, hu⟩ := List.append_inj hlist h
    exact ⟨String.toList_injective hs, String.toList_injective hu⟩
  · rintro ⟨rfl, rfl⟩
    rfl

/-- Texts that end in hexadecimal numerals of one width are equal exactly if the
numbers and what stands before them are. -/
theorem append_hexadecimal_inj {s t : String} {width m n : Nat} (hm : m < 16 ^ width)
    (hn : n < 16 ^ width) :
    s ++ hexadecimal width m = t ++ hexadecimal width n ↔ s = t ∧ m = n := by
  constructor
  · intro h
    have hlist := congrArg String.toList h
    rw [String.toList_append, String.toList_append] at hlist
    obtain ⟨hst, hdigits⟩ := List.append_inj' hlist
      ((length_hexadecimal width m).trans (length_hexadecimal width n).symm)
    exact ⟨String.toList_injective hst, hexadecimal_inj hm hn (String.toList_injective hdigits)⟩
  · rintro ⟨rfl, rfl⟩
    rfl

/-! ## Texts as bytes -/

namespace Bytes

/-- The bytes of a text are those of its characters. -/
theorem ofText_eq_flatMap (s : String) : ofText s = s.toList.flatMap String.utf8EncodeChar := by
  have hbytes : s.toByteArray = (s.toList.flatMap String.utf8EncodeChar).toByteArray := by
    conv => lhs; rw [← String.ofList_toList (s := s)]
    rfl
  rw [ofText, String.toUTF8, hbytes, List.toList_data_toByteArray]

theorem ofText_inj {s t : String} : ofText s = ofText t ↔ s = t := by
  constructor
  · intro h
    exact String.toByteArray_inj.mp (ByteArray.ext (Array.toList_inj.mp h))
  · rintro rfl
    rfl

/-- Only the NUL character has a NUL byte. -/
theorem eq_nul_of_mem_utf8EncodeChar {c : Char} (h : 0 ∈ String.utf8EncodeChar c) :
    c = '\x00' := by
  have hzero : ∀ n < 256, (0 : UInt8) = UInt8.ofNat n → n = 0 := by
    intro n hn h0
    rw [← UInt8.toNat_ofNat_of_lt' hn, ← h0, UInt8.toNat_zero]
  have hsum : ∀ n k, 0 < k → n + k < 256 → (0 : UInt8) ≠ UInt8.ofNat (n + k) := by
    intro n k hk hlt h0
    exact absurd (hzero _ hlt h0) (by omega)
  unfold String.utf8EncodeChar at h
  dsimp only at h
  -- Each byte of a character of several bytes is a sum that is not zero.
  split at h
  case isTrue =>
    have hcode := hzero _ (by omega) (List.mem_singleton.mp h)
    exact Char.ext (UInt32.toNat_inj.mp hcode)
  case isFalse =>
    split at h
    case isTrue =>
      simp only [List.mem_cons, List.not_mem_nil, or_false] at h
      rcases h with h | h <;> exact absurd h (hsum _ _ (by decide) (by omega))
    case isFalse =>
      split at h <;> simp only [List.mem_cons, List.not_mem_nil, or_false] at h
      · rcases h with h | h | h <;> exact absurd h (hsum _ _ (by decide) (by omega))
      · rcases h with h | h | h | h <;> exact absurd h (hsum _ _ (by decide) (by omega))

theorem nul_not_mem_ofText {s : String} (h : '\x00' ∉ s.toList) : 0 ∉ ofText s := by
  rw [ofText_eq_flatMap, List.mem_flatMap]
  rintro ⟨c, hc, hzero⟩
  exact h (eq_nul_of_mem_utf8EncodeChar hzero ▸ hc)

/-- The byte of a decimal digit. -/
def isDigit (x : UInt8) : Bool := 48 ≤ x && x ≤ 57

theorem isDigit_of_mem_decimal {n : Nat} {x : UInt8} (hx : x ∈ ofText (decimal n)) :
    isDigit x = true := by
  rw [ofText_eq_flatMap, List.mem_flatMap] at hx
  obtain ⟨c, hc, hmem⟩ := hx
  obtain ⟨hlow, hhigh⟩ := Char.isDigit_iff_toNat.mp (mem_decimal hc)
  have hsize : c.utf8Size = 1 := by
    rw [Char.utf8Size_eq_one_iff, UInt32.le_iff_toNat_le]
    exact Nat.le_trans hhigh (by decide)
  rw [String.utf8EncodeChar_eq_singleton hsize, List.mem_singleton] at hmem
  have hcode : x.toNat = c.toNat := by
    rw [hmem, UInt32.toNat_toUInt8]
    exact Nat.mod_eq_of_lt (Nat.lt_of_le_of_lt hhigh (by decide))
  rw [isDigit, Bool.and_eq_true, decide_eq_true_iff, decide_eq_true_iff, UInt8.le_iff_toNat_le,
    UInt8.le_iff_toNat_le, hcode]
  exact ⟨hlow, hhigh⟩

variable {b b' sep : Bytes} {x : UInt8}

/-- The digits at the end are those of the numeral there, if what stands before
the numeral ends in something else. -/
theorem takeWhile_isDigit_append_decimal (hsep : sep.getLast? = some x)
    (hx : isDigit x = false) (b : Bytes) (n : Nat) :
    (b ++ sep ++ ofText (decimal n)).reverse.takeWhile isDigit =
      (ofText (decimal n)).reverse := by
  obtain ⟨before, rfl⟩ := List.getLast?_eq_some_iff.mp hsep
  have hdigits : ∀ d ∈ (ofText (decimal n)).reverse, isDigit d = true :=
    fun d hd => isDigit_of_mem_decimal (List.mem_reverse.mp hd)
  rw [List.reverse_append, List.takeWhile_append_of_pos hdigits, List.reverse_append,
    List.reverse_concat, List.cons_append, List.takeWhile_cons_of_neg (by rw [hx]; decide),
    List.append_nil]

/-- Bytes that end in decimal numerals after the same separator are equal exactly
if the numbers and what stands before the separator are. -/
theorem append_decimal_inj (hsep : sep.getLast? = some x) (hx : isDigit x = false) {m n : Nat} :
    b ++ sep ++ ofText (decimal m) = b' ++ sep ++ ofText (decimal n) ↔ b = b' ∧ m = n := by
  constructor
  · intro h
    have hdigits := takeWhile_isDigit_append_decimal hsep hx b m
    rw [h, takeWhile_isDigit_append_decimal hsep hx, List.reverse_inj] at hdigits
    rw [hdigits, List.append_left_inj, List.append_left_inj] at h
    exact ⟨h, (decimal_inj (ofText_inj.mp hdigits)).symm⟩
  · rintro ⟨rfl, rfl⟩
    rfl

end Bytes

/-! ## Texts joined by a separator -/

open String.Slice (Pos)
open String.Slice.Pattern.Model

variable {c : Char} {sep t before rest : String} {s : String.Slice} {p stop : s.Pos}

/-- A separator at the start of a text has its first character there. -/
theorem mem_of_append_eq_append {left after : String} (hsep : sep.toList.head? = some c)
    (hne : left ≠ "") (h : sep ++ after = left ++ rest) : c ∈ left.toList := by
  obtain ⟨_, hcons⟩ := List.head?_eq_some_iff.mp hsep
  have hlist := congrArg String.toList h
  rw [String.toList_append, String.toList_append, hcons] at hlist
  cases hleft : left.toList with
  | nil => exact absurd (String.toList_eq_nil_iff.mp hleft) hne
  | cons x _ =>
      rw [hleft] at hlist
      rw [(List.cons.inj hlist).1]
      exact List.mem_cons_self

/-- No separator starts within a text that does not have its first character. -/
theorem not_matchesAt_of_not_mem (hsep : sep.toList.head? = some c) (ht : c ∉ t.toList)
    (hp : p.Splits before (t ++ rest)) (hstop : stop.Splits (before ++ t) rest) :
    ∀ q, p ≤ q → q < stop → ¬MatchesAt sep q := by
  intro q hpq hqstop hmatch
  obtain ⟨_, after, hq⟩ := ForwardStringSearcher.matchesAt_iff_splits.mp hmatch
  obtain ⟨skipped, hbefore, -⟩ := (hp.le_iff_exists_eq_append hq).mp hpq
  obtain ⟨left, hne, hleft, hafter⟩ := (hq.lt_iff_exists_eq_append hstop).mp hqstop
  -- What is left of the text from there on is not empty and starts as the separator does.
  rw [hbefore, String.append_assoc, String.append_right_inj] at hleft
  apply ht
  rw [hleft, String.toList_append]
  exact List.mem_append_right _ (mem_of_append_eq_append hsep hne hafter)

/-- The part of a slice between two positions is the text between them. -/
theorem copy_subslice_of_splits (hle : p ≤ stop) (hp : p.Splits before (t ++ rest))
    (hstop : stop.Splits (before ++ t) rest) : (s.subslice p stop hle).toSlice.copy = t := by
  obtain ⟨_, hcopy⟩ := String.Slice.copy_slice_eq_iff_splits.mpr ⟨before, rest, hp, hstop⟩
  simpa using hcopy

/-- From a position on, the joined texts are cut off one after another. -/
theorem copy_split_of_splits [StrictPatternModel sep] (hsep : sep.toList.head? = some c) :
    ∀ (l : List String) (t before : String) (p : s.Pos), c ∉ t.toList →
      (∀ u ∈ l, c ∉ u.toList) → p.Splits before (sep.intercalate (t :: l)) →
      (String.Slice.Pattern.Model.split sep p p (Std.le_refl p)).map (fun u => u.toSlice.copy) =
        t :: l
  | [], t, before, p, ht, _, hp => by
      have hend : s.endPos.Splits (before ++ t) "" := by
        rw [String.intercalate_singleton] at hp
        rw [← hp.eq_append]
        exact s.splits_endPos
      rw [String.intercalate_singleton, ← String.append_empty (s := t)] at hp
      rw [split_eq_of_not_matchesAt _ p.le_endPos (not_matchesAt_of_not_mem hsep ht hp hend),
        split_endPos, List.map_singleton, copy_subslice_of_splits _ hp hend]
  | u :: l, t, before, p, ht, hl, hp => by
      rw [String.intercalate_cons_cons, String.append_assoc] at hp
      have hstop := hp.splits_rotateRight
      have hnext := hstop.splits_rotateRight
      have hle : p ≤ hp.rotateRight := (hp.le_iff_exists_eq_append hstop).mpr ⟨t, rfl, rfl⟩
      have hmatch : IsLongestMatchAt sep hp.rotateRight hstop.rotateRight :=
        ForwardStringSearcher.isLongestMatchAt_iff_splits.mpr ⟨_, _, hstop, hnext⟩
      have ih := copy_split_of_splits hsep l u _ _ (hl u List.mem_cons_self)
        (fun v hv => hl v (List.mem_cons_of_mem _ hv)) hnext
      rw [split_eq_of_not_matchesAt _ hle (not_matchesAt_of_not_mem hsep ht hp hstop),
        split_eq_of_isLongestMatchAt hmatch, List.map_cons, copy_subslice_of_splits _ hp hstop, ih]

/-- Joined texts come back when the whole is split at the separator. -/
theorem toList_split_intercalate_of_not_mem (hsep : sep.toList.head? = some c) {l : List String}
    (hne : l ≠ []) (hl : ∀ u ∈ l, c ∉ u.toList) :
    ((sep.intercalate l).split sep).toList.map String.Slice.copy = l := by
  cases l with
  | nil => exact absurd rfl hne
  | cons t l =>
      have hsep' : sep ≠ "" := by
        rintro rfl
        cases hsep
      have := ForwardStringSearcher.strictPatternModel hsep'
      have := ForwardStringSearcher.lawfulToForwardSearcherModel hsep'
      have hstart : (sep.intercalate (t :: l)).toSlice.startPos.Splits ""
          (sep.intercalate (t :: l)) := by
        simp
      rw [String.split_eq_split_toSlice, String.Slice.toList_split_eq_splitToSubslice,
        String.Slice.Pattern.toList_splitToSubslice_eq_modelSplit, List.map_map]
      exact copy_split_of_splits hsep l t "" _ (hl t List.mem_cons_self)
        (fun u hu => hl u (List.mem_cons_of_mem _ hu)) hstart

end ScsiInitiator
