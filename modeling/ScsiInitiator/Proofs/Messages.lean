import ScsiInitiator.Proofs.SenseFormats
import ScsiInitiator.Proofs.Texts

/-!
# What messages tell

A message shows codes between fixed words, and the codes can be read off it.
Numbers in hexadecimal have a fixed number of digits, the sense keys have names of
their own, and statuses that share a name are told apart by their number.  So equal
messages come from equal codes: those of host adapter and driver
(`Outcome.adapterText_inj`), or status and sense data (`SenseData.deviceText_eq_iff`).

The name of an argument out of bounds may be any bytes, even some that read like the
words after it.  So the words are read from their end, where the value and the limit
stand in decimal, and what is left is the name (`Fault.outOfBoundsText_inj`).  But a
message ends before its first NUL byte, and a name with a NUL cuts off all that comes
after it (`Fault.message_of_nul_mem`).
-/

namespace ScsiInitiator

-- Powers are those of core here, also where another instance is in sight.
attribute [local instance (high)] instPowNat

theorem toNat_lt_two_digits (v : UInt8) : v.toNat < 16 ^ 2 := v.toNat_lt

theorem toNat_lt_four_digits (v : UInt16) : v.toNat < 16 ^ 4 := v.toNat_lt

/-! ## Failures of the transport -/

namespace Outcome

variable {host driver host' driver' : UInt16}

theorem adapterText_inj :
    adapterText host driver = adapterText host' driver' ↔ host = host' ∧ driver = driver' := by
  constructor
  · intro h
    unfold adapterText at h
    rw [append_hexadecimal_inj (toNat_lt_four_digits _) (toNat_lt_four_digits _),
      String.append_left_inj,
      append_hexadecimal_inj (toNat_lt_four_digits _) (toNat_lt_four_digits _)] at h
    obtain ⟨⟨-, hhost⟩, hdriver⟩ := h
    exact ⟨UInt16.toNat_inj.mp hhost, UInt16.toNat_inj.mp hdriver⟩
  · rintro ⟨rfl, rfl⟩
    rfl

theorem untilNul_adapterText :
    Fault.untilNul (.ofText (adapterText host driver)) = .ofText (adapterText host driver) := by
  apply Fault.untilNul_of_not_mem
  apply Bytes.nul_not_mem_ofText
  unfold adapterText
  simp only [String.toList_append, List.mem_append, not_or]
  exact ⟨⟨⟨by decide +kernel, nul_not_mem_hexadecimal⟩, by decide +kernel⟩,
    nul_not_mem_hexadecimal⟩

/-- A transport that failed without a system error is told by the codes of host
adapter and driver. -/
theorem message_of_checkTransport {o : Outcome} {f : Fault} (hsystem : o.systemError = 0)
    (h : o.checkTransport = .error f) :
    f.message = .ofText (adapterText o.hostStatus o.driverStatus) := by
  rw [checkTransport, if_neg (not_not_intro hsystem)] at h
  split at h
  · obtain rfl := Except.error.inj h
    exact untilNul_adapterText
  · cases h

theorem message_of_checkDevice {o : Outcome} {f : Fault} (h : o.checkDevice = .error f) :
    f.message = .ofText (Fault.deviceText o.status (SenseData.ofBytes o.sense)) := by
  rw [checkDevice] at h
  split at h
  · cases h
  · obtain rfl := Except.error.inj h
    rfl

end Outcome

/-! ## Failures of the device -/

/-- Sense keys of four bits have different names. -/
theorem SenseKey.name_inj {k k' : SenseKey} (hk : k.code.toNat < 16) (hk' : k'.code.toNat < 16) :
    k.name = k'.name ↔ k = k' := by
  have hname : ∀ c < 16, ∀ c' < 16, name ⟨.ofNat c⟩ = name ⟨.ofNat c'⟩ → c = c' := by
    decide +kernel
  constructor
  · intro h
    obtain ⟨c⟩ := k
    obtain ⟨c'⟩ := k'
    rw [← UInt8.ofNat_toNat (x := c), ← UInt8.ofNat_toNat (x := c')] at h
    exact congrArg mk (UInt8.toNat_inj.mp (hname _ hk _ hk' h))
  · rintro rfl
    rfl

namespace SenseData

variable {s s' : SenseData}

/-- The last character of the text says if the failure is deferred. -/
theorem deferred_eq (h : s.valid = true) :
    s.deferred = decide (s.text.toList.getLast? = some ']') := by
  rw [text, if_pos h]
  cases s.deferred with
  | false =>
      rw [if_neg Bool.false_ne_true, String.append_empty, String.toList_append,
        List.getLast?_append]
      rfl
  | true =>
      rw [if_pos rfl, String.toList_append, List.getLast?_append]
      rfl

/-- The text of sense data tells all but the response code.  It is read from its
end, where the last character says if the failure is deferred. -/
theorem text_eq_iff (hs : s.valid = true) (hs' : s'.valid = true) (hk : s.key.code.toNat < 16)
    (hk' : s'.key.code.toNat < 16) : s'.text = s.text ↔ SameError s s' := by
  constructor
  · intro h
    have hdeferred : s'.deferred = s.deferred := by rw [deferred_eq hs', h, deferred_eq hs]
    rw [text, text, if_pos hs, if_pos hs', hdeferred, String.append_left_inj,
      String.append_left_inj,
      append_hexadecimal_inj (toNat_lt_two_digits _) (toNat_lt_two_digits _),
      String.append_left_inj,
      append_hexadecimal_inj (toNat_lt_two_digits _) (toNat_lt_two_digits _),
      String.append_left_inj, SenseKey.name_inj hk' hk] at h
    obtain ⟨⟨hkey, hasc⟩, hascq⟩ := h
    exact ⟨hs'.trans hs.symm, hdeferred, hkey, UInt8.toNat_inj.mp hasc, UInt8.toNat_inj.mp hascq⟩
  · exact SameError.text_eq

/-- What a message shows of sense bytes tells if they are sense data, and what they say. -/
theorem sameError_of_shown_eq {b b' : Bytes}
    (h : (if (ofBytes b').valid then ": " ++ (ofBytes b').text else "") =
      if (ofBytes b).valid then ": " ++ (ofBytes b).text else "") :
    SameError (ofBytes b) (ofBytes b') := by
  have hread := reads_ofBytes b
  have hread' := reads_ofBytes b'
  have hshown : ∀ t, ": " ++ t ≠ "" := by
    intro t ht
    have hlist := congrArg String.toList ht
    rw [String.toList_append] at hlist
    cases hlist
  by_cases hv : (ofBytes b).valid = true
  · by_cases hv' : (ofBytes b').valid = true
    · rw [if_pos hv, if_pos hv', String.append_right_inj] at h
      exact (text_eq_iff hv hv' hread.key_lt hread'.key_lt).mp h
    · rw [if_pos hv, if_neg hv'] at h
      exact absurd h.symm (hshown _)
  · by_cases hv' : (ofBytes b').valid = true
    · rw [if_pos hv', if_neg hv] at h
      exact absurd h (hshown _)
    · rw [hread.eq_default (Bool.eq_false_of_not_eq_true hv),
        hread'.eq_default (Bool.eq_false_of_not_eq_true hv')]
      exact ⟨rfl, rfl, rfl, rfl, rfl⟩

/-- A failure of the device is told by its status and by all that the sense bytes
say but the response code. -/
theorem deviceText_eq_iff {status status' : Status} {b b' : Bytes} :
    Fault.deviceText status' (ofBytes b') = Fault.deviceText status (ofBytes b) ↔
      status' = status ∧ SameError (ofBytes b) (ofBytes b') := by
  constructor
  · intro h
    unfold Fault.deviceText at h
    simp only [String.append_assoc, String.append_right_inj] at h
    rw [append_inj_of_length_eq
      ((length_hexadecimal 2 _).trans (length_hexadecimal 2 _).symm)] at h
    obtain ⟨hcode, hrest⟩ := h
    have hstatus : status' = status := congrArg Status.mk (UInt8.toNat_inj.mp
      (hexadecimal_inj (toNat_lt_two_digits _) (toNat_lt_two_digits _) hcode))
    -- The same status has the same name, and the rest comes from the sense bytes.
    subst hstatus
    simp only [String.append_right_inj] at hrest
    exact ⟨rfl, sameError_of_shown_eq hrest⟩
  · rintro ⟨rfl, hsame⟩
    exact hsame.deviceText_eq status'

end SenseData

/-! ## Arguments out of bounds -/

namespace Fault

variable {argument argument' : Bytes} {limit limit' value value' : UInt64}

/-- The words of an argument out of bounds tell the argument and both numbers,
whatever the argument is called.  They are read from their end: each number stands
after a space, which no number has. -/
theorem outOfBoundsText_inj :
    outOfBoundsText argument limit value = outOfBoundsText argument' limit' value' ↔
      argument = argument' ∧ limit = limit' ∧ value = value' := by
  constructor
  · intro h
    have hvalue : (Bytes.ofText ", but ").getLast? = some 32 := by decide +kernel
    have hlimit : (Bytes.ofText " is out of bounds. The maximum possible value is ").getLast? =
        some 32 := by decide +kernel
    rw [outOfBoundsText, outOfBoundsText, List.append_left_inj, Bytes.append_decimal_inj hvalue rfl,
      Bytes.append_decimal_inj hlimit rfl] at h
    obtain ⟨⟨hargument, hlimit⟩, hvalue⟩ := h
    exact ⟨hargument, UInt64.toNat_inj.mp hlimit, UInt64.toNat_inj.mp hvalue⟩
  · rintro ⟨rfl, rfl, rfl⟩
    rfl

theorem message_of_nul_not_mem (h : 0 ∉ argument) (limit value : UInt64) :
    (outOfBounds argument limit value).message = outOfBoundsText argument limit value := by
  have hnumber : ∀ n, 0 ∉ Bytes.ofText (decimal n) :=
    fun n hn => absurd (Bytes.isDigit_of_mem_decimal hn) (by decide)
  apply untilNul_of_not_mem
  simp only [outOfBoundsText, List.mem_append, not_or]
  exact ⟨⟨⟨⟨⟨h, by decide +kernel⟩, hnumber _⟩, by decide +kernel⟩, hnumber _⟩,
    by decide +kernel⟩

theorem untilNul_append_of_mem {b : Bytes} (h : 0 ∈ b) (rest : Bytes) :
    untilNul (b ++ rest) = untilNul b := by
  obtain ⟨before, after, hb, hbefore⟩ := List.eq_append_cons_of_mem h
  have hkept : ∀ x ∈ before, (x != 0) = true :=
    fun x hx => bne_iff_ne.mpr (ne_of_mem_of_not_mem hx hbefore)
  rw [untilNul, untilNul, hb, List.append_assoc, List.takeWhile_append_of_pos hkept,
    List.takeWhile_append_of_pos hkept]
  rfl

/-- If the name has a NUL, the message is the part of the name before it. -/
theorem message_of_nul_mem (h : 0 ∈ argument) (limit value : UInt64) :
    (outOfBounds argument limit value).message = untilNul argument := by
  show untilNul (outOfBoundsText argument limit value) = untilNul argument
  simp only [outOfBoundsText, List.append_assoc]
  exact untilNul_append_of_mem h _

/-- Faults that agree up to a NUL in the name have the same message, and may have
nothing else in common. -/
theorem same_message_up_to_nul :
    ¬((outOfBounds (.ofText "first\x00name") 7 8).message =
        (outOfBounds (.ofText "first\x00other") 1 2).message →
      Bytes.ofText "first\x00name" = .ofText "first\x00other" ∧ (7 : UInt64) = 1 ∧
        (8 : UInt64) = 2) := by
  decide +kernel

end Fault

/-! ## All messages -/

/-- Messages tell the codes they report.  Without a system error, the message of a
transport that failed tells the codes of host adapter and driver.  The message of a
device that failed tells the status, whether there is sense data, and all that it
says but the response code.  The words of an argument out of bounds tell the
argument, its limit and its value, whatever the argument is called.  As its message
ends before the first NUL, it tells them if the name has none, and otherwise shows
only the part of the name before it. -/
theorem messages_tell_codes :
    (∀ (o o' : Outcome) (f f' : Fault), o.systemError = 0 → o'.systemError = 0 →
      o.checkTransport = .error f → o'.checkTransport = .error f' →
      (f'.message = f.message ↔
        o'.hostStatus = o.hostStatus ∧ o'.driverStatus = o.driverStatus)) ∧
    (∀ (o o' : Outcome) (f f' : Fault),
      o.checkDevice = .error f → o'.checkDevice = .error f' →
      (f'.message = f.message ↔ o'.status = o.status ∧
        SenseData.SameError (SenseData.ofBytes o.sense) (SenseData.ofBytes o'.sense))) ∧
    (∀ (argument argument' : Bytes) (limit limit' value value' : UInt64),
      0 ∉ argument → 0 ∉ argument' →
      ((Fault.outOfBounds argument' limit' value').message =
          (Fault.outOfBounds argument limit value).message ↔
        argument' = argument ∧ limit' = limit ∧ value' = value)) ∧
    (∀ (argument argument' : Bytes) (limit limit' value value' : UInt64),
      Fault.outOfBoundsText argument' limit' value' = Fault.outOfBoundsText argument limit value ↔
        argument' = argument ∧ limit' = limit ∧ value' = value) ∧
    (∀ (argument : Bytes) (limit value : UInt64), 0 ∈ argument →
      (Fault.outOfBounds argument limit value).message = Fault.untilNul argument) := by
  refine ⟨?_, ?_, ?_, fun _ _ _ _ _ _ => Fault.outOfBoundsText_inj,
    fun _ limit value h => Fault.message_of_nul_mem h limit value⟩
  · intro o o' f f' hsystem hsystem' h h'
    rw [Outcome.message_of_checkTransport hsystem h, Outcome.message_of_checkTransport hsystem' h',
      Bytes.ofText_inj, Outcome.adapterText_inj]
  · intro o o' f f' h h'
    rw [Outcome.message_of_checkDevice h, Outcome.message_of_checkDevice h', Bytes.ofText_inj,
      SenseData.deviceText_eq_iff]
  · intro argument argument' limit limit' value value' h h'
    rw [Fault.message_of_nul_not_mem h, Fault.message_of_nul_not_mem h',
      Fault.outOfBoundsText_inj]

/-- Codes that share digits, sense bytes in two formats, names that are no text, and
a name that reads like a message, without a NUL and with one. -/
theorem messages_tell_codes_of_alike :
    let adapter : Outcome := { hostStatus := 0x10, driverStatus := 0x1 }
    let driver : Outcome := { hostStatus := 0x1, driverStatus := 0x10 }
    let fixed : Outcome := { status := .busy, sense := [0xF0, 0, 0x25] }
    let descriptor : Outcome := { status := .busy, sense := [0x72, 5] }
    let words : Bytes := .ofText
      "length is out of bounds. The maximum possible value is 1, but 2 was provided."
    (∃ f f' : Fault, adapter.checkTransport = .error f ∧ driver.checkTransport = .error f' ∧
      f'.message ≠ f.message) ∧
    (∃ f f' : Fault, fixed.checkDevice = .error f ∧ descriptor.checkDevice = .error f' ∧
      f'.message = f.message) ∧
    (Fault.outOfBounds [0xFF] 1 2).message ≠ (Fault.outOfBounds [0xFE] 1 2).message ∧
    (Fault.outOfBounds words 1 2).message ≠ (Fault.outOfBounds (.ofText "length") 1 2).message ∧
    (Fault.outOfBounds (words ++ [0]) 7 8).message = words := by
  intro adapter driver fixed descriptor words
  obtain ⟨htransport, hdevice, hargument, -, hnul⟩ := messages_tell_codes
  refine ⟨⟨_, _, rfl, rfl, ?_⟩, ⟨_, _, rfl, rfl, ?_⟩, ?_, ?_, ?_⟩
  · intro heq
    exact absurd ((htransport adapter driver _ _ rfl rfl rfl rfl).mp heq) (by decide)
  · exact (hdevice fixed descriptor _ _ rfl rfl).mpr
      ⟨rfl, by decide, by decide, by decide, by decide, by decide⟩
  · intro heq
    exact absurd ((hargument [0xFE] [0xFF] 1 1 2 2 (by decide) (by decide)).mp heq) (by decide)
  · intro heq
    exact absurd ((hargument (.ofText "length") words 1 1 2 2 (by decide +kernel)
      (by decide +kernel)).mp heq) (by decide +kernel)
  · rw [hnul (words ++ [0]) 7 8 (by decide +kernel)]
    decide +kernel

end ScsiInitiator
