import ScsiInitiator.Proofs.Endings
import ScsiInitiator.Proofs.SenseBytes

/-!
# One error in two formats

Fixed and descriptor format hold the same things at different places.  Bytes of
either format *report the same error* if what they say differs in nothing but the
response code (`SenseData.SameError`).  They do so exactly if both are current or
both are deferred and the bytes at the places agree (`SenseData.sameError_iff`).

The response code is in no text.  So the text of the sense data and the message
of a device that failed do not tell the formats apart.
-/

namespace ScsiInitiator

namespace SenseData

/-- Two values say the same but for the response code. -/
structure SameError (s s' : SenseData) : Prop where
  /-- Both are sense data, or neither is. -/
  valid : s'.valid = s.valid
  /-- Both failures belong to an earlier command, or neither does. -/
  deferred : s'.deferred = s.deferred
  /-- The sense keys are the same. -/
  key : s'.key = s.key
  /-- The additional sense codes are the same. -/
  asc : s'.asc = s.asc
  /-- Their qualifiers are the same. -/
  ascq : s'.ascq = s.ascq

/-! ## Texts -/

theorem SameError.text_eq {s s' : SenseData} (h : SameError s s') : s'.text = s.text := by
  rw [text, text, h.valid, h.deferred, h.key, h.asc, h.ascq]

theorem SameError.deviceText_eq {s s' : SenseData} (h : SameError s s') (status : Status) :
    Fault.deviceText status s' = Fault.deviceText status s := by
  unfold Fault.deviceText
  rw [h.valid, h.text_eq]

/-! ## Bytes -/

variable {f d : Bytes}

/-- Bytes of the two formats report the same error exactly if they agree in the
variant and at the places of key, code and qualifier. -/
theorem sameError_iff (hf : codeOf f = 0x70 ∨ codeOf f = 0x71)
    (hd : codeOf d = 0x72 ∨ codeOf d = 0x73) :
    SameError (ofBytes f) (ofBytes d) ↔
      (codeOf f = 0x71 ↔ codeOf d = 0x73) ∧
      (Bytes.byteAt f 2).toNat % 16 = (Bytes.byteAt d 1).toNat % 16 ∧
      Bytes.byteAt f 12 = Bytes.byteAt d 2 ∧ Bytes.byteAt f 13 = Bytes.byteAt d 3 := by
  have hfixed := (reads_ofBytes f).eq (.fixed hf)
  have hdescriptor := (reads_ofBytes d).eq (.descriptor hd)
  rw [hfixed, hdescriptor]
  constructor
  · rintro ⟨-, hdeferred, hkey, hasc, hascq⟩
    have hkey := congrArg (fun k => k.code.toNat) hkey
    simp only [toNat_ofNat_mod_16] at hkey
    exact ⟨decide_eq_decide.mp hdeferred.symm, hkey.symm, hasc.symm, hascq.symm⟩
  · rintro ⟨hdeferred, hkey, hasc, hascq⟩
    exact ⟨rfl, decide_eq_decide.mpr hdeferred.symm, by rw [hkey], hasc.symm, hascq.symm⟩

/-- Descriptor format has all it says in its first four bytes. -/
theorem ofBytes_take_descriptor (hd : codeOf d = 0x72 ∨ codeOf d = 0x73) {n : Nat} (hn : 4 ≤ n) :
    ofBytes (d.take n) = ofBytes d := by
  have hbyte : ∀ i < 4, Bytes.byteAt (d.take n) i = Bytes.byteAt d i :=
    fun i hi => Bytes.byteAt_take d (Nat.lt_of_lt_of_le hi hn)
  have hcode : codeOf (d.take n) = codeOf d := by rw [codeOf, hbyte 0 (by decide), codeOf]
  have hread := Reads.descriptor (b := d.take n) (by rwa [hcode])
  rw [hcode, hbyte 1 (by decide), hbyte 2 (by decide), hbyte 3 (by decide)] at hread
  rw [(reads_ofBytes d).eq (.descriptor hd)]
  exact (reads_ofBytes (d.take n)).eq hread

/-- Sense bytes in fixed and in descriptor format that agree in the variant and at
the places of key, code and qualifier report the same error: the values, their
texts and the messages of a device that failed with them are equal.  Missing
bytes are zero, so this holds of bytes that end anywhere, and what comes after the
places can be cut off. -/
theorem formats_report_same
    (hcodes : codeOf f = 0x70 ∧ codeOf d = 0x72 ∨ codeOf f = 0x71 ∧ codeOf d = 0x73)
    (hkey : (Bytes.byteAt f 2).toNat % 16 = (Bytes.byteAt d 1).toNat % 16)
    (hasc : Bytes.byteAt f 12 = Bytes.byteAt d 2) (hascq : Bytes.byteAt f 13 = Bytes.byteAt d 3) :
    (ofBytes f).valid = true ∧ (ofBytes d).valid = true ∧
    (ofBytes d).deferred = (ofBytes f).deferred ∧ (ofBytes d).key = (ofBytes f).key ∧
    (ofBytes d).asc = (ofBytes f).asc ∧ (ofBytes d).ascq = (ofBytes f).ascq ∧
    (ofBytes d).text = (ofBytes f).text ∧
    (∀ o o' : Outcome, o.status.code ≠ 0x00 → o.status.code ≠ 0x04 → o'.status = o.status →
      o.sense = f → o'.sense = d →
      o.checkDevice = .error (.device o.status (ofBytes f)) ∧
      o'.checkDevice = .error (.device o.status (ofBytes d)) ∧
      (Fault.device o.status (ofBytes d)).message = (Fault.device o.status (ofBytes f)).message) ∧
    (∀ m n, 14 ≤ m → 4 ≤ n → ofBytes (f.take m) = ofBytes f ∧ ofBytes (d.take n) = ofBytes d) := by
  have hf : codeOf f = 0x70 ∨ codeOf f = 0x71 := hcodes.imp And.left And.left
  have hd : codeOf d = 0x72 ∨ codeOf d = 0x73 := hcodes.imp And.right And.right
  have hsame : SameError (ofBytes f) (ofBytes d) :=
    (sameError_iff hf hd).mpr ⟨by omega, hkey, hasc, hascq⟩
  have hvalid : (ofBytes f).valid = true := by rw [(reads_ofBytes f).eq (.fixed hf)]
  refine ⟨hvalid, hsame.valid.trans hvalid, hsame.deferred, hsame.key, hsame.asc, hsame.ascq,
    hsame.text_eq, ?_, ?_⟩
  · intro o o' hgood hmet hstatus hsense hsense'
    have hfailed : o.DeviceFailed := ⟨hgood, hmet⟩
    have hfailed' : o'.DeviceFailed := by
      rw [Outcome.DeviceFailed, hstatus]
      exact hfailed
    refine ⟨?_, ?_, congrArg Bytes.ofText (hsame.deviceText_eq o.status)⟩
    · rw [o.checkDevice_eq, if_pos hfailed, hsense]
    · rw [o'.checkDevice_eq, if_pos hfailed', hsense', hstatus]
  · intro m n hm hn
    refine ⟨?_, ofBytes_take_descriptor hd hn⟩
    have hcut : (f.take m).take 14 = f.take 14 := by rw [List.take_take, Nat.min_eq_left hm]
    rw [← ofBytes_take (f.take m), hcut, ofBytes_take]

/-- A deferred failure in three bytes of fixed format and in two bytes of
descriptor format. -/
theorem formats_report_same_short :
    let fixed : Outcome := { status := .checkCondition, sense := [0xF1, 0, 0x45] }
    let descriptor : Outcome := { status := .checkCondition, sense := [0x73, 0x15] }
    (ofBytes [0x73, 0x15]).text = (ofBytes [0xF1, 0, 0x45]).text ∧
    ∃ fault fault' : Fault, fixed.checkDevice = .error fault ∧
      descriptor.checkDevice = .error fault' ∧ fault'.message = fault.message ∧
      fault.message = .ofText ("SCSI status 0x02 (CHECK CONDITION): " ++
        "ILLEGAL REQUEST (asc=0x00, ascq=0x00) [deferred]") := by
  intro fixed descriptor
  obtain ⟨-, -, -, -, -, -, htext, hfaults, -⟩ :=
    formats_report_same (f := [0xF1, 0, 0x45]) (d := [0x73, 0x15])
      (.inr ⟨by decide, by decide⟩) (by decide) (by decide) (by decide)
  obtain ⟨hcheck, hcheck', hmessage⟩ :=
    hfaults fixed descriptor (by decide) (by decide) rfl rfl rfl
  exact ⟨htext, _, _, hcheck, hcheck', hmessage, by decide +kernel⟩

end SenseData

end ScsiInitiator
