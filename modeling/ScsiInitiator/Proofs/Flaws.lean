import ScsiInitiator.Initiator
import ScsiInitiator.Proofs.Texts

/-!
# Flaws of settings

Each setting has a range, and a setting out of its range has one flaw
(`Settings.flaws_eq`).  The two flaws of a timeout exclude each other.

Settings without flaws are sound.  All who look at settings find the same flaws:
the review, which may leave a notice, the check, and the making of an initiator
(`Settings.views_agree`).  They tell of the flaws in one sentence.  The loop that
makes the sentence puts the separator between the messages
(`Settings.joined_eq_intercalate`), since no message is empty.  The sentence can
be taken apart again, since no message has a semicolon.
-/

namespace ScsiInitiator.Settings

/-! ## Flaws by setting -/

/-- A timeout out of its range has one flaw. -/
theorem timeout_flaws_eq (t : Int64) :
    (if t ≤ 0 then [Flaw.timeoutNotPositive t] else []) ++
      (if maxTimeout < t then [.timeoutTooLong t] else []) =
      if 1 ≤ t.toInt ∧ t.toInt ≤ 4294967295 then []
      else [if t.toInt ≤ 0 then .timeoutNotPositive t else .timeoutTooLong t] := by
  have hnegative : t ≤ 0 ↔ t.toInt ≤ 0 := Int64.le_iff_toInt_le
  have hlong : maxTimeout < t ↔ 4294967295 < t.toInt := Int64.lt_iff_toInt_lt
  by_cases h : t.toInt ≤ 0
  · rw [if_pos (hnegative.mpr h), if_neg (mt hlong.mp (by omega)), if_neg (by omega), if_pos h]
    rfl
  · rw [if_neg (mt hnegative.mp h), List.nil_append]
    by_cases h' : 4294967295 < t.toInt
    · rw [if_pos (hlong.mpr h'), if_neg (by omega), if_neg h]
    · rw [if_neg (mt hlong.mp h'), if_pos (by omega)]

/-- Settings have a flaw for each setting out of its range, that of the timeout
first. -/
theorem flaws_eq (s : Settings) :
    s.flaws =
      (if 1 ≤ s.timeout.toInt ∧ s.timeout.toInt ≤ 4294967295 then []
        else [if s.timeout.toInt ≤ 0 then .timeoutNotPositive s.timeout
          else .timeoutTooLong s.timeout]) ++
      (if 18 ≤ s.senseBufferSize.toNat ∧ s.senseBufferSize.toNat ≤ 252 then []
        else [.senseBufferSize s.senseBufferSize]) := by
  have hout : s.senseBufferSize < minSenseBufferSize ∨ maxSenseBufferSize < s.senseBufferSize ↔
      ¬(18 ≤ s.senseBufferSize.toNat ∧ s.senseBufferSize.toNat ≤ 252) := by
    have hmin : minSenseBufferSize.toNat = 18 := rfl
    have hmost : maxSenseBufferSize.toNat = 252 := rfl
    rw [UInt64.lt_iff_toNat_lt, UInt64.lt_iff_toNat_lt, hmin, hmost]
    omega
  rw [flaws, timeout_flaws_eq]
  by_cases h : 18 ≤ s.senseBufferSize.toNat ∧ s.senseBufferSize.toNat ≤ 252
  · rw [if_neg (fun hc => hout.mp hc h), if_pos h]
  · rw [if_pos (hout.mpr h), if_neg h]

example : flaws ⟨0x100000000, 17⟩ = [.timeoutTooLong 0x100000000, .senseBufferSize 17] := by
  decide

/-- Sound settings are in their ranges. -/
theorem Sound.bounds {s : Settings} (h : s.Sound) :
    (1 ≤ s.timeout.toInt ∧ s.timeout.toInt ≤ 4294967295) ∧
      18 ≤ s.senseBufferSize.toNat ∧ s.senseBufferSize.toNat ≤ 252 := by
  rw [Sound, flaws_eq, List.append_eq_nil_iff, ite_eq_left_iff, ite_eq_left_iff] at h
  obtain ⟨htimeout, hsize⟩ := h
  exact ⟨Decidable.by_contra fun hout => List.cons_ne_nil _ _ (htimeout hout),
    Decidable.by_contra fun hout => List.cons_ne_nil _ _ (hsize hout)⟩

/-! ## Flaws in words -/

/-- No message of a flaw has a semicolon. -/
theorem Flaw.not_mem_message (f : Flaw) : ';' ∉ f.message.toList := by
  have hnumber : ∀ n, ';' ∉ (decimal n).toList :=
    fun n h => absurd (mem_decimal h) (by decide)
  have hinteger : ∀ i, ';' ∉ (decimalInt i).toList :=
    fun i h => (mem_decimalInt h).elim (absurd · (by decide)) (absurd · (by decide))
  unfold message
  cases f with
  | timeoutNotPositive t =>
      simp only [String.toList_append, List.mem_append, not_or]
      exact ⟨⟨by decide +kernel, hinteger _⟩, by decide +kernel⟩
  | timeoutTooLong t =>
      simp only [String.toList_append, List.mem_append, not_or]
      exact ⟨⟨by decide +kernel, hinteger _⟩, by decide +kernel⟩
  | senseBufferSize n =>
      simp only [String.toList_append, List.mem_append, not_or]
      exact ⟨⟨⟨⟨⟨⟨by decide +kernel, hnumber _⟩, by decide +kernel⟩, hnumber _⟩,
        by decide +kernel⟩, hnumber _⟩, by decide +kernel⟩

theorem Flaw.message_ne_empty (f : Flaw) : f.message ≠ "" := by
  unfold message
  cases f <;> simp [String.append_eq_empty_iff]

/-- The loop goes on with a separator before every message, once something was
said. -/
theorem foldl_addFlaw {said : String} (h : said ≠ "") (fs : List Flaw) :
    fs.foldl addFlaw said = "; ".intercalate (said :: fs.map Flaw.message) := by
  induction fs generalizing said with
  | nil => rw [List.map_nil, String.intercalate_singleton, List.foldl_nil]
  | cons f fs ih =>
      have hsaid : addFlaw said f = said ++ "; " ++ f.message := by
        rw [addFlaw, if_neg (by simpa using h)]
      have hne : addFlaw said f ≠ "" := by
        rw [hsaid]
        simp [String.append_eq_empty_iff]
      rw [List.foldl_cons, ih hne, hsaid, List.map_cons, String.intercalate_cons_cons,
        String.intercalate_cons_append]

/-- The sentence is the messages with a separator between them. -/
theorem joined_eq_intercalate (fs : List Flaw) :
    joined fs = "; ".intercalate (fs.map Flaw.message) := by
  cases fs with
  | nil => rfl
  | cons f fs =>
      have hfirst : addFlaw "" f = f.message := String.empty_append
      rw [joined, List.foldl_cons, hfirst, foldl_addFlaw f.message_ne_empty, List.map_cons]

/-- The sentence of some flaws splits into their messages. -/
theorem split_joined {fs : List Flaw} (h : fs ≠ []) :
    ((joined fs).split "; ").toList.map String.Slice.copy = fs.map Flaw.message := by
  have hhead : "; ".toList.head? = some ';' := rfl
  rw [joined_eq_intercalate]
  apply toList_split_intercalate_of_not_mem hhead
  · rwa [ne_eq, List.map_eq_nil_iff]
  · intro u hu
    obtain ⟨f, -, rfl⟩ := List.mem_map.mp hu
    exact f.not_mem_message

/-! ## Views -/

/-- All views of settings agree.  There is one flaw for each setting out of its
range, the timeout first.  Settings without flaws pass the review, with a notice
or without one, and the check, and make an initiator that has them.  Other
settings fail all three.  The review leaves a notice alone if there are no flaws.
Else the notice reads a sentence that splits into the messages of the flaws, and
the fault, of an invalid argument, tells of the same flaws in the same words. -/
theorem views_agree (s : Settings) :
    s.flaws =
      (if 1 ≤ s.timeout.toInt ∧ s.timeout.toInt ≤ 4294967295 then []
        else [if s.timeout.toInt ≤ 0 then .timeoutNotPositive s.timeout
          else .timeoutTooLong s.timeout]) ++
      (if 18 ≤ s.senseBufferSize.toNat ∧ s.senseBufferSize.toNat ≤ 252 then []
        else [.senseBufferSize s.senseBufferSize]) ∧
    ((s.review none).1 = true ↔ s.flaws = []) ∧
    (∀ notice, (s.review (some notice)).1 = true ↔ s.flaws = []) ∧
    (s.flaws = [] →
      (∀ notice, (s.review (some notice)).2 = some notice) ∧ s.check = .ok () ∧
      ∃ i, Initiator.ofSettings s = .ok i ∧ i.settings = s) ∧
    (s.flaws ≠ [] →
      ∃ (fault : Fault) (sentence : String),
        s.check = .error fault ∧ Initiator.ofSettings s = .error fault ∧
        fault = .unsoundSettings s.flaws ∧ fault.kind = .invalidArgument ∧
        (∀ notice, (s.review (some notice)).2 = some sentence) ∧
        (sentence.split "; ").toList.map String.Slice.copy = s.flaws.map Flaw.message ∧
        fault.message = .ofText ("ScsiConfig validation failed: " ++ sentence)) := by
  refine ⟨s.flaws_eq, List.isEmpty_iff, fun _ => List.isEmpty_iff, ?_, ?_⟩
  · intro h
    have hsound : s.Sound := h
    refine ⟨?_, if_pos hsound, ⟨s, hsound⟩, dif_pos hsound, rfl⟩
    intro notice
    exact if_pos (List.isEmpty_iff.mpr h)
  · intro h
    have hunsound : ¬s.Sound := h
    refine ⟨_, _, if_neg hunsound, dif_neg hunsound, rfl, rfl, ?_, split_joined h, rfl⟩
    intro notice
    exact if_neg (mt List.isEmpty_iff.mp h)

end ScsiInitiator.Settings
