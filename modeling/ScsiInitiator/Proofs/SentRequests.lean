import ScsiInitiator.Proofs.Endings
import ScsiInitiator.Proofs.Flaws
import ScsiInitiator.Proofs.Histories

/-!
# The requests of a session

A command is *sent* if it reaches the transport.  Which commands a session sends
can be told from its steps: a builder sends one command, when it is issued first
and if it does not ask for too many descriptors, and a plain transfer is sent if
it is not refused (`Histories.sending?`).

Every sending has a request that is fixed by the initiator and the settings of
the builder, or by the transfer (`Sending.request`).  The transport records these
requests, one after another, and nothing else (`requests_are_sendings`).
-/

namespace ScsiInitiator

/-! ## Sendings -/

/-- A command that reaches the transport. -/
inductive Sending
  /-- A builder of GET STREAM STATUS is issued with this history. -/
  | stream (h : History StreamStatus.Setting)
  /-- A builder of TEST UNIT READY is issued with this history. -/
  | unit (h : History UnitReady.Setting)
  /-- An initiator issues a plain transfer. -/
  | transfer (on : Initiator) (command : Command Transfer)

namespace Sending

/-- The initiator that sends. -/
def initiator : Sending → Initiator
  | stream h => h.initiator
  | unit h => h.initiator
  | transfer on _ => on

/-- The request of a sending.  Settings that were never given are zero. -/
def request : Sending → Request
  | stream h =>
      { direction := .fromDevice
        commandBlock := StreamStatus.blockBytes
          (latest StreamStatus.Setting.startingStream? 0 h.settings)
          (UInt32.ofNat (8 + 8 * StreamStatus.room h.settings))
          (latest StreamStatus.Setting.control? 0 h.settings)
        dataLength := UInt32.ofNat (8 + 8 * StreamStatus.room h.settings)
        hasDataArea := true
        timeout := h.initiator.settings.timeout
        senseBufferSize := h.initiator.settings.senseBufferSize }
  | unit h =>
      { direction := .none
        commandBlock := [0, 0, 0, 0, 0, latest UnitReady.Setting.control? 0 h.settings]
        dataLength := 0
        hasDataArea := false
        timeout := h.initiator.settings.timeout
        senseBufferSize := h.initiator.settings.senseBufferSize }
  | transfer on c =>
      { direction := c.direction
        commandBlock := c.commandBlock.getD []
        dataLength := if c.direction = .none then 0 else c.dataSize
        hasDataArea := decide (c.direction ≠ .none ∧ c.buffer ≠ none)
        timeout := on.settings.timeout
        senseBufferSize := on.settings.senseBufferSize }

end Sending

namespace Histories

/-- What a step sends, if it sends anything. -/
def sending? (hs : Histories) : Step → Option Sending
  | .stream c =>
      ((c.first? hs.streams).filter fun h => StreamStatus.room h.settings ≤ 536870910).map .stream
  | .unit c => (c.first? hs.units).map .unit
  | .issue on command => if command.Refused then none else some (.transfer on command)
  | _ => none

/-- What steps send, first sending first. -/
def sendings (hs : Histories) : List Step → List Sending
  | [] => []
  | x :: xs => (hs.sending? x).toList ++ sendings (hs.note x) xs

end Histories

/-! ## What is recorded -/

/-- There is a data area exactly if data moves and the buffer has memory. -/
theorem isSome_dataArea (direction : Direction) (buffer : Option Bytes) (size : Nat) :
    (dataArea direction buffer size).isSome = decide (direction ≠ .none ∧ buffer ≠ none) := by
  by_cases hd : direction = .none
  · subst hd
    rfl
  · rw [dataArea_of_ne buffer size hd]
    cases buffer <;> simp [hd]

/-- A builder of GET STREAM STATUS records its request when it is issued first. -/
theorem History.requests_issue_stream {h : History StreamStatus.Setting} (hfresh : h.issued = false)
    (hroom : StreamStatus.room h.settings ≤ 536870910) (t : Transport) :
    ((h.builder StreamStatus.StreamDraft).issue t).2.1.requests =
      t.requests ++ [(Sending.stream h).request] := by
  have hcount : (h.builder StreamStatus.StreamDraft).draft.descriptorLength.toNat ≤ 536870910 := by
    rw [builder, StreamStatus.StreamDraft.descriptorLength_ofSettings]
    exact hroom
  obtain ⟨report, -, hissue⟩ := StreamStatus.exists_report_of_respond
    (b := h.builder StreamStatus.StreamDraft) hfresh hcount (t := t) rfl
  rw [hissue, Transport.requests_execute, builder,
    StreamStatus.StreamDraft.request_ofSettings, Sending.request]

theorem History.requests_issue_unit {h : History UnitReady.Setting} (hfresh : h.issued = false)
    (t : Transport) :
    ((h.builder UnitReady.UnitDraft).issue t).2.1.requests =
      t.requests ++ [(Sending.unit h).request] := by
  rw [UnitReady.issue_of_fresh (b := h.builder UnitReady.UnitDraft) hfresh,
    Transport.requests_execute, builder, UnitReady.UnitDraft.request_ofSettings, Sending.request]

/-- Too many descriptors leave the transport alone. -/
theorem History.transport_issue_of_above {h : History StreamStatus.Setting}
    (hfresh : h.issued = false) (hroom : 536870910 < StreamStatus.room h.settings)
    (t : Transport) : ((h.builder StreamStatus.StreamDraft).issue t).2.1 = t := by
  have hcount : 536870910 < (h.builder StreamStatus.StreamDraft).draft.descriptorLength.toNat := by
    rw [builder, StreamStatus.StreamDraft.descriptorLength_ofSettings]
    exact hroom
  rw [StreamStatus.issue_of_above (b := h.builder StreamStatus.StreamDraft) hfresh hcount]

theorem Initiator.requests_issue_transfer (on : Initiator) {c : Command Transfer}
    (h : ¬c.Refused) (t : Transport) :
    (on.issue c t).1.requests = t.requests ++ [(Sending.transfer on c).request] := by
  obtain ⟨block, hblock, -⟩ := Command.exists_block_of_not_refused h
  rw [on.issue_of_not_refused t hblock h, Transport.requests_execute, request, isSome_dataArea,
    Sending.request, hblock]
  rfl

namespace Histories

/-- A step records the request of what it sends, and nothing else. -/
theorem requests_step (hs : Histories) (t : Transport) (x : Step) :
    ((hs.session t).step x).1.transport.requests =
      t.requests ++ ((hs.sending? x).map Sending.request).toList := by
  cases x with
  | install handler => exact (List.append_nil _).symm
  | settings on => exact (List.append_nil _).symm
  | latestRequest => exact (List.append_nil _).symm
  | requests => exact (List.append_nil _).symm
  | seen => exact (List.append_nil _).symm
  | stream c =>
      obtain ⟨answer, hperform⟩ := c.exists_perform_eq StreamStatus.StreamDraft hs.streams t
      rw [Session.step_stream (s := hs.session t) hperform, sending?]
      cases hfirst : c.first? hs.streams with
      | none => exact (List.append_nil _).symm
      | some h =>
          have hfresh := Call.issued_of_first? hfirst
          rw [Option.filter_some]
          by_cases hroom : StreamStatus.room h.settings ≤ 536870910
          · rw [if_pos (decide_eq_true hroom)]
            exact History.requests_issue_stream hfresh hroom t
          · rw [if_neg (by simp [hroom]), Option.elim_some,
              History.transport_issue_of_above hfresh (Nat.not_le.mp hroom)]
            exact (List.append_nil _).symm
  | unit c =>
      obtain ⟨answer, hperform⟩ := c.exists_perform_eq UnitReady.UnitDraft hs.units t
      rw [Session.step_unit (s := hs.session t) hperform, sending?]
      cases hfirst : c.first? hs.units with
      | none => exact (List.append_nil _).symm
      | some h => exact History.requests_issue_unit (Call.issued_of_first? hfirst) t
  | issue on command =>
      show (on.issue command t).1.requests = _
      by_cases h : command.Refused
      · obtain ⟨fault, hcause⟩ := h.exists_cause
        rw [on.issue_of_refusedFor t hcause, sending?, if_pos h]
        exact (List.append_nil _).symm
      · rw [on.requests_issue_transfer h, sending?, if_neg h]
        rfl

/-- The requests of a run are those of its sendings. -/
theorem requests_run (hs : Histories) (t : Transport) (xs : List Step) :
    ((hs.session t).run xs).1.transport.requests =
      t.requests ++ (hs.sendings xs).map Sending.request := by
  induction xs generalizing hs t with
  | nil => exact (List.append_nil _).symm
  | cons x xs ih =>
      have hrest := ih (hs.note x) ((hs.session t).step x).1.transport
      rw [← hs.step_session t x, hs.requests_step t x] at hrest
      rw [sendings, List.map_append, ← List.append_assoc, ← Option.toList_map]
      exact hrest

end Histories

/-! ## Well-formed requests -/

/-- A request that a device can make sense of. -/
structure Request.WellFormed (r : Request) : Prop where
  /-- There is a command block. -/
  commandBlock : r.commandBlock ≠ []
  /-- The timeout is positive and fits in 32 bits. -/
  timeout : 1 ≤ r.timeout.toInt ∧ r.timeout.toInt ≤ 4294967295
  /-- The sense buffer has an admissible length. -/
  senseBufferSize : 18 ≤ r.senseBufferSize.toNat ∧ r.senseBufferSize.toNat ≤ 252
  /-- A command without data has no data area. -/
  noData : r.direction = .none → r.hasDataArea = false ∧ r.dataLength = 0

namespace Sending

/-- A sending is not refused anywhere on its way. -/
def Admissible : Sending → Prop
  | stream h => StreamStatus.room h.settings ≤ 536870910
  | unit _ => True
  | transfer _ c => ¬c.Refused

theorem timeout_request (q : Sending) : q.request.timeout = q.initiator.settings.timeout := by
  cases q <;> rfl

theorem senseBufferSize_request (q : Sending) :
    q.request.senseBufferSize = q.initiator.settings.senseBufferSize := by
  cases q <;> rfl

theorem Admissible.commandBlock_ne_nil {q : Sending} (h : q.Admissible) :
    q.request.commandBlock ≠ [] := by
  cases q with
  | stream h => exact List.cons_ne_nil _ _
  | unit h => exact List.cons_ne_nil _ _
  | transfer on c =>
      obtain ⟨block, hblock, hne, -⟩ := Command.exists_block_of_not_refused h
      rw [request, hblock]
      exact hne

theorem noData_request {q : Sending} (h : q.request.direction = .none) :
    q.request.hasDataArea = false ∧ q.request.dataLength = 0 := by
  cases q with
  | stream _ => cases h
  | unit _ => exact ⟨rfl, rfl⟩
  | transfer on c =>
      have hd : c.direction = .none := h
      rw [request, hd]
      exact ⟨rfl, rfl⟩

theorem Admissible.wellFormed {q : Sending} (h : q.Admissible) : q.request.WellFormed := by
  obtain ⟨htimeout, hsense⟩ := q.initiator.sound.bounds
  rw [← timeout_request] at htimeout
  rw [← senseBufferSize_request] at hsense
  exact ⟨h.commandBlock_ne_nil, htimeout, hsense, noData_request⟩

end Sending

namespace Histories

theorem admissible_of_sending? {hs : Histories} {x : Step} {q : Sending}
    (h : hs.sending? x = some q) : q.Admissible := by
  cases x with
  | install handler => cases h
  | settings on => cases h
  | latestRequest => cases h
  | requests => cases h
  | seen => cases h
  | stream c =>
      obtain ⟨first, hfirst, rfl⟩ := Option.map_eq_some_iff.mp h
      obtain ⟨-, hroom⟩ := Option.filter_eq_some_iff.mp hfirst
      have hle := of_decide_eq_true hroom
      exact hle
  | unit c =>
      obtain ⟨first, -, rfl⟩ := Option.map_eq_some_iff.mp h
      trivial
  | issue on command =>
      by_cases hrefused : command.Refused
      · rw [sending?, if_pos hrefused] at h
        cases h
      · rw [sending?, if_neg hrefused] at h
        cases h
        exact hrefused

theorem admissible_of_mem_sendings {hs : Histories} {xs : List Step} {q : Sending}
    (h : q ∈ hs.sendings xs) : q.Admissible := by
  induction xs generalizing hs with
  | nil => cases h
  | cons x xs ih =>
      rcases List.mem_append.mp h with hfirst | hrest
      · exact admissible_of_sending? (Option.mem_toList.mp hfirst)
      · exact ih hrest

end Histories

/-- Each step of a session records at most one request, after those before it.
The requests of a run are those of its sendings, every request is well-formed,
and it has the settings of the initiator that sends it.  A reply about streams
has room for all descriptors that were asked for. -/
theorem requests_are_sendings (handler : Handler) (xs : List Step) :
    let s := ((Session.start handler).run xs).1
    (∀ x : Step,
      ((Histories.of xs).sending? x = none ∧
        (s.step x).1.transport.requests = s.transport.requests) ∨
      ∃ q : Sending, (Histories.of xs).sending? x = some q ∧
        (s.step x).1.transport.requests = s.transport.requests ++ [q.request]) ∧
    s.transport.requests = (Histories.sendings {} xs).map Sending.request ∧
    ∀ q ∈ Histories.sendings {} xs,
      q.request.WellFormed ∧
      q.request.timeout = q.initiator.settings.timeout ∧
      q.request.senseBufferSize = q.initiator.settings.senseBufferSize ∧
      ∀ h : History StreamStatus.Setting, q = .stream h →
        q.request.dataLength.toNat = 8 + 8 * StreamStatus.room h.settings := by
  intro s
  refine ⟨?_, ?_, ?_⟩
  · intro x
    have hs : s = (Histories.of xs).session s.transport := Session.run_start handler xs
    have hstep := (Histories.of xs).requests_step s.transport x
    rw [← hs] at hstep
    cases hsends : (Histories.of xs).sending? x with
    | none =>
        rw [hsends, Option.map_none, Option.toList_none, List.append_nil] at hstep
        exact .inl ⟨rfl, hstep⟩
    | some q =>
        rw [hsends, Option.map_some, Option.toList_some] at hstep
        exact .inr ⟨q, rfl, hstep⟩
  · exact Histories.requests_run {} { handler } xs
  · intro q hq
    have hadmissible := Histories.admissible_of_mem_sendings hq
    refine ⟨hadmissible.wellFormed, q.timeout_request, q.senseBufferSize_request, ?_⟩
    rintro h rfl
    have hroom : StreamStatus.room h.settings ≤ 536870910 := hadmissible
    rw [Sending.request, UInt32.toNat_ofNat']
    omega

/-- A copy sends the settings of the builder it is taken from, and its own. -/
theorem requests_are_sendings_of_copy :
    let xs : List Step := [.stream (.blank .default "a"),
      .stream (.configure "a" (.startingStream 0x0102)), .stream (.copy "a" "b"),
      .stream (.configure "b" (.descriptorLength 1)), .stream (.issue "b")]
    ∃ r : Request, ((Session.start .silent).run xs).1.transport.requests = [r] ∧
      r.commandBlock = [0x9E, 0x16, 0, 0, 1, 2, 0, 0, 0, 0, 0, 0, 0, 16, 0, 0] ∧
      r.dataLength.toNat = 16 ∧ r.WellFormed := by
  intro xs
  have hsendings : Histories.sendings {} xs = [.stream
      { initiator := .default
        deeds := [.configure (.startingStream 0x0102), .configure (.descriptorLength 1)] }] := rfl
  obtain ⟨-, hrequests, hall⟩ := requests_are_sendings .silent xs
  rw [hsendings] at hrequests hall
  obtain ⟨hwell, -, -, hlength⟩ := hall _ (.head _)
  exact ⟨_, hrequests, rfl, hlength _ rfl, hwell⟩

end ScsiInitiator
