import ScsiInitiator.Proofs.SentRequests

/-!
# Builders are issued once

A builder is spent by its first issue, whatever comes of it, and after that it
refuses settings and issues and nothing changes (`Session.SingleShot`).  The first
issue sends one request, unless it asks for too many descriptors.

A step changes no builder but the one it puts under a name or does something
with.  So a copy is what the builder it was taken from was then, whatever is done
with other builders (`Call.foldl_note_copy`).
-/

namespace ScsiInitiator

/-! ## Other builders -/

/-- The name of the builder that a call may change. -/
def Call.target? {σ : Type} : Call σ → Option String
  | blank _ id => some id
  | copy _ target => some target
  | configure id _ => some id
  | ask id => some id
  | issue id => some id
  | run _ _ => none

/-- A call adds to no history but that of its target. -/
theorem Call.note_of_ne {σ : Type} {hs : Slots (History σ)} {c : Call σ} {k : String}
    (h : c.target? ≠ some k) : c.note hs k = hs k := by
  have hne : ∀ {id : String}, c.target? = some id → k ≠ id := by
    rintro id hid rfl
    exact h hid
  cases c with
  | blank on id => exact hs.insert_of_ne (hne rfl) _
  | copy id target => exact hs.put_of_ne (hne rfl) _
  | configure id x => exact hs.put_of_ne (hne rfl) _
  | ask id => exact hs.put_of_ne (hne rfl) _
  | issue id => exact hs.put_of_ne (hne rfl) _
  | run on settings => rfl

/-- A copy has the history of the builder it is taken from, and keeps it while
nothing is done with the copy. -/
theorem Call.foldl_note_copy {σ : Type} {hs : Slots (History σ)} {id target : String}
    {h : History σ} (hid : hs id = some h) {later : List (Call σ)}
    (hlater : ∀ c ∈ later, c.target? ≠ some target) :
    later.foldl note ((copy id target).note hs) target = some h := by
  induction later using List.reverseRecOn with
  | nil =>
      show hs.put target (hs id) target = some h
      rw [hid]
      exact hs.insert_self target h
  | append_singleton later c ih =>
      have hlast := hlater c (List.mem_append_right _ (.head _))
      have hrest := ih fun c' hc' => hlater c' (List.mem_append_left _ hc')
      rw [List.foldl_append]
      exact (note_of_ne hlast).trans hrest

/-- The call of a builder of GET STREAM STATUS in a step. -/
def Step.streamCall? : Step → Option (Call StreamStatus.Setting)
  | .stream c => some c
  | _ => none

/-- The call of a builder of TEST UNIT READY in a step. -/
def Step.unitCall? : Step → Option (Call UnitReady.Setting)
  | .unit c => some c
  | _ => none

namespace Histories

/-- The builders of a kind have the histories of the calls of that kind. -/
theorem streams_foldl (hs : Histories) (xs : List Step) :
    (xs.foldl note hs).streams = (xs.filterMap Step.streamCall?).foldl Call.note hs.streams := by
  induction xs generalizing hs with
  | nil => rfl
  | cons x xs ih =>
      rw [List.foldl_cons, ih]
      cases x <;> rfl

theorem units_foldl (hs : Histories) (xs : List Step) :
    (xs.foldl note hs).units = (xs.filterMap Step.unitCall?).foldl Call.note hs.units := by
  induction xs generalizing hs with
  | nil => rfl
  | cons x xs ih =>
      rw [List.foldl_cons, ih]
      cases x <;> rfl

theorem streams_of_copy {xs ys : List Step} {id target : String}
    {h : History StreamStatus.Setting} (hid : (of xs).streams id = some h)
    (hys : ∀ c, Step.stream c ∈ ys → c.target? ≠ some target) :
    (of (xs ++ .stream (.copy id target) :: ys)).streams target = some h := by
  rw [of, List.foldl_append, List.foldl_cons, streams_foldl]
  apply Call.foldl_note_copy hid
  intro c hc
  obtain ⟨y, hy, hcall⟩ := List.mem_filterMap.mp hc
  cases y with
  | stream c' =>
      cases hcall
      exact hys c hy
  | _ => cases hcall

theorem units_of_copy {xs ys : List Step} {id target : String}
    {h : History UnitReady.Setting} (hid : (of xs).units id = some h)
    (hys : ∀ c, Step.unit c ∈ ys → c.target? ≠ some target) :
    (of (xs ++ .unit (.copy id target) :: ys)).units target = some h := by
  rw [of, List.foldl_append, List.foldl_cons, units_foldl]
  apply Call.foldl_note_copy hid
  intro c hc
  obtain ⟨y, hy, hcall⟩ := List.mem_filterMap.mp hc
  cases y with
  | unit c' =>
      cases hcall
      exact hys c hy
  | _ => cases hcall

end Histories

/-! ## Steps of builders -/

theorem CallAnswer.map_result {α : Type} (f : α → Answer) (result : Except Fault α) :
    (result.map CallAnswer.result).map (·.toAnswer f) = result.map f := by
  cases result with
  | error fault => rfl
  | ok a => rfl

namespace Session

/-- What a session does with a builder it has under a name, told by the history
of the builder. -/
structure SingleShot {σ : Type} (s : Session) (call : Call σ → Step) (operation : Operation)
    (id : String) (h : History σ) : Prop where
  /-- The builder says if there was an issue. -/
  ask : ∃ issued : Bool, (issued = true ↔ Deed.issue ∈ h.deeds) ∧
    s.step (call (.ask id)) = (s, .ok (.issued issued))
  /-- Settings are accepted before the first issue. -/
  configure_of_fresh : Deed.issue ∉ h.deeds →
    ∀ x : σ, (s.step (call (.configure id x))).2 = .ok .done
  /-- After an issue settings are refused and change nothing. -/
  configure_of_issued : Deed.issue ∈ h.deeds →
    ∀ x : σ, s.step (call (.configure id x)) = (s, .error (.alreadyIssued operation))
  /-- After an issue another one is refused and changes nothing. -/
  issue_of_issued : Deed.issue ∈ h.deeds →
    s.step (call (.issue id)) = (s, .error (.alreadyIssued operation))
  /-- Both refusals are logic errors. -/
  kind_of_issued : (Fault.alreadyIssued operation).kind = .logicError

end Session

/-- A step that does what a call of a builder does keeps to the history of the
builder.  The first hypothesis is about calls that change no builder, the second
about answers. -/
theorem Session.singleShot_of_call {δ σ α : Type} [Draft δ σ α] {s : Session}
    {call : Call σ → Step} {result : α → Answer} {hs : Slots (History σ)} {id : String}
    {h : History σ} (hid : hs id = some h)
    (hsame : ∀ (c : Call σ) (answer : Except Fault (CallAnswer α)),
      c.perform (hs.map (History.builder δ)) s.transport =
        (hs.map (History.builder δ), s.transport, answer) →
      s.step (call c) = (s, answer.map (·.toAnswer result)))
    (hanswer : ∀ c : Call σ, (s.step (call c)).2 =
      (c.perform (hs.map (History.builder δ)) s.transport).2.2.map (·.toAnswer result)) :
    s.SingleShot call (Draft.operation δ) id h where
  ask := ⟨h.issued, History.issued_iff, hsame _ _ (Call.perform_ask hid)⟩
  configure_of_fresh hnone x := by
    have hfresh := History.issued_eq_false_iff.mpr hnone
    rw [hanswer, Call.perform_configure_of_fresh hid hfresh]
    rfl
  configure_of_issued hissue x :=
    hsame _ _ (Call.perform_configure_of_issued hid (History.issued_iff.mpr hissue) x)
  issue_of_issued hissue :=
    hsame _ _ (Call.perform_issue_of_issued hid (History.issued_iff.mpr hissue))
  kind_of_issued := rfl

namespace Histories

variable {hs : Histories} {id : String}

theorem singleShot_stream {h : History StreamStatus.Setting} (hid : hs.streams id = some h)
    (t : Transport) : (hs.session t).SingleShot .stream .getStreamStatus id h := by
  apply Session.singleShot_of_call (δ := StreamStatus.StreamDraft) hid
  · intro c answer hc
    exact Session.step_stream (s := hs.session t) hc
  · intro c
    rfl

theorem singleShot_unit {h : History UnitReady.Setting} (hid : hs.units id = some h)
    (t : Transport) : (hs.session t).SingleShot .unit .testUnitReady id h := by
  apply Session.singleShot_of_call (δ := UnitReady.UnitDraft) hid
  · intro c answer hc
    exact Session.step_unit (s := hs.session t) hc
  · intro c
    rfl

/-! ## First issues -/

/-- The first issue of a builder of GET STREAM STATUS spends it.  It sends one
request and its result is settled by the outcome, unless it asks for too many
descriptors. -/
theorem first_issue_stream {h : History StreamStatus.Setting} (hid : hs.streams id = some h)
    (hnone : Deed.issue ∉ h.deeds) (t : Transport) :
    ∃ (t' : Transport) (answer : Except Fault Answer),
      (hs.session t).step (.stream (.issue id)) =
        ({ hs.session t with
            streams := (hs.session t).streams.insert id
              { h.builder StreamStatus.StreamDraft with issued := true }
            transport := t' }, answer) ∧
      (StreamStatus.room h.settings ≤ 536870910 →
        (∃ q : Request, t'.requests = t.requests ++ [q]) ∧
        ∃ (o : Outcome) (report : StreamStatus.Report), answer = (o.settle report).map .report) ∧
      (536870910 < StreamStatus.room h.settings →
        t' = t ∧ ∃ fault : Fault, answer = .error fault ∧ fault.kind = .argumentOutOfBounds ∧
          fault = .outOfBounds (.ofText "descriptor length") 536870910
            (latest StreamStatus.Setting.descriptorLength? 0 h.settings).toUInt64) := by
  have hfresh := History.issued_eq_false_iff.mpr hnone
  have hperform := Call.perform_issue (δ := StreamStatus.StreamDraft) (t := t) hid
  have hcount : (h.builder StreamStatus.StreamDraft).draft.descriptorLength =
      latest StreamStatus.Setting.descriptorLength? 0 h.settings :=
    StreamStatus.StreamDraft.descriptorLength_ofSettings h.settings
  rw [Slots.map_insert, History.builder_add_issue] at hperform
  refine ⟨_, _, Session.step_stream (s := hs.session t) hperform, ?_, ?_⟩
  · intro hroom
    refine ⟨⟨_, History.requests_issue_stream hfresh hroom t⟩, ?_⟩
    obtain ⟨report, -, hissue⟩ := StreamStatus.exists_report_of_respond
      (b := h.builder StreamStatus.StreamDraft) hfresh (by rw [hcount]; exact hroom) (t := t) rfl
    rw [hissue, CallAnswer.map_result]
    exact ⟨_, report, rfl⟩
  · intro hroom
    rw [StreamStatus.issue_of_above (b := h.builder StreamStatus.StreamDraft) hfresh
      (by rw [hcount]; exact hroom), hcount]
    exact ⟨rfl, _, rfl, rfl, rfl⟩

/-- The first issue of a builder of TEST UNIT READY spends it and sends one
request, and its result is settled by the outcome. -/
theorem first_issue_unit {h : History UnitReady.Setting} (hid : hs.units id = some h)
    (hnone : Deed.issue ∉ h.deeds) (t : Transport) :
    ∃ (t' : Transport) (answer : Except Fault Answer),
      (hs.session t).step (.unit (.issue id)) =
        ({ hs.session t with
            units := (hs.session t).units.insert id
              { h.builder UnitReady.UnitDraft with issued := true }
            transport := t' }, answer) ∧
      (∃ q : Request, t'.requests = t.requests ++ [q]) ∧
      ∃ o : Outcome, answer = o.settle .done := by
  have hfresh := History.issued_eq_false_iff.mpr hnone
  have hperform := Call.perform_issue (δ := UnitReady.UnitDraft) (t := t) hid
  rw [Slots.map_insert, History.builder_add_issue] at hperform
  refine ⟨_, _, Session.step_unit (s := hs.session t) hperform,
    ⟨_, History.requests_issue_unit hfresh t⟩, ?_⟩
  rw [UnitReady.issue_of_fresh (b := h.builder UnitReady.UnitDraft) hfresh,
    CallAnswer.map_result]
  exact ⟨_, Outcome.check_map _ _⟩

end Histories

/-! ## Runs -/

namespace Session

variable {handler : Handler} {xs : List Step} {id : String}

theorem streams_run_start {h : History StreamStatus.Setting}
    (hid : (Histories.of xs).streams id = some h) :
    ((start handler).run xs).1.streams id = some (h.builder StreamStatus.StreamDraft) := by
  rw [run_start]
  exact Slots.map_apply_of_eq_some _ hid

theorem units_run_start {h : History UnitReady.Setting}
    (hid : (Histories.of xs).units id = some h) :
    ((start handler).run xs).1.units id = some (h.builder UnitReady.UnitDraft) := by
  rw [run_start]
  exact Slots.map_apply_of_eq_some _ hid

theorem singleShot_stream_run_start {h : History StreamStatus.Setting}
    (hid : (Histories.of xs).streams id = some h) :
    ((start handler).run xs).1.SingleShot .stream .getStreamStatus id h := by
  rw [run_start]
  exact Histories.singleShot_stream hid _

theorem singleShot_unit_run_start {h : History UnitReady.Setting}
    (hid : (Histories.of xs).units id = some h) :
    ((start handler).run xs).1.SingleShot .unit .testUnitReady id h := by
  rw [run_start]
  exact Histories.singleShot_unit hid _

end Session

/-- In every run each builder is spent by its first issue, whatever comes of it.
That issue changes no other builder, and it sends one request unless it asks for
too many descriptors.  After it the builder refuses settings and issues and
nothing changes.  A copy is as spent as the builder it is taken from was then,
whatever is done with other builders.  So there are as many requests as there
are first issues and plain transfers that are sent. -/
theorem builders_issue_once (handler : Handler) (xs : List Step) :
    let s := ((Session.start handler).run xs).1
    let hs := Histories.of xs
    (∀ id, (s.streams id).isSome = (hs.streams id).isSome ∧
      (s.units id).isSome = (hs.units id).isSome) ∧
    (∀ id h, hs.streams id = some h →
      s.SingleShot .stream .getStreamStatus id h ∧
      (Deed.issue ∉ h.deeds →
        ∃ (t' : Transport) (answer : Except Fault Answer),
          s.step (.stream (.issue id)) =
            ({ s with
                streams := s.streams.insert id
                  { h.builder StreamStatus.StreamDraft with issued := true }
                transport := t' }, answer) ∧
          (StreamStatus.room h.settings ≤ 536870910 →
            (∃ q : Request, t'.requests = s.transport.requests ++ [q]) ∧
            ∃ (o : Outcome) (report : StreamStatus.Report),
              answer = (o.settle report).map .report) ∧
          (536870910 < StreamStatus.room h.settings →
            t' = s.transport ∧
            ∃ fault : Fault, answer = .error fault ∧ fault.kind = .argumentOutOfBounds ∧
              fault = .outOfBounds (.ofText "descriptor length") 536870910
                (latest StreamStatus.Setting.descriptorLength? 0 h.settings).toUInt64))) ∧
    (∀ id h, hs.units id = some h →
      s.SingleShot .unit .testUnitReady id h ∧
      (Deed.issue ∉ h.deeds →
        ∃ (t' : Transport) (answer : Except Fault Answer),
          s.step (.unit (.issue id)) =
            ({ s with
                units := s.units.insert id { h.builder UnitReady.UnitDraft with issued := true }
                transport := t' }, answer) ∧
          (∃ q : Request, t'.requests = s.transport.requests ++ [q]) ∧
          ∃ o : Outcome, answer = o.settle .done)) ∧
    (∀ id h target ys, hs.streams id = some h → (∀ c, Step.stream c ∈ ys → c.target? ≠ some target) →
      let s' := ((Session.start handler).run (xs ++ .stream (.copy id target) :: ys)).1
      s'.streams target = s.streams id ∧ s'.SingleShot .stream .getStreamStatus target h) ∧
    (∀ id h target ys, hs.units id = some h → (∀ c, Step.unit c ∈ ys → c.target? ≠ some target) →
      let s' := ((Session.start handler).run (xs ++ .unit (.copy id target) :: ys)).1
      s'.units target = s.units id ∧ s'.SingleShot .unit .testUnitReady target h) ∧
    s.transport.requestCount = (Histories.sendings {} xs).length := by
  intro s hs
  have hsession : s = hs.session s.transport := Session.run_start handler xs
  refine ⟨?_, ?_, ?_, ?_, ?_, ?_⟩
  · intro id
    rw [hsession]
    exact ⟨Option.isSome_map, Option.isSome_map⟩
  · intro id h hid
    refine ⟨Session.singleShot_stream_run_start hid, ?_⟩
    intro hnone
    have hfirst := Histories.first_issue_stream hid hnone s.transport
    rw [← hsession] at hfirst
    exact hfirst
  · intro id h hid
    refine ⟨Session.singleShot_unit_run_start hid, ?_⟩
    intro hnone
    have hfirst := Histories.first_issue_unit hid hnone s.transport
    rw [← hsession] at hfirst
    exact hfirst
  · intro id h target ys hid hys
    have hcopy := Histories.streams_of_copy hid hys
    refine ⟨?_, Session.singleShot_stream_run_start hcopy⟩
    exact (Session.streams_run_start hcopy).trans (Session.streams_run_start hid).symm
  · intro id h target ys hid hys
    have hcopy := Histories.units_of_copy hid hys
    refine ⟨?_, Session.singleShot_unit_run_start hcopy⟩
    exact (Session.units_run_start hcopy).trans (Session.units_run_start hid).symm
  · have hrequests := Histories.requests_run {} { handler } xs
    rw [List.nil_append] at hrequests
    have hcount := congrArg List.length hrequests
    rw [List.length_map] at hcount
    exact hcount

/-- A builder that was issued is refused, and its copy from before is not. -/
theorem builders_issue_once_copy :
    let s := ((Session.start .silent).run [.unit (.blank .default "a"), .unit (.copy "a" "b"),
      .unit (.issue "a")]).1
    s.step (.unit (.issue "a")) = (s, .error (.alreadyIssued .testUnitReady)) ∧
    (∃ q : Request, (s.step (.unit (.issue "b"))).1.transport.requests =
      s.transport.requests ++ [q]) ∧
    s.transport.requestCount = 1 := by
  intro s
  obtain ⟨-, -, hunits, -, -, hcount⟩ := builders_issue_once .silent
    [.unit (.blank .default "a"), .unit (.copy "a" "b"), .unit (.issue "a")]
  obtain ⟨hspent, -⟩ := hunits "a" { initiator := .default, deeds := [.issue] } rfl
  obtain ⟨-, hfresh⟩ := hunits "b" { initiator := .default } rfl
  obtain ⟨t', answer, hstep, ⟨q, hq⟩, -⟩ := hfresh List.not_mem_nil
  refine ⟨hspent.issue_of_issued (.head _), ⟨q, ?_⟩, hcount⟩
  rw [hstep]
  exact hq

end ScsiInitiator
