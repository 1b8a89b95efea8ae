import ScsiInitiator.Proofs.Histories

/-!
# What a call depends on

A call that asks, configures or issues a builder looks at that builder and at the
device behind the transport.  It does not look at other builders, nor at the
requests before.  So one builder and one device fix what comes of it: what is put
in the place of the builder, what is sent, and the answer
(`Deed.exists_perform_eq`).  What is put there belongs to the same initiator.

The transport records what is sent after what was there, and keeps its device
(`Transport.Continues`).
-/

namespace ScsiInitiator

/-! ## Transports -/

/-- A transport that was given at most one request since. -/
structure Transport.Continues (t t' : Transport) (sent : Option Request) : Prop where
  /-- The device is the same. -/
  handler : t'.handler = t.handler
  /-- The request is recorded after those before it. -/
  requests : t'.requests = t.requests ++ sent.toList

theorem Transport.continues_self (t : Transport) : t.Continues t none :=
  ⟨rfl, (List.append_nil _).symm⟩

/-- A device fixes what comes of a command, whatever was recorded before. -/
theorem Initiator.exists_issue_eq {α : Type} (i : Initiator) (c : Command α) (h : Handler) :
    ∃ (sent : Option Request) (result : Except Fault α), ∀ t : Transport, t.handler = h →
      t.Continues (i.issue c t).1 sent ∧ (i.issue c t).2 = result := by
  by_cases hrefused : c.Refused
  · obtain ⟨fault, hcause⟩ := hrefused.exists_cause
    refine ⟨none, .error fault, ?_⟩
    intro t _
    rw [i.issue_of_refusedFor t hcause]
    exact ⟨t.continues_self, rfl⟩
  · obtain ⟨block, hblock, -⟩ := Command.exists_block_of_not_refused hrefused
    let area := dataArea c.direction c.buffer c.dataSize.toNat
    let answer := h.respond block area
    refine ⟨some (i.request c.direction block c.buffer c.dataSize),
      c.finish answer.1 (withArea c.buffer (area.map (·.overwrite 0 answer.2))), ?_⟩
    rintro t rfl
    rw [i.issue_of_not_refused t hblock hrefused]
    exact ⟨⟨rfl, rfl⟩, rfl⟩

theorem Builder.exists_issue_eq {δ σ α : Type} [Draft δ σ α] (b : Builder δ) (h : Handler) :
    ∃ (sent : Option Request) (result : Except Fault α), ∀ t : Transport, t.handler = h →
      t.Continues (b.issue t).2.1 sent ∧ (b.issue t).2.2 = result := by
  cases hissued : b.issued with
  | true =>
      refine ⟨none, .error (.alreadyIssued (Draft.operation δ)), ?_⟩
      intro t _
      rw [b.issue_of_issued hissued]
      exact ⟨t.continues_self, rfl⟩
  | false =>
      cases hcommand : Draft.command b.draft with
      | error fault =>
          refine ⟨none, .error fault, ?_⟩
          intro t _
          rw [issue_of_command_error hissued hcommand]
          exact ⟨t.continues_self, rfl⟩
      | ok command =>
          obtain ⟨sent, result, hissue⟩ := b.initiator.exists_issue_eq command h
          refine ⟨sent, result, ?_⟩
          intro t ht
          rw [issue_of_command hissued hcommand]
          exact hissue t ht

/-! ## Calls and steps -/

/-- A setting does not move a builder to another initiator. -/
theorem Builder.initiator_of_configure {δ σ α : Type} [Draft δ σ α] {b b' : Builder δ} {x : σ}
    (h : b.configure x = .ok b') : b'.initiator = b.initiator := by
  cases hcheck : b.checkFresh with
  | error fault =>
      rw [configure, hcheck] at h
      cases h
  | ok u =>
      rw [configure, hcheck] at h
      cases h
      rfl

namespace Deed

/-- The call that does something with the builder under a name. -/
def call {σ : Type} (id : String) : Deed σ → Call σ
  | configure x => .configure id x
  | ask => .ask id
  | issue => .issue id

theorem subject?_call {σ : Type} (d : Deed σ) (id : String) : (d.call id).subject? = some id := by
  cases d <;> rfl

/-- The builder under a name and the device fix what comes of a call: what is put
under the name, what is sent, and the answer. -/
theorem exists_perform_eq {δ σ α : Type} [Draft δ σ α] (d : Deed σ) (id : String)
    (b? : Option (Builder δ)) (h : Handler) :
    ∃ (changed? : Option (Builder δ)) (sent : Option Request)
        (answer : Except Fault (CallAnswer α)),
      (∀ b' ∈ changed?, b?.map Builder.initiator = some b'.initiator) ∧
      ∀ (slots : Slots (Builder δ)) (t : Transport), slots id = b? → t.handler = h →
        ∃ t' : Transport, t.Continues t' sent ∧
          (d.call id).perform slots t = (slots.put id changed?, t', answer) := by
  cases b? with
  | none =>
      refine ⟨none, none, .error (.noSuchBuilder id), by simp, ?_⟩
      intro slots t hid _
      exact ⟨t, t.continues_self, Call.perform_of_missing (d.subject?_call id) hid⟩
  | some b =>
      cases d with
      | configure x =>
          cases hset : b.configure x with
          | error fault =>
              refine ⟨none, none, .error fault, by simp, ?_⟩
              intro slots t hid _
              exact ⟨t, t.continues_self, Call.perform_configure_of_error hid hset⟩
          | ok b' =>
              refine ⟨some b', none, .ok .done, ?_, ?_⟩
              · rintro _ ⟨⟩
                exact congrArg some (Builder.initiator_of_configure hset).symm
              · intro slots t hid _
                exact ⟨t, t.continues_self, Call.perform_configure_of_ok hid hset⟩
      | ask =>
          refine ⟨none, none, .ok (.issued b.issued), by simp, ?_⟩
          intro slots t hid _
          exact ⟨t, t.continues_self, Call.perform_ask_of_eq_some hid⟩
      | issue =>
          obtain ⟨sent, result, hissue⟩ := b.exists_issue_eq h
          refine ⟨some { b with issued := true }, sent, result.map .result, ?_, ?_⟩
          · rintro _ ⟨⟩
            rfl
          · intro slots t hid ht
            obtain ⟨hcontinues, hresult⟩ := hissue t ht
            refine ⟨(b.issue t).2.1, hcontinues, ?_⟩
            rw [call, Call.perform_issue_of_eq_some hid, b.fst_issue, hresult]
            rfl

end Deed

namespace Session

/-- The builder under a name and the device fix what comes of a step. -/
theorem exists_step_stream_eq (d : Deed StreamStatus.Setting) (id : String)
    (b? : Option (Builder StreamStatus.StreamDraft)) (h : Handler) :
    ∃ (changed? : Option (Builder StreamStatus.StreamDraft)) (sent : Option Request)
        (answer : Except Fault Answer),
      (∀ b' ∈ changed?, b?.map Builder.initiator = some b'.initiator) ∧
      ∀ s : Session, s.streams id = b? → s.transport.handler = h →
        ∃ t : Transport, s.transport.Continues t sent ∧
          s.step (.stream (d.call id)) =
            ({ s with streams := s.streams.put id changed?, transport := t }, answer) := by
  obtain ⟨changed?, sent, answer, hinitiator, hperform⟩ := d.exists_perform_eq id b? h
  refine ⟨changed?, sent, answer.map (·.toAnswer .report), hinitiator, ?_⟩
  intro s hid hs
  obtain ⟨t, ht, heq⟩ := hperform s.streams s.transport hid hs
  exact ⟨t, ht, step_stream heq⟩

theorem exists_step_unit_eq (d : Deed UnitReady.Setting) (id : String)
    (b? : Option (Builder UnitReady.UnitDraft)) (h : Handler) :
    ∃ (changed? : Option (Builder UnitReady.UnitDraft)) (sent : Option Request)
        (answer : Except Fault Answer),
      (∀ b' ∈ changed?, b?.map Builder.initiator = some b'.initiator) ∧
      ∀ s : Session, s.units id = b? → s.transport.handler = h →
        ∃ t : Transport, s.transport.Continues t sent ∧
          s.step (.unit (d.call id)) =
            ({ s with units := s.units.put id changed?, transport := t }, answer) := by
  obtain ⟨changed?, sent, answer, hinitiator, hperform⟩ := d.exists_perform_eq id b? h
  refine ⟨changed?, sent, answer.map (·.toAnswer fun _ => .done), hinitiator, ?_⟩
  intro s hid hs
  obtain ⟨t, ht, heq⟩ := hperform s.units s.transport hid hs
  exact ⟨t, ht, step_unit heq⟩

end Session

end ScsiInitiator
