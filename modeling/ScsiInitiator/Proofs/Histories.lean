import ScsiInitiator.Proofs.Drafts
import ScsiInitiator.Session

/-!
# The histories of builders

The *history* of a builder is the initiator it belongs to and what was done with
it, first thing first.  A copy starts with the history of the builder it is taken
from.  Histories are noted from the steps of a session alone, without a look at
what comes of them (`Histories.of`).

All a builder holds can be told from its history: its settings are those before
the first issue, and it is spent if there is an issue at all.  Each call keeps to
this (`Call.exists_perform_eq`), and so do a step (`Histories.step_session`) and a
run (`Session.run_start`).
-/

namespace ScsiInitiator

/-! ## What is done with a builder -/

/-- One thing done with a builder. -/
inductive Deed (σ : Type)
  /-- A setting was given to it. -/
  | configure (setting : σ)
  /-- It was asked if it was issued. -/
  | ask
  /-- It was issued. -/
  | issue
deriving DecidableEq, Repr

namespace Deed

variable {σ : Type}

/-- The deed is an issue. -/
def isIssue : Deed σ → Bool
  | issue => true
  | _ => false

/-- The settings before the first issue. -/
def settings : List (Deed σ) → List σ
  | [] => []
  | configure x :: deeds => x :: settings deeds
  | ask :: deeds => settings deeds
  | issue :: _ => []

theorem any_isIssue {deeds : List (Deed σ)} : deeds.any isIssue = true ↔ issue ∈ deeds := by
  rw [List.any_eq_true]
  constructor
  · rintro ⟨d, hd, hissue⟩
    cases d with
    | configure x => cases hissue
    | ask => cases hissue
    | issue => exact hd
  · intro h
    exact ⟨issue, h, rfl⟩

/-- Nothing counts after an issue. -/
theorem settings_append_of_mem {deeds : List (Deed σ)} (h : issue ∈ deeds)
    (later : List (Deed σ)) : settings (deeds ++ later) = settings deeds := by
  induction deeds with
  | nil => cases h
  | cons d deeds ih =>
      cases d with
      | configure x =>
          cases h with
          | tail _ h => exact congrArg (x :: ·) (ih h)
      | ask =>
          cases h with
          | tail _ h => exact ih h
      | issue => rfl

example : settings [.configure 1, .ask, .configure 2, .issue, .configure 3] = [1, 2] := rfl

theorem settings_append_of_not_mem {deeds : List (Deed σ)} (h : issue ∉ deeds)
    (later : List (Deed σ)) :
    settings (deeds ++ later) = settings deeds ++ settings later := by
  induction deeds with
  | nil => rfl
  | cons d deeds ih =>
      have hrest : issue ∉ deeds := fun hm => h (.tail _ hm)
      cases d with
      | configure x => exact congrArg (x :: ·) (ih hrest)
      | ask => exact ih hrest
      | issue => exact absurd (.head _) h

theorem settings_map_configure (settings : List σ) :
    Deed.settings (settings.map .configure) = settings := by
  induction settings with
  | nil => rfl
  | cons x settings ih => exact congrArg (x :: ·) ih

theorem any_isIssue_map_configure (settings : List σ) :
    (settings.map configure).any isIssue = false := by
  induction settings with
  | nil => rfl
  | cons x settings ih => exact ih

end Deed

/-! ## Histories -/

/-- The initiator of a builder, and what was done with the builder. -/
structure History (σ : Type) where
  /-- The initiator. -/
  initiator : Initiator
  /-- What was done, first thing first. -/
  deeds : List (Deed σ) := []

namespace History

variable {δ σ α : Type} [Draft δ σ α] {h : History σ}

/-- The history with one more deed. -/
def add (d : Deed σ) (h : History σ) : History σ := { h with deeds := h.deeds ++ [d] }

/-- There is an issue in the history. -/
def issued (h : History σ) : Bool := h.deeds.any Deed.isIssue

/-- The settings that count. -/
def settings (h : History σ) : List σ := Deed.settings h.deeds

/-- The builder with this history. -/
def builder (δ : Type) {σ α : Type} [Draft δ σ α] (h : History σ) : Builder δ :=
  ⟨h.initiator, Draft.ofSettings δ h.settings, h.issued⟩

theorem issued_iff : h.issued = true ↔ Deed.issue ∈ h.deeds := Deed.any_isIssue

theorem issued_eq_false_iff : h.issued = false ↔ Deed.issue ∉ h.deeds := by
  rw [← issued_iff, Bool.not_eq_true]

theorem issued_add (d : Deed σ) : (h.add d).issued = (h.issued || d.isIssue) := by
  rw [issued, add, List.any_append, List.any_cons, List.any_nil, Bool.or_false]
  rfl

/-- The deed after an issue changes nothing. -/
theorem builder_add_of_issued (hissued : h.issued = true) (d : Deed σ) :
    (h.add d).builder δ = h.builder δ := by
  rw [builder, issued_add, hissued, settings, add,
    Deed.settings_append_of_mem (issued_iff.mp hissued), builder, hissued]
  rfl

theorem builder_add_of_fresh (hfresh : h.issued = false) (d : Deed σ) :
    (h.add d).builder δ =
      ⟨h.initiator, Draft.ofSettings δ (h.settings ++ Deed.settings [d]), d.isIssue⟩ := by
  have hnone := issued_eq_false_iff.mp hfresh
  rw [builder, issued_add, hfresh, settings, add, Deed.settings_append_of_not_mem hnone]
  rfl

theorem builder_add_ask : (h.add .ask).builder δ = h.builder δ := by
  cases hissued : h.issued with
  | true => exact builder_add_of_issued hissued _
  | false =>
      rw [builder_add_of_fresh hissued, Deed.settings, Deed.settings, List.append_nil, builder,
        hissued]
      rfl

theorem builder_add_issue : (h.add .issue).builder δ = { h.builder δ with issued := true } := by
  cases hissued : h.issued with
  | true => rw [builder_add_of_issued hissued, builder, hissued]
  | false =>
      rw [builder_add_of_fresh hissued, Deed.settings, List.append_nil]
      rfl

theorem configure_builder_of_issued (hissued : h.issued = true) (x : σ) :
    (h.builder δ).configure x = .error (.alreadyIssued (Draft.operation δ)) := by
  have hcheck : (h.builder δ).checkFresh = .error (.alreadyIssued (Draft.operation δ)) :=
    if_pos hissued
  rw [Builder.configure, hcheck]
  rfl

theorem configure_builder_of_fresh (hfresh : h.issued = false) (x : σ) :
    (h.builder δ).configure x = .ok ((h.add (.configure x)).builder δ) := by
  have hcheck : (h.builder δ).checkFresh = .ok () := Builder.checkFresh_of_fresh hfresh
  have hdraft : Draft.ofSettings δ (h.settings ++ [x]) =
      Draft.apply x (Draft.ofSettings δ h.settings) := Draft.ofSettings_concat h.settings x
  rw [Builder.configure, hcheck, builder_add_of_fresh hfresh, builder, hfresh, Deed.settings,
    Deed.settings, hdraft]
  rfl

end History

/-- An issue changes no more of a builder than that it is spent. -/
theorem Builder.fst_issue {δ σ α : Type} [Draft δ σ α] (b : Builder δ) (t : Transport) :
    (b.issue t).1 = { b with issued := true } := by
  cases hissued : b.issued with
  | true =>
      rw [b.issue_of_issued hissued]
      cases b
      cases hissued
      rfl
  | false =>
      cases hc : Draft.command b.draft with
      | error fault => rw [issue_of_command_error hissued hc]
      | ok command => rw [issue_of_command hissued hc]

/-- A builder without a name is prepared by its settings and issued. -/
theorem Builder.run_eq (δ : Type) {σ α : Type} [Draft δ σ α] (i : Initiator) (settings : List σ)
    (t : Transport) :
    Builder.run δ i settings t =
      (Builder.issue ⟨i, Draft.ofSettings δ settings, false⟩ t).2 := by
  have hprepared : settings.foldlM configure (blank i : Builder δ) =
      .ok ⟨i, Draft.ofSettings δ settings, false⟩ := by
    induction settings using List.reverseRecOn with
    | nil => rfl
    | append_singleton settings x ih =>
        rw [List.foldlM_append, ih, Draft.ofSettings_concat]
        rfl
  rw [run, hprepared]

/-! ## Slots -/

namespace Slots

variable {α β : Type}

/-- The slots with what is made of each thing. -/
def map (f : α → β) (s : Slots α) : Slots β := fun id => (s id).map f

/-- The slots with a thing under a name, if there is such a thing. -/
def put (s : Slots α) (id : String) : Option α → Slots α
  | none => s
  | some a => s.insert id a

theorem put_of_ne (s : Slots α) {id k : String} (h : k ≠ id) (a? : Option α) :
    s.put id a? k = s k := by
  cases a? with
  | none => rfl
  | some a => exact s.insert_of_ne h a

/-- Slots that agree on a name still do after the same was put there. -/
theorem put_self_congr {s s' : Slots α} {id : String} (h : s id = s' id) (a? : Option α) :
    s.put id a? id = s'.put id a? id := by
  cases a? with
  | none => exact h
  | some a => exact (s.insert_self id a).trans (s'.insert_self id a).symm

/-- What is the same for the thing that is put is the same for all things. -/
theorem map_put {f : α → β} {s : Slots α} {id : String} {a? : Option α}
    (h : ∀ a ∈ a?, (s id).map f = some (f a)) : (s.put id a?).map f = s.map f := by
  cases a? with
  | none => rfl
  | some a =>
      funext k
      by_cases hk : k = id
      · subst hk
        rw [put, map, insert_self, map, h a rfl, Option.map_some]
      · rw [put, map, insert_of_ne _ hk, map]

theorem get_of_eq_none {s : Slots α} {id : String} (h : s id = none) :
    s.get id = .error (.noSuchBuilder id) := by
  rw [get, h]

theorem get_of_eq_some {s : Slots α} {id : String} {a : α} (h : s id = some a) :
    s.get id = .ok a := by
  rw [get, h]

theorem map_apply_of_eq_some (f : α → β) {s : Slots α} {id : String} {a : α} (h : s id = some a) :
    s.map f id = some (f a) := by
  rw [map, h]
  rfl

theorem map_apply_of_eq_none (f : α → β) {s : Slots α} {id : String} (h : s id = none) :
    s.map f id = none := by
  rw [map, h]
  rfl

theorem map_insert (f : α → β) (s : Slots α) (id : String) (a : α) :
    (s.insert id a).map f = (s.map f).insert id (f a) := by
  funext k
  by_cases hk : k = id
  · subst hk
    rw [map, insert_self, insert_self]
    rfl
  · rw [map, insert_of_ne _ hk, insert_of_ne _ hk, map]

/-- What is under a name already can be put there again. -/
theorem insert_eq_self {s : Slots α} {id : String} {a : α} (h : s id = some a) :
    s.insert id a = s := by
  funext k
  by_cases hk : k = id
  · subst hk
    rw [insert_self, h]
  · exact insert_of_ne s hk a

end Slots

/-! ## Calls -/

namespace Call

section Builders

variable {δ σ α : Type} [Draft δ σ α] {slots : Slots (Builder δ)} {id : String} {b : Builder δ}
  {t : Transport}

/-- The name that a call uses. -/
def subject? : Call σ → Option String
  | copy id _ => some id
  | configure id _ => some id
  | ask id => some id
  | issue id => some id
  | _ => none

/-- A call of a builder that is not there fails. -/
theorem perform_of_missing {c : Call σ} (hc : c.subject? = some id) (hid : slots id = none) :
    c.perform slots t = (slots, t, .error (.noSuchBuilder id)) := by
  have hget := Slots.get_of_eq_none hid
  cases c with
  | blank on k => cases hc
  | run on settings => cases hc
  | copy k target =>
      cases hc
      rw [perform, hget]
  | configure k x =>
      cases hc
      rw [perform, hget]
      rfl
  | ask k =>
      cases hc
      rw [perform, hget]
      rfl
  | issue k =>
      cases hc
      rw [perform, hget]

theorem perform_copy_of_eq_some (hid : slots id = some b) (target : String) :
    (copy id target : Call σ).perform slots t = (slots.insert target b, t, .ok .done) := by
  rw [perform, Slots.get_of_eq_some hid]

theorem perform_ask_of_eq_some (hid : slots id = some b) :
    (ask id : Call σ).perform slots t = (slots, t, .ok (.issued b.issued)) := by
  rw [perform, Slots.get_of_eq_some hid]
  rfl

theorem perform_configure_of_ok {b' : Builder δ} {x : σ} (hid : slots id = some b)
    (hset : b.configure x = .ok b') :
    (configure id x).perform slots t = (slots.insert id b', t, .ok .done) := by
  have hget : (slots.get id >>= fun b => b.configure x) = .ok b' := by
    rw [Slots.get_of_eq_some hid]
    exact hset
  rw [perform, hget]

theorem perform_configure_of_error {fault : Fault} {x : σ} (hid : slots id = some b)
    (hset : b.configure x = .error fault) :
    (configure id x).perform slots t = (slots, t, .error fault) := by
  have hget : (slots.get id >>= fun b => b.configure x) = .error fault := by
    rw [Slots.get_of_eq_some hid]
    exact hset
  rw [perform, hget]

theorem perform_issue_of_eq_some (hid : slots id = some b) :
    (issue id : Call σ).perform slots t =
      (slots.insert id (b.issue t).1, (b.issue t).2.1, (b.issue t).2.2.map .result) := by
  rw [perform, Slots.get_of_eq_some hid]

end Builders

variable {δ σ α : Type} [Draft δ σ α] {hs : Slots (History σ)} {id : String} {h : History σ}
  {t : Transport}

/-- The histories after a call.  Something is done only with a builder that is
there. -/
def note (hs : Slots (History σ)) : Call σ → Slots (History σ)
  | blank on id => hs.insert id { initiator := on }
  | copy id target => hs.put target (hs id)
  | configure id x => hs.put id ((hs id).map (·.add (.configure x)))
  | ask id => hs.put id ((hs id).map (·.add .ask))
  | issue id => hs.put id ((hs id).map (·.add .issue))
  | run _ _ => hs

/-- The history of the builder that a call issues, if it was not issued before. -/
def first? (hs : Slots (History σ)) : Call σ → Option (History σ)
  | issue id => (hs id).filter fun h => !h.issued
  | run on settings => some { initiator := on, deeds := settings.map .configure }
  | _ => none

theorem issued_of_first? {c : Call σ} (hfirst : c.first? hs = some h) : h.issued = false := by
  cases c with
  | blank on id => cases hfirst
  | copy id target => cases hfirst
  | configure id x => cases hfirst
  | ask id => cases hfirst
  | issue id =>
      obtain ⟨-, hfresh⟩ := Option.filter_eq_some_iff.mp hfirst
      simpa using hfresh
  | run on settings =>
      cases hfirst
      exact Deed.any_isIssue_map_configure settings

theorem perform_copy (hid : hs id = some h) (target : String) :
    (copy id target).perform (hs.map (History.builder δ)) t =
      ((hs.insert target h).map (History.builder δ), t, .ok .done) := by
  rw [Slots.map_insert]
  exact perform_copy_of_eq_some (Slots.map_apply_of_eq_some _ hid) target

theorem perform_ask (hid : hs id = some h) :
    (ask id).perform (hs.map (History.builder δ)) t =
      (hs.map (History.builder δ), t, .ok (.issued h.issued)) :=
  perform_ask_of_eq_some (Slots.map_apply_of_eq_some _ hid)

theorem perform_configure_of_issued (hid : hs id = some h) (hissued : h.issued = true) (x : σ) :
    (configure id x).perform (hs.map (History.builder δ)) t =
      (hs.map (History.builder δ), t, .error (.alreadyIssued (Draft.operation δ))) :=
  perform_configure_of_error (Slots.map_apply_of_eq_some _ hid)
    (History.configure_builder_of_issued hissued x)

theorem perform_configure_of_fresh (hid : hs id = some h) (hfresh : h.issued = false) (x : σ) :
    (configure id x).perform (hs.map (History.builder δ)) t =
      ((hs.insert id (h.add (.configure x))).map (History.builder δ), t, .ok .done) := by
  rw [Slots.map_insert]
  exact perform_configure_of_ok (Slots.map_apply_of_eq_some _ hid)
    (History.configure_builder_of_fresh hfresh x)

theorem perform_issue (hid : hs id = some h) :
    (issue id).perform (hs.map (History.builder δ)) t =
      ((hs.insert id (h.add .issue)).map (History.builder δ), ((h.builder δ).issue t).2.1,
        ((h.builder δ).issue t).2.2.map .result) := by
  rw [perform_issue_of_eq_some (Slots.map_apply_of_eq_some _ hid), Slots.map_insert,
    History.builder_add_issue, Builder.fst_issue]

/-- A spent builder sends nothing and stays as it is. -/
theorem perform_issue_of_issued (hid : hs id = some h) (hissued : h.issued = true) :
    (issue id).perform (hs.map (History.builder δ)) t =
      (hs.map (History.builder δ), t, .error (.alreadyIssued (Draft.operation δ))) := by
  have hsame := Slots.map_apply_of_eq_some (History.builder δ) hid
  rw [perform_issue hid, Builder.issue_of_issued (b := h.builder δ) hissued, Slots.map_insert,
    History.builder_add_of_issued hissued, Slots.insert_eq_self hsame]
  rfl

/-- The builder of a call without a name. -/
theorem perform_run (on : Initiator) (settings : List σ) :
    (run on settings).perform (hs.map (History.builder δ)) t =
      let b := History.builder δ { initiator := on, deeds := settings.map .configure }
      (hs.map (History.builder δ), (b.issue t).2.1, (b.issue t).2.2.map .result) := by
  have hfresh : (History.mk on (settings.map .configure)).issued = false :=
    Deed.any_isIssue_map_configure settings
  rw [perform, Builder.run_eq, History.builder, hfresh, History.settings,
    Deed.settings_map_configure]

/-- What a call does is told by histories: it changes builders as it changes
their histories, and it goes to the transport only with a builder that is not
spent. -/
theorem exists_perform_eq (δ : Type) {σ α : Type} [Draft δ σ α] (hs : Slots (History σ))
    (t : Transport) (c : Call σ) :
    ∃ answer : Except Fault (CallAnswer α),
      c.perform (hs.map (History.builder δ)) t =
        ((c.note hs).map (History.builder δ),
          (c.first? hs).elim t fun h => ((h.builder δ).issue t).2.1, answer) := by
  cases c with
  | blank on id =>
      refine ⟨.ok .done, ?_⟩
      rw [note, Slots.map_insert]
      rfl
  | run on settings => exact ⟨_, perform_run on settings⟩
  | copy id target =>
      cases hid : hs id with
      | none =>
          rw [note, hid]
          exact ⟨_, perform_of_missing rfl (Slots.map_apply_of_eq_none _ hid)⟩
      | some h =>
          rw [note, hid]
          exact ⟨_, perform_copy hid target⟩
  | ask id =>
      cases hid : hs id with
      | none =>
          rw [note, hid]
          exact ⟨_, perform_of_missing rfl (Slots.map_apply_of_eq_none _ hid)⟩
      | some h =>
          have hsame := Slots.map_apply_of_eq_some (History.builder δ) hid
          rw [note, hid, Option.map_some, Slots.put, Slots.map_insert, History.builder_add_ask,
            Slots.insert_eq_self hsame]
          exact ⟨_, perform_ask hid⟩
  | configure id x =>
      cases hid : hs id with
      | none =>
          rw [note, hid]
          exact ⟨_, perform_of_missing rfl (Slots.map_apply_of_eq_none _ hid)⟩
      | some h =>
          rw [note, hid, Option.map_some, Slots.put]
          cases hissued : h.issued with
          | true =>
              have hsame := Slots.map_apply_of_eq_some (History.builder δ) hid
              rw [Slots.map_insert, History.builder_add_of_issued hissued,
                Slots.insert_eq_self hsame]
              exact ⟨_, perform_configure_of_issued hid hissued x⟩
          | false => exact ⟨_, perform_configure_of_fresh hid hissued x⟩
  | issue id =>
      cases hid : hs id with
      | none =>
          rw [note, first?, hid]
          exact ⟨_, perform_of_missing rfl (Slots.map_apply_of_eq_none _ hid)⟩
      | some h =>
          rw [note, first?, hid, Option.map_some, Slots.put, Option.filter_some]
          cases hissued : h.issued with
          | true =>
              have hsame := Slots.map_apply_of_eq_some (History.builder δ) hid
              rw [Slots.map_insert, History.builder_add_of_issued hissued,
                Slots.insert_eq_self hsame]
              exact ⟨_, perform_issue_of_issued hid hissued⟩
          | false => exact ⟨_, perform_issue hid⟩

end Call

/-! ## Sessions -/

namespace Session

variable {s : Session} {t : Transport}

/-- A call of a builder is a step of the session. -/
theorem step_stream {c : Call StreamStatus.Setting}
    {streams : Slots (Builder StreamStatus.StreamDraft)}
    {answer : Except Fault (CallAnswer StreamStatus.Report)}
    (h : c.perform s.streams s.transport = (streams, t, answer)) :
    s.step (.stream c) =
      ({ s with streams, transport := t }, answer.map (·.toAnswer .report)) := by
  rw [step, h]

theorem step_unit {c : Call UnitReady.Setting} {units : Slots (Builder UnitReady.UnitDraft)}
    {answer : Except Fault (CallAnswer Unit)}
    (h : c.perform s.units s.transport = (units, t, answer)) :
    s.step (.unit c) =
      ({ s with units, transport := t }, answer.map (·.toAnswer fun _ => .done)) := by
  rw [step, h]

end Session

/-- The histories of all builders of a session. -/
structure Histories where
  /-- The builders of GET STREAM STATUS. -/
  streams : Slots (History StreamStatus.Setting) := .empty
  /-- The builders of TEST UNIT READY. -/
  units : Slots (History UnitReady.Setting) := .empty

namespace Histories

/-- The histories after a step. -/
def note (hs : Histories) : Step → Histories
  | .stream c => { hs with streams := c.note hs.streams }
  | .unit c => { hs with units := c.note hs.units }
  | _ => hs

/-- The histories after some steps from the start. -/
def of (xs : List Step) : Histories := xs.foldl note {}

/-- The session with these histories on a transport. -/
def session (hs : Histories) (t : Transport) : Session where
  transport := t
  streams := hs.streams.map (History.builder StreamStatus.StreamDraft)
  units := hs.units.map (History.builder UnitReady.UnitDraft)

/-- A step changes a session as it changes the histories. -/
theorem step_session (hs : Histories) (t : Transport) (x : Step) :
    ((hs.session t).step x).1 = (hs.note x).session ((hs.session t).step x).1.transport := by
  cases x with
  | install handler => rfl
  | settings on => rfl
  | latestRequest => rfl
  | requests => rfl
  | seen => rfl
  | issue on command => rfl
  | stream c =>
      obtain ⟨answer, hperform⟩ := c.exists_perform_eq StreamStatus.StreamDraft hs.streams t
      rw [Session.step_stream (s := hs.session t) hperform]
      rfl
  | unit c =>
      obtain ⟨answer, hperform⟩ := c.exists_perform_eq UnitReady.UnitDraft hs.units t
      rw [Session.step_unit (s := hs.session t) hperform]
      rfl

theorem run_session (hs : Histories) (t : Transport) (xs : List Step) :
    ((hs.session t).run xs).1 =
      (xs.foldl note hs).session ((hs.session t).run xs).1.transport := by
  induction xs generalizing hs t with
  | nil => rfl
  | cons x xs ih =>
      have hstep := hs.step_session t x
      have hrest := ih (hs.note x) ((hs.session t).step x).1.transport
      rw [← hstep] at hrest
      exact hrest

end Histories

/-- A session before its first step. -/
def Session.start (handler : Handler) : Session := { transport := { handler } }

/-- The builders of a session have the histories of its steps. -/
theorem Session.run_start (handler : Handler) (xs : List Step) :
    ((start handler).run xs).1 =
      (Histories.of xs).session ((start handler).run xs).1.transport :=
  Histories.run_session {} { handler } xs

end ScsiInitiator
