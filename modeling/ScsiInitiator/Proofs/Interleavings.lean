import ScsiInitiator.Proofs.Locality

/-!
# Builders that take turns

An *act* does something with one builder: it configures it, asks if it was
issued, or issues it.  The acts of several builders may come in any order.  What
an act comes to is its *effect*: the answer, and what the transport records.

Sessions that are alike for a builder give its acts the same effects and stay
alike (`Session.effect_eq`, `Session.Alike.step`), and acts of other builders do
not change that (`Session.alike_step_of_ne`).  So two acts of different builders
can be exchanged, and in any order of many acts each builder has the effects it
would have alone (`Session.filter_play`).
-/

namespace ScsiInitiator

/-! ## Acts -/

/-- The kind and the name of a builder. -/
inductive BuilderName
  /-- A builder of GET STREAM STATUS. -/
  | stream (id : String)
  /-- A builder of TEST UNIT READY. -/
  | unit (id : String)
deriving DecidableEq, Repr

/-- Something done with one builder. -/
inductive Act
  /-- Something is done with a builder of GET STREAM STATUS. -/
  | stream (id : String) (d : Deed StreamStatus.Setting)
  /-- Something is done with a builder of TEST UNIT READY. -/
  | unit (id : String) (d : Deed UnitReady.Setting)

namespace Act

/-- The builder something is done with. -/
def subject : Act → BuilderName
  | stream id _ => .stream id
  | unit id _ => .unit id

/-- The step of a session that does it. -/
def step : Act → Step
  | stream id d => .stream (d.call id)
  | unit id d => .unit (d.call id)

end Act

namespace Session

/-- The session after some acts, first act first. -/
def after (s : Session) (as : List Act) : Session := (s.run (as.map Act.step)).1

/-- What comes of an act. -/
structure Effect where
  /-- The answer. -/
  answer : Except Fault Answer
  /-- The requests that are recorded. -/
  sent : List Request

/-- What comes of an act in a session. -/
def effect (s : Session) (a : Act) : Effect where
  answer := (s.step a.step).2
  sent := (s.step a.step).1.transport.requests.drop s.transport.requestCount

/-- Some acts, each with what comes of it. -/
def play (s : Session) : List Act → List (Act × Effect)
  | [] => []
  | a :: as => (a, s.effect a) :: play (s.step a.step).1 as

/-- Two sessions have the same builder under a name, or none. -/
def SameBuilder (s s' : Session) : BuilderName → Prop
  | .stream id => s.streams id = s'.streams id
  | .unit id => s.units id = s'.units id

/-- The initiators the builders belong to. -/
def initiators (s : Session) : Slots Initiator × Slots Initiator :=
  (s.streams.map Builder.initiator, s.units.map Builder.initiator)

/-- Two sessions are alike for a builder. -/
structure Alike (n : BuilderName) (s s' : Session) : Prop where
  /-- The device is the same. -/
  handler : s.transport.handler = s'.transport.handler
  /-- The builder is the same. -/
  builder : s.SameBuilder s' n

theorem Alike.refl (n : BuilderName) (s : Session) : Alike n s s := by
  refine ⟨rfl, ?_⟩
  cases n <;> rfl

theorem Alike.symm {n : BuilderName} {s s' : Session} (h : Alike n s s') : Alike n s' s := by
  refine ⟨h.handler.symm, ?_⟩
  cases n with
  | stream id => exact Eq.symm h.builder
  | unit id => exact Eq.symm h.builder

theorem Alike.trans {n : BuilderName} {s s' s'' : Session} (h : Alike n s s')
    (h' : Alike n s' s'') : Alike n s s'' := by
  refine ⟨h.handler.trans h'.handler, ?_⟩
  cases n with
  | stream id => exact Eq.trans h.builder h'.builder
  | unit id => exact Eq.trans h.builder h'.builder

/-! ## One act -/

/-- Sessions that are alike for the builder of an act answer it alike, send the
same, and stay alike. -/
theorem exists_step_eq {s s' : Session} {a : Act} (h : Alike a.subject s s') :
    ∃ sent : Option Request,
      (s.step a.step).2 = (s'.step a.step).2 ∧
      Alike a.subject (s.step a.step).1 (s'.step a.step).1 ∧
      s.transport.Continues (s.step a.step).1.transport sent ∧
      s'.transport.Continues (s'.step a.step).1.transport sent := by
  cases a with
  | stream id d =>
      obtain ⟨changed?, sent, answer, -, hstep⟩ :=
        exists_step_stream_eq d id (s'.streams id) s'.transport.handler
      obtain ⟨t, ht, heq⟩ := hstep s h.builder h.handler
      obtain ⟨t', ht', heq'⟩ := hstep s' rfl rfl
      rw [Act.step, heq, heq']
      refine ⟨sent, rfl, ⟨?_, Slots.put_self_congr h.builder changed?⟩, ht, ht'⟩
      exact ht.handler.trans (h.handler.trans ht'.handler.symm)
  | unit id d =>
      obtain ⟨changed?, sent, answer, -, hstep⟩ :=
        exists_step_unit_eq d id (s'.units id) s'.transport.handler
      obtain ⟨t, ht, heq⟩ := hstep s h.builder h.handler
      obtain ⟨t', ht', heq'⟩ := hstep s' rfl rfl
      rw [Act.step, heq, heq']
      refine ⟨sent, rfl, ⟨?_, Slots.put_self_congr h.builder changed?⟩, ht, ht'⟩
      exact ht.handler.trans (h.handler.trans ht'.handler.symm)

/-- An act records at most one request, after those before it. -/
theorem exists_continues (s : Session) (a : Act) :
    ∃ sent : Option Request, (s.effect a).sent = sent.toList ∧
      s.transport.Continues (s.step a.step).1.transport sent := by
  obtain ⟨sent, -, -, hcontinues, -⟩ := exists_step_eq (Alike.refl a.subject s)
  refine ⟨sent, ?_, hcontinues⟩
  rw [effect, hcontinues.requests]
  exact List.drop_left

theorem requests_step (s : Session) (a : Act) :
    (s.step a.step).1.transport.requests = s.transport.requests ++ (s.effect a).sent := by
  obtain ⟨sent, hsent, hcontinues⟩ := s.exists_continues a
  rw [hsent, hcontinues.requests]

theorem handler_step (s : Session) (a : Act) :
    (s.step a.step).1.transport.handler = s.transport.handler := by
  obtain ⟨sent, -, hcontinues⟩ := s.exists_continues a
  exact hcontinues.handler

theorem effect_eq {s s' : Session} {a : Act} (h : Alike a.subject s s') :
    s.effect a = s'.effect a := by
  obtain ⟨sent, hanswer, -, hcontinues, hcontinues'⟩ := exists_step_eq h
  rw [effect, effect, hanswer, hcontinues.requests, hcontinues'.requests, Transport.requestCount,
    Transport.requestCount, List.drop_left, List.drop_left]

theorem Alike.step {s s' : Session} {a : Act} (h : Alike a.subject s s') :
    Alike a.subject (s.step a.step).1 (s'.step a.step).1 := by
  obtain ⟨sent, -, halike, -⟩ := exists_step_eq h
  exact halike

/-- An act changes no builder but its own. -/
theorem alike_step_of_ne {n : BuilderName} (s : Session) {a : Act} (h : n ≠ a.subject) :
    Alike n (s.step a.step).1 s := by
  refine ⟨s.handler_step a, ?_⟩
  cases a with
  | stream id d =>
      obtain ⟨changed?, sent, answer, -, hstep⟩ :=
        exists_step_stream_eq d id (s.streams id) s.transport.handler
      obtain ⟨t, -, heq⟩ := hstep s rfl rfl
      rw [Act.step, heq]
      cases n with
      | stream k =>
          have hk : k ≠ id := fun hk => h (congrArg BuilderName.stream hk)
          exact s.streams.put_of_ne hk changed?
      | unit k => rfl
  | unit id d =>
      obtain ⟨changed?, sent, answer, -, hstep⟩ :=
        exists_step_unit_eq d id (s.units id) s.transport.handler
      obtain ⟨t, -, heq⟩ := hstep s rfl rfl
      rw [Act.step, heq]
      cases n with
      | stream k => rfl
      | unit k =>
          have hk : k ≠ id := fun hk => h (congrArg BuilderName.unit hk)
          exact s.units.put_of_ne hk changed?

/-- No act changes which initiators the builders belong to. -/
theorem initiators_step (s : Session) (a : Act) :
    (s.step a.step).1.initiators = s.initiators := by
  cases a with
  | stream id d =>
      obtain ⟨changed?, sent, answer, hinitiator, hstep⟩ :=
        exists_step_stream_eq d id (s.streams id) s.transport.handler
      obtain ⟨t, -, heq⟩ := hstep s rfl rfl
      rw [Act.step, heq, initiators, initiators, Slots.map_put hinitiator]
  | unit id d =>
      obtain ⟨changed?, sent, answer, hinitiator, hstep⟩ :=
        exists_step_unit_eq d id (s.units id) s.transport.handler
      obtain ⟨t, -, heq⟩ := hstep s rfl rfl
      rw [Act.step, heq, initiators, initiators, Slots.map_put hinitiator]

/-! ## Two acts -/

section Exchange

variable (s : Session) {a b : Act} (h : a.subject ≠ b.subject)

include h

/-- An act has the same effect after an act of another builder. -/
theorem effect_step_of_ne : (s.step a.step).1.effect b = s.effect b :=
  effect_eq (s.alike_step_of_ne h.symm)

/-- Sessions after two acts in either order are alike for every builder. -/
theorem alike_step_step (n : BuilderName) :
    Alike n ((s.step a.step).1.step b.step).1 ((s.step b.step).1.step a.step).1 := by
  by_cases ha : n = a.subject
  · -- `b` leaves the builder of `a` alone, before `a` and after it.
    subst ha
    exact ((s.step a.step).1.alike_step_of_ne h).trans (s.alike_step_of_ne h).symm.step
  · by_cases hb : n = b.subject
    · subst hb
      exact (s.alike_step_of_ne ha).step.trans ((s.step b.step).1.alike_step_of_ne ha).symm
    · exact (((s.step a.step).1.alike_step_of_ne hb).trans (s.alike_step_of_ne ha)).trans
        (((s.step b.step).1.alike_step_of_ne ha).trans (s.alike_step_of_ne hb)).symm

end Exchange

/-- Sessions that are alike for every builder have the same builders. -/
theorem builders_eq {s s' : Session} (h : ∀ n, Alike n s s') :
    s.streams = s'.streams ∧ s.units = s'.units :=
  ⟨funext fun id => (h (.stream id)).builder, funext fun id => (h (.unit id)).builder⟩

/-! ## Many acts -/

theorem after_cons (s : Session) (a : Act) (as : List Act) :
    s.after (a :: as) = (s.step a.step).1.after as := rfl

/-- In any order of acts a builder has the effects it has alone.  The induction
is on the acts, and the session of the builder alone goes on only with its own. -/
theorem filter_play {n : BuilderName} {s s' : Session} (h : Alike n s s') (as : List Act) :
    (s.play as).filter (fun e => e.1.subject = n) = s'.play (as.filter fun a => a.subject = n) := by
  induction as generalizing s s' with
  | nil => rfl
  | cons a as ih =>
      by_cases ha : a.subject = n
      · subst ha
        simp only [play, List.filter_cons, decide_true, if_true, ih h.step, effect_eq h]
      · have hother := (s.alike_step_of_ne (Ne.symm ha)).trans h
        simp only [play, List.filter_cons, ha, decide_false, Bool.false_eq_true, if_false,
          ih hother]

theorem alike_after {n : BuilderName} {s s' : Session} (h : Alike n s s') (as : List Act) :
    Alike n (s.after as) (s'.after (as.filter fun a => a.subject = n)) := by
  induction as generalizing s s' with
  | nil => exact h
  | cons a as ih =>
      by_cases ha : a.subject = n
      · subst ha
        rw [List.filter_cons, if_pos (decide_eq_true rfl)]
        exact ih h.step
      · rw [List.filter_cons, if_neg (by simp [ha])]
        exact ih ((s.alike_step_of_ne (Ne.symm ha)).trans h)

/-- The effects of acts are what a run of their steps shows. -/
theorem answers_run (s : Session) (as : List Act) :
    (s.run (as.map Act.step)).2.map Entry.answer = (s.play as).map (·.2.answer) := by
  induction as generalizing s with
  | nil => rfl
  | cons a as ih =>
      simp only [List.map_cons, run, play, ih]
      rfl

theorem requests_after (s : Session) (as : List Act) :
    (s.after as).transport.requests =
      s.transport.requests ++ (s.play as).flatMap (·.2.sent) := by
  induction as generalizing s with
  | nil => exact (List.append_nil _).symm
  | cons a as ih => rw [after_cons, ih, requests_step, play, List.flatMap_cons, List.append_assoc]

/-- Acts of different builders do not interfere.  Two of them give the same
answers in either order and leave the same builders, each with its initiator, and
what they send is recorded in the order they come.  In any order of many acts each builder gets the
answers, sends the requests and ends in the state that it would alone. -/
theorem builders_do_not_interfere (s : Session) :
    (∀ a b : Act, a.subject ≠ b.subject →
      let sa := s.step a.step
      let sb := s.step b.step
      let sab := sa.1.step b.step
      let sba := sb.1.step a.step
      sba.2 = sa.2 ∧ sab.2 = sb.2 ∧
      sab.1.streams = sba.1.streams ∧ sab.1.units = sba.1.units ∧
      sab.1.transport.handler = sba.1.transport.handler ∧
      sab.1.initiators = s.initiators ∧ sba.1.initiators = s.initiators ∧
      ∃ qa qb : Option Request,
        sa.1.transport.requests = s.transport.requests ++ qa.toList ∧
        sb.1.transport.requests = s.transport.requests ++ qb.toList ∧
        sab.1.transport.requests = s.transport.requests ++ qa.toList ++ qb.toList ∧
        sba.1.transport.requests = s.transport.requests ++ qb.toList ++ qa.toList) ∧
    (∀ (as : List Act) (n : BuilderName),
      (s.play as).filter (fun e => e.1.subject = n) =
        s.play (as.filter fun a => a.subject = n) ∧
      (s.after as).SameBuilder (s.after (as.filter fun a => a.subject = n)) n) ∧
    (∀ as : List Act,
      (s.run (as.map Act.step)).2.map Entry.answer = (s.play as).map (·.2.answer) ∧
      (s.run (as.map Act.step)).1.transport.requests =
        s.transport.requests ++ (s.play as).flatMap (·.2.sent)) := by
  refine ⟨?_, ?_, ?_⟩
  · intro a b h sa sb sab sba
    have heffecta : sb.1.effect a = s.effect a := s.effect_step_of_ne h.symm
    have heffectb : sa.1.effect b = s.effect b := s.effect_step_of_ne h
    have halike := s.alike_step_step h
    obtain ⟨hstreams, hunits⟩ := builders_eq halike
    refine ⟨congrArg Effect.answer heffecta, congrArg Effect.answer heffectb, hstreams, hunits,
      (halike a.subject).handler, ?_, ?_, ?_⟩
    · exact (sa.1.initiators_step b).trans (s.initiators_step a)
    · exact (sb.1.initiators_step a).trans (s.initiators_step b)
    · obtain ⟨qa, hqa, -⟩ := s.exists_continues a
      obtain ⟨qb, hqb, -⟩ := s.exists_continues b
      have hsa := s.requests_step a
      have hsb := s.requests_step b
      have hsab := sa.1.requests_step b
      have hsba := sb.1.requests_step a
      rw [hqa] at hsa
      rw [hqb] at hsb
      rw [heffectb, hsa, hqb] at hsab
      rw [heffecta, hsb, hqa] at hsba
      exact ⟨qa, qb, hsa, hsb, hsab, hsba⟩
  · intro as n
    have hself := Alike.refl n s
    exact ⟨filter_play hself as, (alike_after hself as).builder⟩
  · intro as
    exact ⟨s.answers_run as, s.requests_after as⟩

/-- Builders of both kinds under one name. -/
theorem builders_do_not_interfere_of_two :
    let s : Session :=
      { streams := Slots.empty.insert "a" (Builder.blank .default)
        units := Slots.empty.insert "a" (Builder.blank .default) }
    let a := Act.stream "a" .issue
    let b := Act.unit "a" .issue
    let sab := (s.step a.step).1.step b.step
    let sba := (s.step b.step).1.step a.step
    a.subject ≠ b.subject ∧ sba.2 = (s.step a.step).2 ∧ sab.2 = (s.step b.step).2 ∧
      sab.1.streams = sba.1.streams ∧ sab.1.transport.requestCount = 2 ∧
      sab.1.transport.requests.reverse = sba.1.transport.requests := by
  intro s a b sab sba
  have hne : a.subject ≠ b.subject := by decide
  obtain ⟨hexchange, -, -⟩ := builders_do_not_interfere s
  obtain ⟨hfirst, hsecond, hstreams, -, -, -, -, qa, qb, -, -, hsab, hsba⟩ := hexchange a b hne
  refine ⟨hne, hfirst, hsecond, hstreams, by decide +kernel, ?_⟩
  rw [hsab, hsba]
  cases qa <;> cases qb <;> rfl

end Session

end ScsiInitiator
