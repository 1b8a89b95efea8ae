import ScsiInitiator.Initiator

/-!
# Builders

A *builder* prepares a command of an initiator step by step and issues it once.
What it has prepared so far is its *draft*.  Each kind of command has drafts of
its own, and the class `Draft` says what a builder needs to know of them: how a
draft begins, what each setting does to it, and which command it becomes.

Issuing spends the builder whatever comes of it.  After that every setting and
every further issue is refused.  A copy of a builder is a builder of its own: it
is spent exactly if the one it was taken from was spent by then.
-/

namespace ScsiInitiator

/-- A kind of command that is prepared by settings `σ` and gives results `α`. -/
class Draft (δ : Type) (σ α : outParam Type) where
  /-- The operation of the command. -/
  operation : Operation
  /-- The draft without any setting. -/
  blank : δ
  /-- The draft with one more setting. -/
  apply : σ → δ → δ
  /-- The command a draft becomes, unless a setting is out of bounds. -/
  command : δ → Except Fault (Command α)

/-- A command in preparation. -/
structure Builder (δ : Type) where
  /-- The initiator that issues it. -/
  initiator : Initiator
  /-- The draft so far. -/
  draft : δ
  /-- It was issued. -/
  issued : Bool

namespace Builder

variable {δ σ α : Type} [Draft δ σ α]

/-- A builder without any setting. -/
def blank (i : Initiator) : Builder δ := ⟨i, Draft.blank, false⟩

/-- Refuse a builder that was issued. -/
def checkFresh (b : Builder δ) : Except Fault Unit :=
  if b.issued then .error (.alreadyIssued (Draft.operation δ)) else .ok ()

/-- A builder with one more setting. -/
def configure (b : Builder δ) (setting : σ) : Except Fault (Builder δ) := do
  b.checkFresh
  return { b with draft := Draft.apply setting b.draft }

/-- Issue the command.  The builder is spent before anything else. -/
def issue (b : Builder δ) (t : Transport) : Builder δ × Transport × Except Fault α :=
  match b.checkFresh with
  | .error fault => (b, t, .error fault)
  | .ok () =>
      let spent := { b with issued := true }
      match Draft.command b.draft with
      | .error fault => (spent, t, .error fault)
      | .ok command =>
          let (t', result) := b.initiator.issue command t
          (spent, t', result)

/-- Prepare a command by some settings and issue it. -/
def run (δ : Type) {σ α : Type} [Draft δ σ α] (i : Initiator) (settings : List σ)
    (t : Transport) : Transport × Except Fault α :=
  match settings.foldlM configure (blank i : Builder δ) with
  | .error fault => (t, .error fault)
  | .ok b => (b.issue t).2

/-- A spent builder sends nothing and stays as it is. -/
theorem issue_of_issued {b : Builder δ} (h : b.issued = true) (t : Transport) :
    b.issue t = (b, t, .error (.alreadyIssued (Draft.operation δ))) := by
  simp [issue, checkFresh, h]

end Builder

end ScsiInitiator
