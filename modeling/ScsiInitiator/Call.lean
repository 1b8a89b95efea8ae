import ScsiInitiator.Builder
import ScsiInitiator.Slots

/-!
# Calls of builders

Builders are kept under names, and a *call* does something with one of them.
All kinds of builders have the same calls: begin one, copy one with its state,
change a setting, ask if it was issued, issue it, or do all of that at once
without a name.

A call that fails leaves every builder as it was, but for an issue, which spends
its builder.
-/

namespace ScsiInitiator

/-- A call of a builder with settings `σ`. -/
inductive Call (σ : Type)
  /-- Put a blank builder of an initiator under a name. -/
  | blank (on : Initiator) (id : String)
  /-- Put a copy of a builder under another name. -/
  | copy (id target : String)
  /-- Change a setting. -/
  | configure (id : String) (setting : σ)
  /-- Ask if the builder was issued. -/
  | ask (id : String)
  /-- Issue the builder. -/
  | issue (id : String)
  /-- Prepare and issue a builder without a name. -/
  | run (on : Initiator) (settings : List σ)

/-- The answer of a call with results `α`. -/
inductive CallAnswer (α : Type)
  /-- The call has nothing to say. -/
  | done
  /-- The builder was issued, or was not. -/
  | issued (b : Bool)
  /-- The command was issued with a result. -/
  | result (a : α)

/-- Perform a call. -/
def Call.perform {δ σ α : Type} [Draft δ σ α] (slots : Slots (Builder δ)) (t : Transport) :
    Call σ → Slots (Builder δ) × Transport × Except Fault (CallAnswer α)
  | blank on id => (slots.insert id (Builder.blank on), t, .ok .done)
  | copy id target =>
      match slots.get id with
      | .error fault => (slots, t, .error fault)
      | .ok b => (slots.insert target b, t, .ok .done)
  | configure id setting =>
      match slots.get id >>= fun b => b.configure setting with
      | .error fault => (slots, t, .error fault)
      | .ok b => (slots.insert id b, t, .ok .done)
  | ask id => (slots, t, (slots.get id).map fun b => .issued b.issued)
  | issue id =>
      match slots.get id with
      | .error fault => (slots, t, .error fault)
      | .ok b =>
          let (b', t', result) := b.issue t
          (slots.insert id b', t', result.map .result)
  | run on settings =>
      let (t', result) := Builder.run δ on settings t
      (slots, t', result.map .result)

end ScsiInitiator
