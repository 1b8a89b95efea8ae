import ScsiInitiator.Fault

/-!
# Things by name

*Slots* hold things under names, at most one under each name.  A thing that is
put under a name takes the place of the one that was there.
-/

namespace ScsiInitiator

/-- Things under names, at most one under each. -/
def Slots (α : Type) : Type := String → Option α

namespace Slots

variable {α : Type}

/-- Nothing has a name. -/
def empty : Slots α := fun _ => none

/-- The slots with a thing under a name. -/
def insert (s : Slots α) (id : String) (a : α) : Slots α :=
  fun k => if k = id then some a else s k

/-- The thing under a name. -/
def get (s : Slots α) (id : String) : Except Fault α :=
  match s id with
  | none => .error (.noSuchBuilder id)
  | some a => .ok a

theorem insert_self (s : Slots α) (id : String) (a : α) : s.insert id a id = some a := if_pos rfl

theorem insert_of_ne (s : Slots α) {id k : String} (h : k ≠ id) (a : α) :
    s.insert id a k = s k := if_neg h

end Slots

end ScsiInitiator
