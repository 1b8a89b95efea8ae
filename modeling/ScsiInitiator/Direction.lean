/-!
# The direction of the data phase

A command moves no data, moves data to the device, or takes data from it.
-/

namespace ScsiInitiator

/-- Which way the data of a command goes. -/
inductive Direction
  /-- No data moves. -/
  | none
  /-- Data moves to the device. -/
  | toDevice
  /-- Data is taken from the device. -/
  | fromDevice
deriving DecidableEq, Repr

namespace Direction

/-- The name of a direction. -/
def name : Direction → String
  | none => "none"
  | toDevice => "to-device"
  | fromDevice => "from-device"

/-- The direction with a given number, if there is one. -/
def ofCode? : Int → Option Direction
  | 0 => some none
  | 1 => some toDevice
  | 2 => some fromDevice
  | _ => Option.none

/-- The name of the direction with a given number.  A number without a
direction has a name too. -/
def nameOfCode (code : Int) : String := (ofCode? code).elim "unknown" name

end Direction

end ScsiInitiator
