import ScsiInitiator.Numeral

/-!
# Settings

The *settings* of an initiator are how long a command may take, in
milliseconds, and how many sense bytes it takes back.  Commands are issued only
under sound settings: the timeout is positive and fits in 32 bits, and the
sense buffer holds from 18 bytes, the shortest fixed format, to 252.

A *flaw* is one way for settings to be unsound.  `Settings.flaws` lists all of
them, the timeout first, and every other view of soundness is read off that
list.  `Settings.joined` tells of all flaws in one sentence, which it puts
together in a loop.
-/

namespace ScsiInitiator

/-- The settings of an initiator. -/
structure Settings where
  /-- How long a command may take, in milliseconds. -/
  timeout : Int64 := 60000
  /-- How many sense bytes are taken back. -/
  senseBufferSize : UInt64 := 64
deriving DecidableEq, Repr

namespace Settings

/-- One thing that is wrong with settings. -/
inductive Flaw
  /-- The timeout is zero or negative. -/
  | timeoutNotPositive (timeout : Int64)
  /-- The timeout does not fit in 32 bits. -/
  | timeoutTooLong (timeout : Int64)
  /-- The sense buffer is too short or too long. -/
  | senseBufferSize (size : UInt64)
deriving DecidableEq, Repr

/-- The longest timeout, in milliseconds. -/
def maxTimeout : Int64 := 0xFFFFFFFF

/-- The length of the shortest sense buffer. -/
def minSenseBufferSize : UInt64 := 18

/-- The length of the longest sense buffer. -/
def maxSenseBufferSize : UInt64 := 252

/-- A flaw in words. -/
def Flaw.message : Flaw → String
  | timeoutNotPositive t =>
      "Timeout must be positive (actual: " ++ decimalInt t.toInt ++ " ms)"
  | timeoutTooLong t =>
      "Timeout exceeds 32-bit milliseconds (actual: " ++ decimalInt t.toInt ++ " ms)"
  | .senseBufferSize s =>
      "Sense buffer size must be " ++ decimal minSenseBufferSize.toNat ++ "-" ++
        decimal maxSenseBufferSize.toNat ++ " bytes (actual: " ++ decimal s.toNat ++ ")"

/-- A sentence with one more flaw at its end, after a separator unless nothing
was said yet. -/
def addFlaw (said : String) (f : Flaw) : String :=
  (if said.isEmpty then said else said ++ "; ") ++ f.message

/-- The flaws in one sentence. -/
def joined (flaws : List Flaw) : String := flaws.foldl addFlaw ""

/-- All that is wrong with settings, the timeout first. -/
def flaws (s : Settings) : List Flaw :=
  (if s.timeout ≤ 0 then [.timeoutNotPositive s.timeout] else []) ++
  (if maxTimeout < s.timeout then [.timeoutTooLong s.timeout] else []) ++
  (if s.senseBufferSize < minSenseBufferSize ∨ maxSenseBufferSize < s.senseBufferSize then
    [.senseBufferSize s.senseBufferSize] else [])

/-- Settings are sound if nothing is wrong with them. -/
def Sound (s : Settings) : Prop := s.flaws = []

instance (s : Settings) : Decidable s.Sound := inferInstanceAs (Decidable (_ = _))

/-- Whether the settings are sound, and what a notice reads afterwards: the
flaws if there are any, else what it read before.  There may be no notice. -/
def review (s : Settings) (notice : Option String) : Bool × Option String :=
  (s.flaws.isEmpty, if s.flaws.isEmpty then notice else notice.map fun _ => joined s.flaws)

theorem sound_default : Sound {} := by decide

end Settings

end ScsiInitiator
