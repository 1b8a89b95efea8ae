import ScsiInitiator.Bytes
import ScsiInitiator.Numeral

/-!
# Sense data

*Sense bytes* say why a command failed.  They come in two formats, fixed and
descriptor, each in a *current* and a *deferred* variant.  A response code in
the low seven bits of the first byte tells the four apart.  Both formats carry
a four-bit *sense key* and two bytes that refine it, at different positions.

How many bytes arrive is up to the device, so a byte that is missing is read as
zero.  Bytes without one of the four response codes are not sense data, and
`SenseData.ofBytes` gives the value that says so.
-/

namespace ScsiInitiator

/-! ## Sense keys -/

/-- A sense key.  On the wire it has four bits. -/
structure SenseKey where
  /-- The number of the key. -/
  code : UInt8
deriving DecidableEq, Repr

/-- The name of a sense key.  A number beyond four bits has none. -/
def SenseKey.name (k : SenseKey) : String :=
  match k.code with
  | 0x0 => "NO SENSE"
  | 0x1 => "RECOVERED ERROR"
  | 0x2 => "NOT READY"
  | 0x3 => "MEDIUM ERROR"
  | 0x4 => "HARDWARE ERROR"
  | 0x5 => "ILLEGAL REQUEST"
  | 0x6 => "UNIT ATTENTION"
  | 0x7 => "DATA PROTECT"
  | 0x8 => "BLANK CHECK"
  | 0x9 => "VENDOR SPECIFIC"
  | 0xA => "COPY ABORTED"
  | 0xB => "ABORTED COMMAND"
  | 0xC => "RESERVED"
  | 0xD => "VOLUME OVERFLOW"
  | 0xE => "MISCOMPARE"
  | 0xF => "COMPLETED"
  | _ => "UNKNOWN"

/-! ## Formats -/

/-- The two formats of sense bytes. -/
inductive SenseFormat
  /-- Every field at a fixed position. -/
  | fixed
  /-- A short header, then descriptors. -/
  | descriptor
deriving DecidableEq, Repr

namespace SenseFormat

/-- The format a response code stands for, if it stands for one. -/
def ofCode? (code : UInt8) : Option SenseFormat :=
  match code with
  | 0x70 | 0x71 => some fixed
  | 0x72 | 0x73 => some descriptor
  | _ => none

/-- The byte that holds the sense key in its low four bits. -/
def keyAt : SenseFormat → Nat
  | fixed => 2
  | descriptor => 1

/-- The byte that holds the additional sense code. -/
def ascAt : SenseFormat → Nat
  | fixed => 12
  | descriptor => 2

/-- The byte that holds the qualifier of the additional sense code. -/
def ascqAt : SenseFormat → Nat
  | fixed => 13
  | descriptor => 3

end SenseFormat

/-! ## Sense data -/

/-- What sense bytes say.  The value with every field at its default stands for
bytes that are not sense data. -/
structure SenseData where
  /-- The bytes had a response code of sense data. -/
  valid : Bool := false
  /-- The response code. -/
  responseCode : UInt8 := 0
  /-- The failure belongs to an earlier command. -/
  deferred : Bool := false
  /-- The sense key. -/
  key : SenseKey := ⟨0⟩
  /-- The additional sense code. -/
  asc : UInt8 := 0
  /-- The qualifier of the additional sense code. -/
  ascq : UInt8 := 0
deriving DecidableEq, Repr

namespace SenseData

/-- Read sense bytes of any length. -/
def ofBytes (b : Bytes) : SenseData :=
  let code := Bytes.byteAt b 0 &&& 0x7F
  match SenseFormat.ofCode? code with
  | none => {}
  | some format =>
      { valid := true
        responseCode := code
        deferred := decide (code = 0x71 ∨ code = 0x73)
        key := ⟨Bytes.byteAt b format.keyAt &&& 0x0F⟩
        asc := Bytes.byteAt b format.ascAt
        ascq := Bytes.byteAt b format.ascqAt }

/-- Sense data in words. -/
def text (s : SenseData) : String :=
  if s.valid then
    s.key.name ++ " (asc=0x" ++ hexadecimal 2 s.asc.toNat ++ ", ascq=0x" ++
      hexadecimal 2 s.ascq.toNat ++ ")" ++ (if s.deferred then " [deferred]" else "")
  else "no sense data"

/-- Eighteen bytes of fixed format for a failure of the current command. -/
def fixedBytes (key : SenseKey) (asc ascq : UInt8) : Bytes :=
  [0x70, 0, key.code &&& 0x0F, 0, 0, 0, 0, 10, 0, 0, 0, 0, asc, ascq, 0, 0, 0, 0]

end SenseData

end ScsiInitiator
