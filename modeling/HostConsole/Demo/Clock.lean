/-
A clock with a time scale. The scale is a number from zero to one hundred, both included; all other numbers are
refused, and so is what is no number.
-/
import HostConsole.Decimal.Shortest
import HostConsole.Binary.Arithmetic

namespace HostConsole.Demo

/-- a clock; its scale says how fast time passes -/
structure Clock where
  scale : Double
  deriving DecidableEq

/-- a time scale that a clock refuses -/
structure RefusedScale where
  value : Double
  deriving DecidableEq

namespace Clock

/-- the scale of real time -/
def realTime : Double := Binary.ofNat 1

/-- no scale is above this -/
def maxScale : Double := Binary.ofNat 100

/-- a clock in real time -/
def start : Clock := ⟨realTime⟩

/-- a scale that a clock takes -/
def accepts (value : Double) : Bool :=
  (Binary.zero false).le value && value.le maxScale

/-- the clock with another scale -/
def setScale (clock : Clock) (value : Double) : Except RefusedScale Clock :=
  if accepts value then .ok { clock with scale := value } else .error ⟨value⟩

end Clock

/-- the text of a refusal -/
def RefusedScale.message (refused : RefusedScale) : String :=
  "Time scale must be between 0 and " ++ Clock.maxScale.text ++ ", got " ++ refused.value.text

end HostConsole.Demo
