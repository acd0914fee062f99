import MissionScript.Bytes
import MissionScript.DataType
import MissionScript.Single
import MissionScript.Text.Quoted

/-!
# Values

What an argument or a variable is worth: an integer, a single-precision number or a text. Numbers
fit into the four bytes of a variable; text does not.
-/

namespace MissionScript

inductive Value where
  | int (value : Int32)
  | float (value : Single)
  | text (value : String)
deriving DecidableEq, Repr, Inhabited

namespace Value

def typeName : Value → String
  | .int _ => "int"
  | .float _ => "float"
  | .text _ => "string"

/-- The value as it is shown to a reader. -/
def render : Value → String
  | .int value => toString value.toInt
  | .float value => value.text
  | .text value => Text.quote value

/-- The data type and the four bytes under which a variable holds the value. -/
def storage? : Value → Option (DataType × List UInt8)
  | .int value => some (.int32, int32Bytes value)
  | .float value => some (.float32, toLittleEndian 4 value.bits.toNat)
  | .text _ => none

end Value

end MissionScript
