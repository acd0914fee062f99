/-!
# Data types and constraints

Every encoded argument starts with a tag byte. The tag fixes the data type, and the data type
fixes how many bytes of payload follow; only the length-prefixed string carries its own length.
A tag above 31 is no type code at all but the first character of an eight-byte string.

A constraint says which data types a parameter accepts.
-/

namespace MissionScript

/-- The type of one encoded argument. -/
inductive DataType where
  /-- Ends a list of variable arguments. -/
  | endMarker
  | int32
  /-- The address of a global variable. -/
  | globalVar
  /-- The index of a local variable of the running thread. -/
  | localVar
  | int8
  | int16
  | float32
  /-- Eight bytes, padded with zeros. -/
  | string8
  /-- A length byte, then that many bytes. -/
  | varString
  /-- Eight bytes of which the tag itself is the first. -/
  | inlineString (first : UInt8)
deriving DecidableEq, Repr, Inhabited

namespace DataType

/-- The greatest tag that is a type code. -/
def maxTypeCode : UInt8 := 31

/-- The data type of a tag; some type codes are not assigned. -/
def ofTag? (tag : UInt8) : Option DataType :=
  if tag = 0x00 then some .endMarker
  else if tag = 0x01 then some .int32
  else if tag = 0x02 then some .globalVar
  else if tag = 0x03 then some .localVar
  else if tag = 0x04 then some .int8
  else if tag = 0x05 then some .int16
  else if tag = 0x06 then some .float32
  else if tag = 0x09 then some .string8
  else if tag = 0x0E then some .varString
  else if maxTypeCode < tag then some (.inlineString tag)
  else none

/-- The tag byte of a data type. -/
def tag : DataType → UInt8
  | .endMarker => 0x00
  | .int32 => 0x01
  | .globalVar => 0x02
  | .localVar => 0x03
  | .int8 => 0x04
  | .int16 => 0x05
  | .float32 => 0x06
  | .string8 => 0x09
  | .varString => 0x0E
  | .inlineString first => first

/-- A choice between a value and something else gives a value in one of two ways. -/
theorem ite_some_eq_some {α : Type} {condition : Prop} [Decidable condition] {a b : α}
    {other : Option α} :
    ((if condition then some a else other) = some b) =
      (condition ∧ a = b ∨ ¬condition ∧ other = some b) := by
  by_cases holds : condition <;> simp [holds]

/-- Every tag that has a data type is the tag of that type. -/
theorem tag_of_ofTag? {code : UInt8} {dataType : DataType}
    (known : ofTag? code = some dataType) : dataType.tag = code := by
  simp only [ofTag?, ite_some_eq_some, reduceCtorEq, and_false, or_false] at known
  rcases known with ⟨rfl, rfl⟩ | ⟨_, ⟨rfl, rfl⟩ | ⟨_, ⟨rfl, rfl⟩ | ⟨_, ⟨rfl, rfl⟩ | ⟨_, ⟨rfl, rfl⟩ |
    ⟨_, ⟨rfl, rfl⟩ | ⟨_, ⟨rfl, rfl⟩ | ⟨_, ⟨rfl, rfl⟩ | ⟨_, ⟨rfl, rfl⟩ | ⟨_, _, rfl⟩⟩⟩⟩⟩⟩⟩⟩⟩ <;> rfl

/-- The number of payload bytes, unless the payload says so itself. -/
def width? : DataType → Option Nat
  | .endMarker => some 0
  | .int8 => some 1
  | .globalVar | .localVar | .int16 => some 2
  | .int32 | .float32 => some 4
  | .string8 => some 8
  | .inlineString _ => some 7
  | .varString => none

def name : DataType → String
  | .endMarker => "end"
  | .int32 => "int32"
  | .globalVar => "global_var"
  | .localVar => "local_var"
  | .int8 => "int8"
  | .int16 => "int16"
  | .float32 => "float32"
  | .string8 => "string"
  | .varString => "vstring"
  | .inlineString _ => "inline_string"

def isInt : DataType → Bool
  | .int8 | .int16 | .int32 => true
  | _ => false

def isFloat : DataType → Bool
  | .float32 => true
  | _ => false

def isVariable : DataType → Bool
  | .globalVar | .localVar => true
  | _ => false

def isString : DataType → Bool
  | .string8 | .varString | .inlineString _ => true
  | _ => false

end DataType

/-- Which data types a parameter accepts. -/
inductive Constraint where
  | any
  | int
  | float
  | intOrFloat
  | var
  | intOrVar
  | floatOrVar
  | string
  | exact (dataType : DataType)
deriving DecidableEq, Repr, Inhabited

namespace Constraint

def accepts : Constraint → DataType → Bool
  | .any, _ => true
  | .int, dataType => dataType.isInt
  | .float, dataType => dataType.isFloat
  | .intOrFloat, dataType => dataType.isInt || dataType.isFloat
  | .var, dataType => dataType.isVariable
  | .intOrVar, dataType => dataType.isInt || dataType.isVariable
  | .floatOrVar, dataType => dataType.isFloat || dataType.isVariable
  | .string, dataType => dataType.isString
  | .exact expected, dataType => expected == dataType

def name : Constraint → String
  | .any => "any"
  | .int => "int"
  | .float => "float"
  | .intOrFloat => "int_or_float"
  | .var => "var"
  | .intOrVar => "int_or_var"
  | .floatOrVar => "float_or_var"
  | .string => "string"
  | .exact dataType => dataType.name

end Constraint

end MissionScript
