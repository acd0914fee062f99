import MissionScript.DataType
import MissionScript.Opcode

/-!
# Definitions

A definition names an opcode and declares its parameters. A single parameter takes one argument; a
variadic one takes all arguments up to an end marker. The arity is what an encoding depends on:
two definitions with the same parameter kinds in the same order read the same bytes.
-/

namespace MissionScript

/-- How many arguments a parameter takes, and which. -/
inductive ParamKind where
  | single (constraint : Constraint)
  | variadic (constraint : Constraint)
deriving DecidableEq, Repr, Inhabited

namespace ParamKind

def constraint : ParamKind → Constraint
  | .single constraint => constraint
  | .variadic constraint => constraint

def isVariadic : ParamKind → Bool
  | .single _ => false
  | .variadic _ => true

end ParamKind

structure Param where
  name : String
  kind : ParamKind
deriving DecidableEq, Repr, Inhabited

/-- The argument count of a definition. -/
inductive Arity where
  | fixed (count : Nat)
  | variadic (singles : Nat)
deriving DecidableEq, Repr

def Arity.text : Arity → String
  | .fixed count => toString count
  | .variadic singles => s!"{singles} + variadic"

structure Definition where
  opcode : Opcode
  symbol : String
  params : List Param
  /-- A free description, from the catalogue. -/
  notes : String := ""
deriving DecidableEq, Repr, Inhabited

/-- The number of single parameters, and whether there is a variadic one. -/
def Definition.arity (definition : Definition) : Arity :=
  let fixed := definition.params.countP fun param => !param.kind.isVariadic
  if definition.params.any fun param => param.kind.isVariadic then .variadic fixed else .fixed fixed

end MissionScript
