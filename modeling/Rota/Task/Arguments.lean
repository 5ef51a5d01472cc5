import Rota.Decimal.Shortest
import Rota.Json.Basic
import Rota.Text.Quoted

/-!
Positional arguments of tasks: the parameters a task declares, and the first fault of a list
of JSON values that does not fit them.
-/

namespace Rota.Task

inductive Parameter where
  | unsigned (bits : Nat)
  | signed (bits : Nat)
  | size
  | boolean
  | text
  | optionalText
deriving DecidableEq, Repr

/-- A task takes a list as it is, or values for its parameters in their order. -/
inductive Parameters where
  | anyList
  | tuple (parameters : List Parameter)
deriving DecidableEq, Repr

inductive ArgumentFault where
  | tooFew (given size : Nat)
  | tooMany (given : Nat)
  | wrongType (value : Json) (expected : Parameter)
  | outOfRange (number : Int) (expected : Parameter)

namespace Parameter

def description : Parameter → String
  | unsigned bits => "u" ++ toString bits
  | signed bits => "i" ++ toString bits
  | size => "usize"
  | boolean => "a boolean"
  | text => "a string"
  | optionalText => "a string"

/-- The bounds of a number, the upper one excluded. -/
def bounds? : Parameter → Option (Int × Int)
  | unsigned bits => some (0, Decimal.twoTo bits)
  | signed bits => some (-Decimal.twoTo (bits - 1), Decimal.twoTo (bits - 1))
  | size => some (0, Decimal.wordLimit)
  | _ => none

def accept (parameter : Parameter) (value : Json) : Except ArgumentFault Unit :=
  match value, parameter.bounds?, parameter with
  | .integer number, some (least, limit), _ =>
    if least ≤ number && number < limit then .ok () else .error (.outOfRange number parameter)
  | .bool _, _, boolean => .ok ()
  | .string _, _, text => .ok ()
  | .string _, _, optionalText => .ok ()
  | .null, _, optionalText => .ok ()
  | _, _, _ => .error (.wrongType value parameter)

end Parameter

/-- Checks values against parameters from left to right; `given` values came before. -/
def acceptFrom (size given : Nat) : List Parameter → List Json → Except ArgumentFault Unit
  | [], [] => .ok ()
  | [], value :: values => .error (.tooMany (given + (value :: values).length))
  | _ :: _, [] => .error (.tooFew given size)
  | parameter :: parameters, value :: values => do
    parameter.accept value
    acceptFrom size (given + 1) parameters values

def Parameters.accept (parameters : Parameters) (values : List Json) : Except ArgumentFault Unit :=
  match parameters with
  | anyList => .ok ()
  | tuple parameters => acceptFrom parameters.length 0 parameters values

def describe : Json → String
  | .null => "null"
  | .bool value => "boolean `" ++ Text.boolean value ++ "`"
  | .integer value => "integer `" ++ toString value ++ "`"
  | .double value => "floating point `" ++ value.text ++ "`"
  | .string value => "string " ++ Text.quoted value
  | .array _ => "sequence"
  | .object _ => "map"

def ArgumentFault.message : ArgumentFault → String
  | tooFew given size =>
    "invalid length " ++ toString given ++ ", expected a tuple of size " ++ toString size
  | tooMany given =>
    "invalid length " ++ toString given ++ ", expected fewer elements in array"
  | wrongType value expected =>
    "invalid type: " ++ describe value ++ ", expected " ++ expected.description
  | outOfRange number expected =>
    "invalid value: integer `" ++ toString number ++ "`, expected " ++ expected.description

end Rota.Task
