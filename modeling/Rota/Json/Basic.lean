import Rota.Decimal.Binary64
import Rota.Rows

/-!
JSON values. Whole numbers from -2^63 to 2^64 - 1 are integers, all other numbers doubles;
the members of an object stand in ascending order of their keys.
-/

namespace Rota

inductive Json where
  | null
  | bool (value : Bool)
  | integer (value : Int)
  | double (value : Decimal.Binary64)
  | string (value : String)
  | array (items : List Json)
  | object (members : List (String × Json))

namespace Json

def ofNat (number : Nat) : Json := integer number

/-- An object of members given in any order. -/
def ofMembers (members : List (String × Json)) : Json := object (Rows.ofList members)

def ofOption {α : Type} (encode : α → Json) : Option α → Json
  | none => null
  | some value => encode value

def ofStrings (texts : List String) : Json := array (texts.map string)

/-- The name of a variant without content: a string, or the only key of an object, over null. -/
def variant? : Json → Option String
  | string name => some name
  | object [(name, null)] => some name
  | _ => none

def member? (key : String) : Json → Option Json
  | object members => Rows.find? key members
  | _ => none

end Json

end Rota
