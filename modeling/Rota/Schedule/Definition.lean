import Rota.Json.Printer
import Rota.Json.Reader
import Rota.Schedule.Basic

/-!
Definitions of periodic tasks as they are stored, and their JSON form: an object, or an array of
the five values in order.
-/

namespace Rota.Schedule

structure Definition where
  id : TaskId
  name : String
  cron : String
  arguments : String
  enabled : Bool
deriving DecidableEq, Repr

namespace Definition

def ofValues (id : TaskId) (name cron : String) (values : List Json) : Definition :=
  { id, name, cron, arguments := Json.listText values, enabled := true }

def decodeArguments (definition : Definition) : Except Json.Fault (List Json) :=
  Json.parseList definition.arguments

/-! Reading. -/

structure Members where
  id : Option TaskId := none
  name : Option String := none
  cron : Option String := none
  arguments : Option String := none
  enabled : Option Bool := none

def readId : Json.Reader TaskId := fun text => do
  match Json.skipBlanks text with
  | [] => throw .truncated
  | character :: rest =>
    if character == '-' || character.isDigit then
      let (value, rest) ← Json.readNumber (character :: rest)
      match value with
      | .integer number =>
        if number < Decimal.signedLimit then return (number, rest) else throw .mismatched
      | _ => throw .mismatched
    else Json.refuse (character :: rest)

def readText : Json.Reader String := fun text =>
  match Json.skipBlanks text with
  | '"' :: rest => Json.readString Json.readEscape rest
  | rest => Json.refuse rest

def readBoolean : Json.Reader Bool := fun text =>
  match Json.skipBlanks text with
  | 't' :: rest => Json.readWord true ['r', 'u', 'e'] rest
  | 'f' :: rest => Json.readWord false ['a', 'l', 's', 'e'] rest
  | rest => Json.refuse rest

/-- Reads the value of a member that must not have been read before. -/
def readOnce {α : Type} (previous : Option α) (read : Json.Reader α) : Json.Reader (Option α) :=
  fun text => do
    if previous.isSome then throw .mismatched
    let (value, text) ← read (← Json.readColon text)
    return (some value, text)

def readMember (read : Members) (key : String) : Json.Reader Members := fun text => do
  match key with
  | "id" =>
    let (id, text) ← readOnce read.id readId text
    return ({ read with id }, text)
  | "name" =>
    let (name, text) ← readOnce read.name readText text
    return ({ read with name }, text)
  | "cron" =>
    let (cron, text) ← readOnce read.cron readText text
    return ({ read with cron }, text)
  | "args" =>
    let (arguments, text) ← readOnce read.arguments readText text
    return ({ read with arguments }, text)
  | "enabled" =>
    let (enabled, text) ← readOnce read.enabled readBoolean text
    return ({ read with enabled }, text)
  | _ =>
    let ((), text) ← Json.skipValue (← Json.readColon text)
    return (read, text)

def Members.complete (read : Members) : Except Json.Fault Definition :=
  match read with
  | { id := some id, name := some name, cron := some cron, arguments := some arguments,
      enabled := some enabled } => .ok { id, name, cron, arguments, enabled }
  | _ => .error .mismatched

/-- Steps to an item that must be there. -/
def expectItem (first : Bool) (text : List Char) : Except Json.Fault (List Char) := do
  match ← Json.nextItem first text with
  | some item => return item
  | none => throw .mismatched

def readClosing : Json.Reader Unit := fun text =>
  match Json.skipBlanks text with
  | [] => .error .truncated
  | ']' :: rest => .ok ((), rest)
  | _ => .error .malformed

def readArray : Json.Reader Definition := fun text => do
  let (id, text) ← readId (← expectItem true text)
  let (name, text) ← readText (← expectItem false text)
  let (cron, text) ← readText (← expectItem false text)
  let (arguments, text) ← readText (← expectItem false text)
  let (enabled, text) ← readBoolean (← expectItem false text)
  let ((), text) ← readClosing text
  return ({ id, name, cron, arguments, enabled }, text)

def readObject : Json.Reader Definition := fun text => do
  let key := Json.readString Json.readEscape
  let (read, text) ← Json.readMembers key readMember (text.length + 1) true {} text
  return (← read.complete, text)

def parse (text : String) : Except Json.Fault Definition :=
  Json.complete <| match Json.skipBlanks text.toList with
    | '[' :: rest => readArray rest
    | '\x7b' :: rest => readObject rest
    | rest => Json.refuse rest

/-! Writing. -/

def json (definition : Definition) : Json :=
  .ofMembers [("id", .integer definition.id), ("name", .string definition.name),
    ("cron", .string definition.cron), ("args", .string definition.arguments),
    ("enabled", .bool definition.enabled)]

end Definition

end Rota.Schedule
