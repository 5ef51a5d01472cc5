import Rota.Task.Registry

/-!
Probes: tasks and jobs that record how they were called and then succeed, fail, sleep or panic,
so that an observer can follow what a registry or a schedule does.
-/

namespace Rota.Task

inductive Behaviour where
  | any
  | count
  | echo
  | pair
  | optional
  | fail
  | sleep
  | panic (cause : Panic)
deriving DecidableEq, Repr

def Panic.static : Panic := .text "static boom"

def Panic.owned : Panic := .text "owned boom 1"

def Panic.parse : String → Option Panic
  | "panic_str" => some .static
  | "panic_string" => some .owned
  | "panic_other" => some .other
  | _ => none

namespace Behaviour

def parameters : Behaviour → Parameters
  | count => .tuple [.size]
  | echo => .tuple [.text]
  | pair => .tuple [.signed 64, .boolean]
  | optional => .tuple [.signed 8, .optionalText]
  | sleep => .tuple [.unsigned 32]
  | _ => .anyList

def run (behaviour : Behaviour) (task : String) (values : List Json) : Work :=
  match behaviour, values with
  | sleep, [.integer duration] =>
    .record (.called task [.string "begin", .integer duration])
      (.sleep duration.toNat (.record (.called task [.string "end", .integer duration]) .finish))
  | fail, _ =>
    .record (.called task values) (.fail (.failed ("nope " ++ toString values.length)))
  | panic cause, _ => .record (.called task values) (.panic cause)
  | _, _ => .record (.called task values) .finish

def handler (behaviour : Behaviour) (task : String) : Handler :=
  { parameters := behaviour.parameters, run := behaviour.run task }

def parse (text : String) : Option Behaviour :=
  match text with
  | "any" => some any
  | "count" => some count
  | "echo" => some echo
  | "pair" => some pair
  | "opt" => some optional
  | "fail" => some fail
  | "sleep" => some sleep
  | _ => (Panic.parse text).map panic

end Behaviour

/-- Adds two numbers, if their sum fits into 64 bits. -/
def add : Handler where
  parameters := .tuple [.unsigned 64, .unsigned 64]
  run values := match values with
    | [.integer left, .integer right] =>
      let sum := left.toNat + right.toNat
      if sum < Decimal.wordLimit then .record (.summed sum) .finish
      else .fail (.failed "sum overflows")
    | _ => .finish

open Rota.Schedule in
/-- What an engine entry does when it is fired: it records that, and may then sleep, remove an
entry or panic. -/
def firedJob (name kind : String) (duration : Nat) (target : EntryId) : Work :=
  .record (.fired name) <| match kind with
    | "sleep" => .sleep duration (.record (.finished name) .finish)
    | "remove" => .removeEntry target fun present => .record (.removed present) .finish
    | _ => match Panic.parse kind with
      | some cause => .panic cause
      | none => .finish

def delayedJob (name kind : String) (duration : Nat) : Work :=
  .sleep duration <| match Panic.parse kind with
    | some cause => .panic cause
    | none => .record (.done name) .finish

end Rota.Task
