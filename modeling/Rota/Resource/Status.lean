/-!
Statuses of managed resources, the operations asked of them, and the table of the
transitions that are allowed.
-/

namespace Rota.Resource

/-- A resource that is `absent` has no record, or is not managed. -/
inductive Status where
  | absent
  | createDraft
  | updateDraft
  | deleteDraft
  | published
deriving DecidableEq, Repr

inductive Operation where
  | create
  | update
  | delete
  | revert
  | publish
deriving DecidableEq, Repr

inductive StatusError where
  | demoProtected (resource : String) (warning : String)
  | readOnly
  | illegalTransition (origin : Status) (operation : Operation)
  | unknownStatus (text : String)
  | unknownOperation (text : String)
deriving DecidableEq, Repr

namespace Status

def all : List Status := [absent, createDraft, updateDraft, deleteDraft, published]

def text : Status → String
  | absent => ""
  | createDraft => "create_draft"
  | updateDraft => "update_draft"
  | deleteDraft => "delete_draft"
  | published => "success"

def isDraft : Status → Bool
  | createDraft => true
  | updateDraft => true
  | deleteDraft => true
  | _ => false

def parse (text : String) : Except StatusError Status :=
  match all.find? (·.text == text) with
  | some status => .ok status
  | none => .error (.unknownStatus text)

end Status

namespace Operation

def all : List Operation := [create, update, delete, revert, publish]

def text : Operation → String
  | create => "create"
  | update => "update"
  | delete => "delete"
  | revert => "revert"
  | publish => "publish"

def parse (text : String) : Except StatusError Operation :=
  match all.find? (·.text == text) with
  | some operation => .ok operation
  | none => .error (.unknownOperation text)

end Operation

def StatusError.message : StatusError → String
  | demoProtected resource warning =>
    warning ++ ": resource '" ++ resource ++
      "' is protected, create your own resource to try this operation"
  | readOnly => "gateway is read-only, changes are not allowed"
  | illegalTransition origin operation =>
    let status := if origin = .absent then "none" else origin.text
    "operation '" ++ operation.text ++ "' is not allowed for a resource in status '" ++ status ++
      "'"
  | unknownStatus text => "unknown resource status: " ++ text
  | unknownOperation text => "unknown operation: " ++ text

structure Transition where
  origin : Status
  operation : Operation
  target : Status
deriving DecidableEq, Repr

/-- Every allowed transition. A status is never listed as its own target. -/
def transitions : List Transition :=
  [{ origin := .absent, operation := .create, target := .createDraft },
    { origin := .published, operation := .delete, target := .deleteDraft },
    { origin := .createDraft, operation := .delete, target := .absent },
    { origin := .published, operation := .update, target := .updateDraft },
    { origin := .updateDraft, operation := .revert, target := .published },
    { origin := .deleteDraft, operation := .revert, target := .published },
    { origin := .updateDraft, operation := .publish, target := .published },
    { origin := .createDraft, operation := .publish, target := .published },
    { origin := .deleteDraft, operation := .publish, target := .published }]

def target? (origin : Status) (operation : Operation) : Option Status :=
  let row := transitions.find? fun transition =>
    transition.origin = origin && transition.operation = operation
  row.map Transition.target

structure Snapshot where
  id : String
  status : Status
deriving DecidableEq, Repr

def Snapshot.isAbsent (snapshot : Snapshot) : Bool := snapshot.status = .absent

end Rota.Resource
