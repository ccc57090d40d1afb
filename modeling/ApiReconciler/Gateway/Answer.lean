import ApiReconciler.Gateway.Call
import ApiReconciler.Value.Display

/-!
# `ApiReconciler.Gateway.Answer` — answers to calls

## Contents
- `ServiceError`: a refusal by the gateway; `CallFault`: a refusal or a lost connection.
- `Answer`: the reply to a call or its fault.
- `CallFailure`: a failed call, with its kind, code and message.
-/

namespace ApiReconciler

/-- A refusal by the gateway. `retries` is the number of retries, when they were used up. -/
structure ServiceError where
  code : Option String
  message : Option String
  retries : Option String
deriving DecidableEq, Repr

/-- What a call may meet instead of a reply. -/
inductive CallFault
  | refused (error : ServiceError)
  | disconnected (text : String)
deriving DecidableEq, Repr

/-- The answer to a call: the members of a reply, or a fault. -/
abbrev Answer := Except CallFault Object

/-- The reply without members. -/
def Answer.empty : Answer := .ok []

/-! ## Refusals -/

/-- A refusal read from the members of an error reply. -/
def ServiceError.ofReply (reply : Object) : ServiceError :=
  let error := ((reply.get? "Error").getD .null).members
  let metadata := ((reply.get? "ResponseMetadata").getD .null).members
  { code := (error.get? "Code").map Value.display
    message := (error.get? "Message").map Value.display
    retries :=
      if ((metadata.get? "MaxAttemptsReached").getD .null).isTruthy then
        (metadata.get? "RetryAttempts").map Value.display
      else none }

/-- The full text of a refusal of an operation. -/
def ServiceError.text (operation : String) (e : ServiceError) : String :=
  "An error occurred (" ++ e.code.getD "Unknown" ++ ") when calling the " ++ operation ++
    " operation" ++
    (match e.retries with
      | none => ""
      | some n => " (reached max retries: " ++ n ++ ")") ++
    ": " ++ e.message.getD "Unknown"

/-- The message of a refusal, or its full text when it carries none. -/
def ServiceError.reason (operation : String) (e : ServiceError) : String :=
  match e.message with
  | none => e.text operation
  | some m => if m = "" then e.text operation else m

/-! ## Failed calls -/

/-- A failed call. -/
structure CallFailure where
  operation : String
  fault : CallFault
deriving DecidableEq, Repr

/-- The kinds of failed calls that are told apart. -/
inductive CallFailureKind
  | notFound
  | conflict
  | other
deriving DecidableEq, Repr

namespace CallFailure

/-- The codes that say that the addressed object does not exist. -/
def notFoundCodes : List String := ["NotFoundException", "ResourceNotFoundException"]

/-- The codes that say that the object already exists. -/
def conflictCodes : List String := ["ConflictException"]

/-- The code of a refusal; empty without one. -/
def code (f : CallFailure) : String :=
  match f.fault with
  | .refused e => e.code.getD ""
  | .disconnected _ => ""

/-- The kind of a failed call, by its code. -/
def kind (f : CallFailure) : CallFailureKind :=
  match f.fault with
  | .refused _ =>
    if f.code ∈ notFoundCodes then .notFound
    else if f.code ∈ conflictCodes then .conflict
    else .other
  | .disconnected _ => .other

/-- The failure in words. -/
def message (f : CallFailure) : String :=
  match f.fault with
  | .disconnected text => f.operation ++ " failed: " ++ text
  | .refused e =>
    match f.kind with
    | .other => f.operation ++ " failed (" ++ f.code ++ "): " ++ e.reason f.operation
    | _ => f.operation ++ ": " ++ e.reason f.operation

end CallFailure

end ApiReconciler
