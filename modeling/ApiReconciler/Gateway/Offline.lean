import ApiReconciler.Gateway.Program

/-!
# `ApiReconciler.Gateway.Offline` — no gateway at all

A client opens without a connection, and every other call then fails for the lack of one. Programs
that stay within definitions and references run to their end against this backend.

## Contents
- `offline`: the backend without a connection.
-/

namespace ApiReconciler

/-- What a call meets without a connection. -/
def noConnection : CallFault := .disconnected "No connection to the gateway"

/-- The backend without a connection. -/
def offline : Backend Unit where
  answer c s :=
    match c.operation with
    | .openSession | .openClient => (Answer.empty, s)
    | _ => (.error noConnection, s)
  list l s := (.error noConnection, [.page l none], s)

end ApiReconciler
