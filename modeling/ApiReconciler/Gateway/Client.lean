import ApiReconciler.Gateway.Program
import ApiReconciler.Settings

/-!
# `ApiReconciler.Gateway.Client` — opening a client

## Contents
- `Settings.clientOptions`: the options of a client for given settings.
- `openClient`: a session and a client in it.
-/

namespace ApiReconciler

/-- A text that is given and not empty. -/
def nonempty? : Option String → Option String
  | none => none
  | some s => if s = "" then none else some s

/-- The key pair of settings that give both keys. -/
def Settings.keys (s : Settings) : Option (String × String) :=
  match nonempty? s.accessKey, nonempty? s.secretKey with
  | some access, some secret => some (access, secret)
  | _, _ => none

/-- The options of a client for given settings. -/
def Settings.clientOptions (s : Settings) : ClientOptions :=
  ⟨s.connectTimeout, s.readTimeout, s.maxAttempts, s.keys⟩

/-- What a fault met while opening a client means. -/
def openingFailure (operation : String) : CallFault → Failure
  | .disconnected text => .configuration (.noClient text)
  | .refused e => .clientRefused operation e

/-- Makes one of the calls that open a client. -/
def openingCall (c : Call) : Program Unit :=
  .call c fun answer =>
    match answer with
    | .ok _ => .done ()
    | .error fault => .fail (openingFailure c.operation.name fault)

/-- Opens a client. The number of attempts is checked before any call. -/
def openClient (s : Settings) : Program Unit :=
  if s.maxAttempts < 0 then .fail (.negativeAttempts s.maxAttempts)
  else do
    openingCall (.openSession s.region (nonempty? s.profile))
    openingCall (.openClient s.clientOptions)

end ApiReconciler
