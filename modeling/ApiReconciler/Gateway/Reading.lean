import ApiReconciler.Gateway.Program

/-!
# `ApiReconciler.Gateway.Reading` — replies that hold more than members

## Contents
- `Program.stages`: the stages of an API.
- `Program.exported`: the document of an API, read from the body of the reply.
-/

namespace ApiReconciler.Program

/-- The stages of an API, an empty list when the reply has none. -/
def stages (api : String) : Program Value := do
  let reply ← perform (.getStages api)
  return (reply.get? "item").getD (.list [])

/-- The document in the body of a reply; a stream is read and decoded. -/
def documentOfBody : Option Value → Program Value
  | none => .fail (.missingMember "body")
  | some (.scalar (.stream bytes)) =>
    match Text.ofUtf8? bytes with
    | some text => .done (.text text)
    | none => .fail .undecodable
  | some v => .done v

/-- The document of a stage of an API in a given format. -/
def exported (api stage format accepts : String) : Program Value := do
  let reply ← perform (.exportApi api stage format accepts)
  documentOfBody (reply.get? "body")

end ApiReconciler.Program
