import ApiReconciler.Failure

/-!
# `ApiReconciler.Note` — what is logged

## Contents
- `Note`: an event worth a line in the log; `Note.level` and `Note.message` give the line.
-/

namespace ApiReconciler

/-- How much a note matters. -/
inductive Level
  | info
  | warning
  | error
deriving DecidableEq, Repr

/-- An event worth a line in the log. -/
inductive Note
  | importWarning (name api warning : String)
  | imported (name api : String)
  | reimportWarning (api warning : String)
  | reimported (name api : String)
  | authorizersSynchronized (api : String) (required created deleted : Nat)
  | withoutAuthorizer (verb path : String)
  | bound (api : String) (methods : Nat)
  | deployed (api stage deployment : String)
  | superseded (api : String) (deployments : List String)
  | deploymentsUnlisted (api : String) (cause : CallFailure)
  | deploymentUndeleted (deployment api : String) (cause : CallFailure)
  | stageDeleted (stage api : String)
  | undeployed (api : String)
  | apiDeleted (api : String)
  | rollingBack (api : String)
  | rollbackFailed (api : String) (cause : CallFailure)
  | importFailed (api : String) (failure : Failure)
  | deploying (name : String)
  | redeploying (name : String)
  | noEndpoint (name : String)
  | skipped (api : String)
  | notDiscovered (api : String) (failure : Failure)
deriving DecidableEq, Repr

namespace Note

/-- How much a note matters. -/
def level : Note → Level
  | .importWarning .. | .reimportWarning .. | .superseded .. | .deploymentsUnlisted ..
  | .deploymentUndeleted .. | .importFailed .. | .noEndpoint .. | .notDiscovered .. => .warning
  | .rollbackFailed .. => .error
  | _ => .info

/-- The line of a note. -/
def message (wording : Wording) : Note → String
  | .importWarning name api warning =>
    "Import warning for API " ++ name ++ " (" ++ api ++ "): " ++ warning
  | .imported name api => "Imported API " ++ name ++ " as " ++ api
  | .reimportWarning api warning => "Reimport warning for API " ++ api ++ ": " ++ warning
  | .reimported name api => "Reimported API " ++ name ++ " over " ++ api
  | .authorizersSynchronized api required created deleted =>
    "Authorizers for API " ++ api ++ ": " ++ toString required ++ " required, " ++
      toString created ++ " created, " ++ toString deleted ++ " deleted"
  | .withoutAuthorizer verb path =>
    "No authorizer for " ++ verb ++ " " ++ path ++ " at API or resource level"
  | .bound api methods => "Bound " ++ toString methods ++ " methods on API " ++ api
  | .deployed api stage deployment =>
    "Deployed API " ++ api ++ " to stage " ++ stage ++ " as " ++ deployment
  | .superseded api deployments =>
    "API " ++ api ++ " still has superseded deployments: " ++ ", ".intercalate deployments
  | .deploymentsUnlisted api cause =>
    "Cannot list deployments of API " ++ api ++ ": " ++ cause.message
  | .deploymentUndeleted deployment api cause =>
    "Failed to delete superseded deployment " ++ deployment ++ " of API " ++ api ++ ": " ++
      cause.message
  | .stageDeleted stage api => "Deleted stage " ++ stage ++ " of API " ++ api
  | .undeployed api => "Undeployed API " ++ api
  | .apiDeleted api => "Deleted API " ++ api
  | .rollingBack api => "Rolling back import of API " ++ api
  | .rollbackFailed api cause =>
    "Rollback of API " ++ api ++ " failed; manual cleanup required: " ++ cause.message
  | .importFailed api failure =>
    "Import of API " ++ api ++ " failed: " ++ failure.message wording
  | .deploying name => "Deploying API " ++ name ++ " to AWS API Gateway"
  | .redeploying name => "Redeploying API " ++ name ++ " to AWS API Gateway"
  | .noEndpoint name => "No endpoint URLs found for API: " ++ name
  | .skipped api => "Skipping API " ++ api ++ ": not deployed to any stage"
  | .notDiscovered api failure =>
    "Failed to discover API " ++ api ++ ": " ++ failure.message wording

end Note

end ApiReconciler
