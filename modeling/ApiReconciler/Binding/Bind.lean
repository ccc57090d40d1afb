import ApiReconciler.Gateway.Program
import ApiReconciler.Resource

/-!
# `ApiReconciler.Binding.Bind` — methods bound to their backend

A resource that exposes methods gets a preflight answer for cross-origin requests, and each of its
methods an integration with the backend, a plain response, its authorizer and the header that
admits other origins.

## Contents
- `configurePreflight`, `bindMethod`: what is done for a resource, and for a method.
- `bindAll`: all methods of all resources; the result is their number.
-/

namespace ApiReconciler

open Program (perform)

/-- The verb of preflight requests. -/
def preflightVerb : String := "OPTIONS"

/-- The status of the responses that are set up. -/
def statusOk : String := "200"

/-- The content type of templates. -/
def jsonType : String := "application/json"

/-- A response header as a parameter. -/
def responseHeader (name : String) : String := "method.response.header." ++ name

/-- The header with the request headers that are admitted. -/
def allowHeaders : String := responseHeader "Access-Control-Allow-Headers"

/-- The header with the verbs that are admitted. -/
def allowMethods : String := responseHeader "Access-Control-Allow-Methods"

/-- The header with the origins that are admitted. -/
def allowOrigin : String := responseHeader "Access-Control-Allow-Origin"

/-- The request headers that are admitted. -/
def admittedHeaders : String :=
  "Content-Type,X-Amz-Date,Authorization,X-Api-Key,X-Amz-Security-Token"

/-- A literal value of a parameter. -/
def literal (text : String) : String := "'" ++ text ++ "'"

/-- A patch that adds a response parameter. -/
def addResponseParameter (name value : String) : Patch :=
  ⟨"add", some ("/responseParameters/" ++ name), some value⟩

/-- A truth value in a patch. -/
def truthText (b : Bool) : String := if b then "true" else "false"

/-! ## Responses -/

/-- Declares the parameters of a method's response; one that is already there is changed. -/
def declareResponse (m : MethodRef) (parameters : List (String × Bool)) : Program Unit :=
  Program.rescueCall
    (do let _ ← perform (.putMethodResponse m statusOk parameters))
    fun f =>
      if f.kind = .conflict then do
        let _ ← perform (.updateMethodResponse m statusOk
          (parameters.map fun p => addResponseParameter p.1 (truthText p.2)))
      else .fail (.call f)

/-! ## Preflight -/

/-- A text inserted in a sorted list of texts, once. -/
def insertText (s : String) : List String → List String
  | [] => [s]
  | t :: ts => if s = t then t :: ts else if s < t then s :: t :: ts else t :: insertText s ts

/-- The verbs of a resource and the preflight verb, sorted, each once. -/
def admittedVerbs (verbs : List String) : List String :=
  verbs.foldr insertText [preflightVerb]

/-- The answer to preflight requests, made up by the gateway itself. -/
def preflightIntegration : Integration where
  kind := "MOCK"
  uri := none
  verb := none
  parameters := none
  templates := some [(jsonType, "\x7b\"statusCode\": 200\x7d")]

/-- Sets up the answer to preflight requests on a resource. A resource that declares the verb
itself is left to the binding of its methods. -/
def configurePreflight (api : String) (r : Resource) : Program Unit :=
  let verbs := r.methods.map Method.verb
  if preflightVerb ∈ verbs then .done ()
  else do
    let m : MethodRef := ⟨api, r.id, preflightVerb⟩
    let _ ← perform (.putMethod m "NONE")
    let _ ← perform (.putIntegration m preflightIntegration)
    declareResponse m [(allowHeaders, false), (allowMethods, false), (allowOrigin, false)]
    let _ ← perform (.putIntegrationResponse m statusOk (some [(jsonType, "")])
      (some [(allowHeaders, literal admittedHeaders),
        (allowMethods, literal (",".intercalate (admittedVerbs verbs))),
        (allowOrigin, literal "*")]))

/-! ## Methods -/

/-- The integration of a method with its backend. -/
def backendIntegration (baseUrl path verb : String) (mappings : TextMap) : Integration where
  kind := "HTTP"
  uri := some (baseUrl ++ path)
  verb := some verb
  parameters := some mappings
  templates := none

/-- The patches that put a method under an authorizer. -/
def authorizationPatches (id : String) : List Patch :=
  [⟨"replace", some "/authorizationType", some "CUSTOM"⟩,
    ⟨"replace", some "/authorizerId", some id⟩]

/-- Puts a method under its authorizer, if it has one. -/
def attachAuthorizer (m : MethodRef) (path : String) (b : Bindings) : Program Unit :=
  match b.resolve path m.verb with
  | none => Program.log (.withoutAuthorizer m.verb path)
  | some id => do
    let _ ← perform (.updateMethod m (authorizationPatches id))

/-- Lets a method's response admit other origins. -/
def admitOrigins (m : MethodRef) : Program Unit := do
  declareResponse m [(allowOrigin, false)]
  let _ ← perform (.updateIntegrationResponse m statusOk
    [addResponseParameter allowOrigin (literal "*")])

/-- The mappings of a method's request parameters, a later one of a name replacing an earlier
one. -/
def Method.mappings (m : Method) : Except MappingFault TextMap :=
  (mapRequestParameters m.parameterNames).map fun ms =>
    ms.foldl (fun acc p => ArrivalMap.set p.1 p.2 acc) []

/-- Binds a method to the backend. -/
def bindMethod (api : String) (r : Resource) (method : Method) (baseUrl : String) (b : Bindings) :
    Program Unit := do
  let mappings ← Program.ofExcept (method.mappings.mapError .mapping)
  let m : MethodRef := ⟨api, r.id, method.verb⟩
  let _ ← perform (.putIntegration m (backendIntegration baseUrl r.path method.verb mappings))
  let _ ← perform (.putIntegrationResponse m statusOk (some [(jsonType, "")]) none)
  attachAuthorizer m r.path b
  admitOrigins m

/-- Binds methods of a resource. -/
def bindMethods (api : String) (r : Resource) (baseUrl : String) (b : Bindings) :
    List Method → Program Unit
  | [] => .done ()
  | method :: methods => do
    bindMethod api r method baseUrl b
    bindMethods api r baseUrl b methods

/-! ## Resources -/

/-- Binds a resource. -/
def bindResource (api : String) (baseUrl : String) (b : Bindings) (r : Resource) : Program Unit :=
  Program.relabel
    (do
      configurePreflight api r
      bindMethods api r baseUrl b r.methods)
    fun cause => .binding ⟨r.path, api, cause⟩

/-- Binds resources one after the other. -/
def bindEach (api : String) (baseUrl : String) (b : Bindings) : List Resource → Program Unit
  | [] => .done ()
  | r :: rs => do
    bindResource api baseUrl b r
    bindEach api baseUrl b rs

/-- The number of methods of resources. -/
def methodCount (rs : List Resource) : Nat := (rs.map fun r => r.methods.length).foldl (· + ·) 0

/-- Binds every method of every resource and gives their number. -/
def bindAll (api : String) (rs : List Resource) (baseUrl : String) (b : Bindings) : Program Nat := do
  bindEach api baseUrl b (withMethods rs)
  let count := methodCount rs
  Program.log (.bound api count)
  return count

end ApiReconciler
