import ApiReconciler.Value.Basic

/-!
# `ApiReconciler.Resource` — the resources of an API on the gateway

## Contents
- `Method`, `Resource`; `Resource.hasMethods`, `withMethods`.
-/

namespace ApiReconciler

/-- A method of a resource with the request parameters it declares. -/
structure Method where
  verb : String
  parameters : Object
deriving Repr

/-- The names of the request parameters in order. -/
def Method.parameterNames (m : Method) : List String :=
  m.parameters.filterMap fun p => (Value.scalar p.1).text?

/-- A resource of an API with its methods. -/
structure Resource where
  id : String
  path : String
  methods : List Method
deriving Repr

/-- Whether a resource exposes any method. -/
def Resource.hasMethods (r : Resource) : Bool := !r.methods.isEmpty

/-- The resources that expose methods. -/
def withMethods (rs : List Resource) : List Resource := rs.filter Resource.hasMethods

end ApiReconciler
