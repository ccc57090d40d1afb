import ApiReconciler.Calendar
import ApiReconciler.Text.Quoted

/-!
# `ApiReconciler.Yaml.Error` — why a text is no YAML document

## Contents
- `Yaml.Error`: a malformed document, or a scalar that looks like a number or a date and is none.
-/

namespace ApiReconciler.Yaml

/-- Why a text is no document. -/
inductive Error
  | malformed
  | numeral (base : Nat) (text : String)
  | longNumeral (digits : Nat)
  | float (text : String)
  | calendar (e : CalendarError)
deriving DecidableEq, Repr

/-- The reason in words; the place of a malformed document is not kept. -/
def Error.message : Error → String
  | .malformed => "malformed document"
  | .numeral base text =>
    "invalid literal for int() with base " ++ toString base ++ ": " ++ Text.quoted text
  | .longNumeral digits =>
    "Exceeds the limit (4300 digits) for integer string conversion: value has " ++
      toString digits ++ " digits; use sys.set_int_max_str_digits() to increase the limit"
  | .float text => "could not convert string to float: " ++ Text.quoted text
  | .calendar e => e.message

end ApiReconciler.Yaml
