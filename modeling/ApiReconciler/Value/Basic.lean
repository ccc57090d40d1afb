import ApiReconciler.Calendar
import ApiReconciler.Number.Double

/-!
# `ApiReconciler.Value.Basic` — dynamic values

The values of definition files, of policy parameters and of the gateway's replies, whose shape is
known only when they arrive.

## Contents
- `Scalar`, `Value`, `Object`: scalars, and lists and ordered objects over them. The keys of an
  object are scalars, as YAML allows.
- `Scalar.same`: when two keys are one key.
- `Object.get?`, `Object.set`, `Object.erase`: members by key; `Object.ofList`: the last of several
  members with one key wins, in the place of the first.
- `Value.isTruthy`: whether a value counts as given.
-/

namespace ApiReconciler

/-- A value without parts. A `stream` is a body that has to be read to get its bytes. -/
inductive Scalar
  | null
  | bool (b : Bool)
  | int (n : Int)
  | float (x : Double)
  | text (s : String)
  | date (d : Date)
  | moment (m : Moment)
  | bytes (bs : List UInt8)
  | stream (bs : List UInt8)
deriving DecidableEq, Repr

/-- A scalar, a list, or an object with its members in order. -/
inductive Value
  | scalar (s : Scalar)
  | list (xs : List Value)
  | object (ms : List (Scalar × Value))
deriving Repr

/-- The members of an object in order. -/
abbrev Object := List (Scalar × Value)

namespace Value

/-- The absent value. -/
@[match_pattern] abbrev null : Value := .scalar .null

/-- A truth value. -/
@[match_pattern] abbrev bool (b : Bool) : Value := .scalar (.bool b)

/-- An integer. -/
@[match_pattern] abbrev int (n : Int) : Value := .scalar (.int n)

/-- A floating-point number. -/
@[match_pattern] abbrev float (x : Double) : Value := .scalar (.float x)

/-- A text. -/
@[match_pattern] abbrev text (s : String) : Value := .scalar (.text s)

instance : Inhabited Value := ⟨null⟩

end Value

/-! ## Keys -/

/-- The integer that a scalar is equal to, when it is a truth value or an integral number. -/
def Scalar.integer? : Scalar → Option Int
  | .bool b => some (if b then 1 else 0)
  | .int n => some n
  | .float x => x.integer?
  | _ => none

/-- Equality of keys: numbers and truth values are compared by value, and a not-a-number equals
nothing. -/
def Scalar.same (a b : Scalar) : Bool :=
  match a.integer?, b.integer? with
  | some m, some n => m = n
  | none, none => a ≠ .float .nan && a = b
  | _, _ => false

/-! ## Members -/

namespace Object

/-- The member of a text key. -/
def get? (key : String) : Object → Option Value
  | [] => none
  | (k, v) :: ms => if k = .text key then some v else get? key ms

/-- The member of a key set to a value: in its place if it is there, at the end otherwise. -/
def set (key : Scalar) (value : Value) : Object → Object
  | [] => [(key, value)]
  | (k, v) :: ms => if k.same key then (k, value) :: ms else (k, v) :: set key value ms

/-- Without the member of a text key. -/
def erase (key : String) (ms : Object) : Object := ms.filter (fun m => m.1 ≠ .text key)

/-- The members of a list, the last one of each key, in the order of first arrival. -/
def ofList (ms : List (Scalar × Value)) : Object :=
  ms.foldl (fun o m => set m.1 m.2 o) []

/-- Whether there is a member of a text key. -/
def has (key : String) (ms : Object) : Bool := (get? key ms).isSome

end Object

/-! ## Views of a value -/

namespace Value

/-- Whether a value counts as given: not null, false, zero or empty. -/
def isTruthy : Value → Bool
  | .scalar .null => false
  | .scalar (.bool b) => b
  | .scalar (.int n) => n ≠ 0
  | .scalar (.float x) => x.isNonzero
  | .scalar (.text s) => s ≠ ""
  | .scalar (.bytes bs) => bs ≠ []
  | .scalar _ => true
  | .list xs => !xs.isEmpty
  | .object ms => !ms.isEmpty

/-- The text, if the value is one. -/
def text? : Value → Option String
  | .text s => some s
  | _ => none

/-- The elements of a list; nothing else has any. -/
def elements : Value → List Value
  | .list xs => xs
  | _ => []

/-- The members of an object; nothing else has any. -/
def members : Value → Object
  | .object ms => ms
  | _ => []

/-- A list of texts. -/
def texts (xs : List String) : Value := .list (xs.map .text)

/-- An object with text keys. -/
def record (ms : List (String × Value)) : Value :=
  .object (ms.map fun m => (.text m.1, m.2))

/-- An optional text, null when it is absent. -/
def optionalText : Option String → Value
  | none => .null
  | some s => .text s

end Value

/-! ## Small laws of members -/

namespace Object

@[simp] theorem get?_nil (key : String) : get? key [] = none := rfl

theorem get?_cons (key : String) (k : Scalar) (v : Value) (ms : Object) :
    get? key ((k, v) :: ms) = if k = .text key then some v else get? key ms := rfl

/-- A member that was set is found. -/
theorem get?_set_self (key : String) (v : Value) (ms : Object) :
    get? key (set (.text key) v ms) = some v := by
  induction ms with
  | nil => simp [set, get?]
  | cons m ms ih =>
    obtain ⟨k, w⟩ := m
    by_cases h : k.same (.text key) = true
    · have hk : k = .text key := by
        cases k <;> simp_all [Scalar.same, Scalar.integer?]
        split at h <;> simp_all
      simp [set, get?, hk, Scalar.same, Scalar.integer?]
    · have hk : k ≠ .text key := by
        rintro rfl
        exact h (by simp [Scalar.same, Scalar.integer?])
      simp [set, get?, h, hk, ih]

/-- An erased member is not found. -/
theorem get?_erase_self (key : String) (ms : Object) : get? key (erase key ms) = none := by
  induction ms with
  | nil => rfl
  | cons m ms ih =>
    obtain ⟨k, w⟩ := m
    by_cases h : k = .text key
    · simpa [erase, h] using ih
    · simpa [erase, h, get?] using ih

end Object

end ApiReconciler
