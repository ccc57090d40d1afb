/-!
# `ApiReconciler.ArrivalMap` — maps in the order of arrival

A map as a list of pairs. A new key goes to the end, and a key that is set again keeps its place.

## Contents
- `ArrivalMap.get?`, `ArrivalMap.set`, `ArrivalMap.erase`, `ArrivalMap.has`.
- `get?_set_self`, `get?_set_of_ne`, `get?_erase_self`: what is found after a change.
-/

namespace ApiReconciler

/-- A map in the order in which its keys arrived. -/
abbrev ArrivalMap (κ α : Type) := List (κ × α)

namespace ArrivalMap

variable {κ α : Type} [DecidableEq κ]

/-- The value of a key. -/
def get? (key : κ) : ArrivalMap κ α → Option α
  | [] => none
  | (k, v) :: m => if k = key then some v else get? key m

/-- The map with a key set to a value. -/
def set (key : κ) (value : α) : ArrivalMap κ α → ArrivalMap κ α
  | [] => [(key, value)]
  | (k, v) :: m => if k = key then (k, value) :: m else (k, v) :: set key value m

/-- The map without a key. -/
def erase (key : κ) (m : ArrivalMap κ α) : ArrivalMap κ α := m.filter fun p => p.1 ≠ key

/-- Whether a key is there. -/
def has (key : κ) (m : ArrivalMap κ α) : Bool := (get? key m).isSome

/-- The values in order. -/
def values (m : ArrivalMap κ α) : List α := m.map Prod.snd

theorem get?_set_self (key : κ) (value : α) (m : ArrivalMap κ α) :
    get? key (set key value m) = some value := by
  induction m with
  | nil => simp [set, get?]
  | cons p m ih => by_cases h : p.1 = key <;> simp [set, get?, h, ih]

theorem get?_set_of_ne {key other : κ} (value : α) (m : ArrivalMap κ α) (h : other ≠ key) :
    get? other (set key value m) = get? other m := by
  induction m with
  | nil => simp [set, get?, h.symm]
  | cons p m ih =>
    obtain ⟨k, v⟩ := p
    by_cases hp : k = key
    · simp [set, get?, hp, h.symm]
    · by_cases ho : k = other
      · simp [set, get?, ho, h]
      · simp [set, get?, hp, ho, ih]

theorem get?_erase_self (key : κ) (m : ArrivalMap κ α) : get? key (erase key m) = none := by
  induction m with
  | nil => rfl
  | cons p m ih =>
    by_cases h : p.1 = key
    · simpa [erase, h] using ih
    · simpa [erase, h, get?] using ih

end ArrivalMap

end ApiReconciler
