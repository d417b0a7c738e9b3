import HermesRpt.Common.Python
import Mathlib.Algebra.Field.Rat

/-!
# HermesRpt.Ontology.Units

The unit conversion layer: distance in kilometres, volume in litres, mass in kilograms. Floats are
modelled by rationals, so a conversion is exact.
-/

namespace HermesRpt

namespace Ontology

/-- The unit vocabulary of ontology fields; every member is canonical. -/
inductive CanonicalUnit where
  | kilometres | litres | kilograms
  deriving DecidableEq, Repr

def CanonicalUnit.value : CanonicalUnit → String
  | .kilometres => "kilometres"
  | .litres => "litres"
  | .kilograms => "kilograms"

/-- `_TO_CANONICAL_DISTANCE`, by the unit's name. -/
def toCanonicalDistance : List (String × ℚ) := [("kilometres", 1), ("miles", 1609344 / 1000000)]

/-- `_TO_CANONICAL_VOLUME` -/
def toCanonicalVolume : List (String × ℚ) :=
  [("litres", 1), ("us_gallons", 3785411784 / 1000000000), ("uk_gallons", 454609 / 100000)]

/-- `_TO_CANONICAL_MASS` -/
def toCanonicalMass : List (String × ℚ) := [("kilograms", 1), ("pounds", 45359237 / 100000000)]

/-- The family of units a canonical unit belongs to, with each member's factor. -/
def unitFamily : CanonicalUnit → List (String × ℚ)
  | .kilometres => toCanonicalDistance
  | .litres => toCanonicalVolume
  | .kilograms => toCanonicalMass

/-- `_unsupported_unit_error` -/
def unsupportedUnitError (sourceUnit : String) (canonicalUnit : CanonicalUnit) : PyError :=
  ⟨.ValueError, reprStr sourceUnit ++ " is not a valid unit for " ++
    reprStr canonicalUnit.value ++ " (expected one of " ++
    reprStrList ((unitFamily canonicalUnit).map Prod.fst) ++ ")"⟩

/-- `convert_distance`, `convert_volume` and `convert_mass` to the family's canonical unit: times
the factor of the source unit, divided by the factor of the canonical unit. -/
def convert (family : List (String × ℚ)) (value : ℚ) (fromUnit toUnit : String) : Option ℚ := do
  let from' ← family.lookup fromUnit
  let to' ← family.lookup toUnit
  return value * from' / to'

def convertToCanonical (value : ℚ) (sourceUnit : String) (canonicalUnit : CanonicalUnit) :
    Except PyError ℚ :=
  match convert (unitFamily canonicalUnit) value sourceUnit canonicalUnit.value with
  | some converted => .ok converted
  | none => .error (unsupportedUnitError sourceUnit canonicalUnit)

/-- A conversion is a multiplication by the source unit's factor. -/
theorem convertToCanonical_ok {value converted : ℚ} {sourceUnit : String} {u : CanonicalUnit} :
    convertToCanonical value sourceUnit u = .ok converted ↔
      ∃ factor, (unitFamily u).lookup sourceUnit = some factor ∧ converted = value * factor := by
  have h1 : (unitFamily u).lookup u.value = some 1 := by cases u <;> rfl
  unfold convertToCanonical convert
  cases h : (unitFamily u).lookup sourceUnit with
  | none => simp
  | some factor => simp [h1, div_one, eq_comm]

/-- No unit has factor zero: two values convert to the same only if they are the same. -/
theorem unitFactor_pos {u : CanonicalUnit} {sourceUnit : String} {factor : ℚ}
    (h : (unitFamily u).lookup sourceUnit = some factor) : 0 < factor := by
  have pos : ∀ p ∈ unitFamily u, 0 < p.2 := by
    cases u <;> decide +kernel
  have : ∀ l : List (String × ℚ), (∀ p ∈ l, 0 < p.2) → l.lookup sourceUnit = some factor →
      0 < factor := by
    intro l
    induction l with
    | nil => intro _ h; cases h
    | cons p l ih =>
      intro hl hlook
      rw [List.lookup_cons] at hlook
      split at hlook
      · cases hlook; exact hl p (by simp)
      · exact ih (fun q hq => hl q (by simp [hq])) hlook
  exact this _ pos h

end Ontology

end HermesRpt
