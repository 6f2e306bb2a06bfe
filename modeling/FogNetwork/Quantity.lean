/-! Sizes, delays and totals are whole numbers of 64 bits. A sum that leaves that range has no
value; a product is cut off at its upper end. -/

namespace FogNetwork

def largest : Nat := 18446744073709551615

def sum? (left right : Nat) : Option Nat :=
  if left + right ≤ largest then some (left + right) else none

def clampedProduct (left right : Nat) : Nat := min (left * right) largest

theorem sum?_eq_some_iff {left right total : Nat} :
    sum? left right = some total ↔ left + right ≤ largest ∧ total = left + right := by
  simp only [sum?]
  split
  · rename_i fits
    simp [fits, eq_comm]
  · rename_i exceeds
    simp [exceeds]

theorem sum?_eq_none_iff {left right : Nat} : sum? left right = none ↔ largest < left + right := by
  simp [sum?]

end FogNetwork
