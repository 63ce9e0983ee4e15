import FlowCollector.Sum
import FlowCollector.Table

/-!
# Tallies

A tally counts, for each key, how often it came up. A key that never came up has no entry, which is not the same as an
entry of zero: adding nothing leaves a tally as it is, so the keys with an entry are those that count more than zero.

Counts are natural numbers, without the bound of 64 bits that the words of the program have.
-/

set_option autoImplicit false

namespace FlowCollector

/-- Counts by key, with an entry for each key that came up. -/
abbrev Tally (κ : Type) [Ranked κ] := Table κ Nat

namespace Tally

variable {κ : Type} [Ranked κ]

/-- How often a key came up, zero for one without an entry. -/
def count (tally : Tally κ) (key : κ) : Nat := (tally.get? key).getD 0

/-- Counts a key so many times more. Nothing is added for an amount of zero, not even an entry. -/
def add (tally : Tally κ) (key : κ) (amount : Nat) : Tally κ :=
  if amount = 0 then tally else tally.insert key (count tally key + amount)

/-- How often keys came up, all together: the sum of the counts. -/
def total (tally : Tally κ) : Nat := sumOf (·.2) tally.entries

end Tally

end FlowCollector
