import FlowCollector.Text.Numeral

/-!
# Health

How a collector is doing, in one of three words and a reason. The queue of records is what tells: a collector whose
consumer does not keep up is degraded before anything is lost (`Health.ofOccupancy`). In the program it also tells
when a worker that receives datagrams has exited; see `Collector.health` for why it does not here.

The share of the queue that is taken is worked out in binary, with fifty-three digits, and that is not always the
share: 97.25 % of a queue is a tie between 97.2 and 97.3, which goes to the even digit, while a share that only looks
like a tie in decimal falls to the side on which its binary form lies.
-/

set_option autoImplicit false

namespace FlowCollector

/-- How a collector is doing, as `Collector.health` tells it. -/
inductive Health where
  | healthy
  | degraded (reason : String)
  | unhealthy (reason : String)
  deriving DecidableEq, Repr

namespace Health

def isHealthy : Health → Bool
  | healthy => true
  | _ => false

def isUnhealthy : Health → Bool
  | unhealthy _ => true
  | _ => false

/-- Health in words, as a report has it. -/
def text : Health → String
  | healthy => "healthy"
  | degraded reason => s!"degraded: {reason}"
  | unhealthy reason => s!"unhealthy: {reason}"

/-- A quotient rounded to a whole number. A half goes to the even neighbour, as in binary arithmetic. -/
def roundedQuotient (dividend divisor : Nat) : Nat :=
  let quotient := dividend / divisor
  let twice := 2 * (dividend % divisor)
  if divisor < twice ∨ (twice = divisor ∧ quotient % 2 = 1) then quotient + 1 else quotient

/-- True when more than nine tenths of a queue are taken. -/
def isCrowded (length capacity : Nat) : Bool := 9 * capacity < 10 * length

/-- The share of a queue that `isCrowded`, in tenths of a percent. The share lies between a half and one, and the
percentage between 64 and 128, which fixes the last binary place of either. -/
def occupancyTenths (length capacity : Nat) : Nat :=
  let share := roundedQuotient (length * Nat.pow 2 53) capacity
  let percentage := roundedQuotient (share * 100) (Nat.pow 2 7)
  roundedQuotient (percentage * 10) (Nat.pow 2 46)

def tenthsText (tenths : Nat) : String := s!"{tenths / 10}.{tenths % 10}"

/-- The health of a running collector, by how much of its queue is taken: degraded where it `isCrowded`, with the
share of `occupancyTenths` in the reason. -/
def ofOccupancy (length capacity : Nat) : Health :=
  if isCrowded length capacity then
    degraded s!"outgoing queue occupancy high: {tenthsText (occupancyTenths length capacity)}%"
  else healthy

end Health

end FlowCollector
