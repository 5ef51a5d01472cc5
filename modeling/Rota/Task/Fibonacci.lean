import Rota.Decimal.Power

/-!
Fibonacci numbers that fit into 64 bits.
-/

namespace Rota.Task

/-- Moves a pair of neighbouring Fibonacci numbers on by some places, as long as the greater one
fits. -/
def fibonacciFrom (lesser greater : Nat) : Nat → Option Nat
  | 0 => some greater
  | places + 1 =>
    if lesser + greater < Decimal.wordLimit then fibonacciFrom greater (lesser + greater) places
    else none

/-- The Fibonacci number with an index, or nothing if it needs more than 64 bits. -/
def fibonacci? : Nat → Option Nat
  | 0 => some 0
  | index + 1 => fibonacciFrom 0 1 index

end Rota.Task
