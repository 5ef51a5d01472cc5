import Rota.Task.Fibonacci
import Rota.Task.Registry

/-!
The tasks that every registry of a replica starts with.
-/

namespace Rota.Task

def calculateFibonacci : Handler where
  parameters := .tuple [.unsigned 32]
  run values := match values with
    | [.integer index] =>
      match fibonacci? index.toNat with
      | some value => .note (.fibonacciFinished index.toNat value) .finish
      | none => .fail (.failed ("fib(" ++ toString index ++ ") overflows u64"))
    | _ => .finish

def fibonacciTask : String := "CalcFib"

def Registry.builtin : Registry := (Registry.register {} fibonacciTask calculateFibonacci).1

end Rota.Task
