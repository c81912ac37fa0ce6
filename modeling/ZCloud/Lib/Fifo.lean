import ZCloud.Lib.Machine

/-! A first-in first-out queue that holds a bounded number of entries. -/

namespace Fifo

variable {α : Type}

inductive Operation (α : Type) where
  | push (a : α)
  | pop

/-- The answer to a push is whether it succeeds, that to a pop the entry it
takes. -/
inductive Answer (α : Type) where
  | pushed (taken : Bool)
  | popped (a : Option α)

def step (capacity : Nat) : Operation α → List α → Answer α × List α
  | .push a, entries =>
    if entries.length < capacity then (.pushed true, entries ++ [a]) else (.pushed false, entries)
  | .pop, entries => (.popped entries.head?, entries.tail)

end Fifo
