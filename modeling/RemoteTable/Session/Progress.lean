import RemoteTable.Number.Double

/-!
Progress bars of running requests. A bar is released when its request ends, and its number is
never used again.
-/

namespace RemoteTable

structure ProgressBar where
  id : Nat
  requestId : Nat
  description : String
  done : Double
deriving DecidableEq

/-- The bars that are shown, the oldest first. -/
structure Progress where
  bars : List ProgressBar
  nextId : Nat
deriving DecidableEq

namespace Progress

def empty : Progress := ⟨[], 0⟩

/-- The number of a new bar, which has nothing done yet. -/
def add (progress : Progress) (requestId : Nat) (description : String) : Nat × Progress :=
  (progress.nextId,
    ⟨progress.bars ++ [⟨progress.nextId, requestId, description, Double.zero⟩],
      progress.nextId + 1⟩)

/-- Sets how much is done on the first bar of a number, cut to the interval from 0 to 1. -/
def set (progress : Progress) (id : Nat) (done : Double) : Progress :=
  let bars := progress.bars.modify (progress.bars.findIdx (·.id == id)) fun bar =>
    { bar with done := done.clamp Double.zero (Double.ofNat 1) }
  { progress with bars := bars }

/-- Releases a bar; false if there is none of that number. -/
def release (progress : Progress) (id : Nat) : Bool × Progress :=
  (progress.bars.any (·.id == id), { progress with bars := progress.bars.eraseP (·.id == id) })

end Progress

end RemoteTable
