/-!
# Runs of code points

Properties of characters are stored as lists of runs: code points that follow each other at a
fixed stride, as the letters of an alphabet do, or every second code point where upper and lower
case alternate.
-/

set_option autoImplicit false

namespace Recipe.Text

/-- The code points from `first` to `last`, `stride` apart. -/
structure Run where
  first : Nat
  last : Nat
  stride : Nat

def Run.contains (run : Run) (code : Nat) : Bool :=
  run.first ≤ code && code ≤ run.last && (code - run.first) % run.stride == 0

/-- A run of letters together with the distance from each letter to its lowercase form. -/
structure CaseRun extends Run where
  shift : Int

/-- The code point of the lowercase form of a code point on the run. -/
def CaseRun.lowered (run : CaseRun) (code : Nat) : Nat :=
  (code + run.shift).toNat

end Recipe.Text
