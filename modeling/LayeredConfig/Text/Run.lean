/-
  Sets of characters as sorted tables of code point runs. A table lists its runs by first
  code point, so a look-up stops at the first run that begins after the character.
-/

namespace LayeredConfig.Text

/-- The code points `first, first + step, …` up to `last`. -/
structure Run where
  first : Nat
  last : Nat
  step : Nat
  deriving Repr, DecidableEq

namespace Run

/-- The code point is one of the run. -/
def holds (r : Run) (n : Nat) : Bool :=
  decide (r.first ≤ n) && decide (n ≤ r.last) && decide ((n - r.first) % r.step = 0)

/-- Some run of a table sorted by first code point holds `n`. -/
def member (n : Nat) : List Run → Bool
  | [] => false
  | r :: rest => if n < r.first then false else r.holds n || member n rest

end Run

/-- A character belongs to a table of runs. -/
def inRuns (table : List Run) (c : Char) : Bool := Run.member c.toNat table

end LayeredConfig.Text
