/-!
# Runs of code points

A class of characters is data: a list of runs, each an arithmetic progression of code points.  A
case mapping is data as well: a list of shifts, each a run with the code point its first member is
sent to.

* `memRuns`: whether a character lies on one of the runs.
* `shifted`: the image of a character under a list of shifts.
-/

namespace ApiOutline.Text

/-- The code points `first`, `first + stride`, … up to `last`. -/
structure Run where
  first : Nat
  last : Nat
  stride : Nat

/-- Whether the code point `n` is one of the run. -/
def Run.covers (r : Run) (n : Nat) : Bool :=
  decide (r.first ≤ n) && decide (n ≤ r.last) && (n - r.first) % r.stride == 0

/-- Whether `c` lies on one of the runs. -/
def memRuns (runs : List Run) (c : Char) : Bool :=
  runs.any fun r => r.covers c.toNat

/-- A run whose members are all moved by the same distance; `image` is where `first` goes. -/
structure Shift where
  first : Nat
  last : Nat
  stride : Nat
  image : Nat

/-- The run a shift moves. -/
def Shift.run (s : Shift) : Run :=
  ⟨s.first, s.last, s.stride⟩

/-- The image of `c` under the first shift that moves it, and `none` where none does. -/
def shifted (shifts : List Shift) (c : Char) : Option Char :=
  (shifts.find? fun s => s.run.covers c.toNat).map fun s =>
    Char.ofNat (s.image + (c.toNat - s.first))

end ApiOutline.Text
