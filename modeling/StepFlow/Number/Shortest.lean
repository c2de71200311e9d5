import StepFlow.Number.Binary64

/-
  StepFlow.Number.Shortest
  ────────────────────────
  The fewest decimal digits that read back as a given double.

  The reals that round to a double `m · 2 ^ q` form an interval around it,
  whose ends belong to it exactly when `m` is even.  For one digit, two
  digits, and so on, the two neighbours of the double on the grid of that many
  digits are tried; the first grid with a neighbour inside the interval wins,
  and of two neighbours inside it the nearer one, a tie going to the even
  digit.
-/

namespace StepFlow.Binary64

/-- A decimal `digits · 10 ^ exponent`. -/
structure Decimal where
  digits : Nat
  exponent : Int
  deriving DecidableEq, Repr

/-- Whether `10 ^ e ≤ num / den`. -/
def powerAtMost (e : Int) (num den : Nat) : Bool :=
  match e with
  | .ofNat k => tenPow k * den ≤ num
  | .negSucc k => den ≤ num * tenPow (k + 1)

/-- The decimal exponent `e` of a positive ratio: `10 ^ e ≤ num / den < 10 ^ (e + 1)`. -/
def decimalExponent (num den : Nat) : Int :=
  let guess : Int := ((num.log2 : Int) - (den.log2 : Int)) * 30103 / 100000
  if powerAtMost (guess + 1) num den then guess + 1
  else if powerAtMost guess num den then guess
  else guess - 1

/-- The ratio `num / den / 10 ^ e`. -/
def scaleRatio (e : Int) (num den : Nat) : Nat × Nat :=
  match e with
  | .ofNat k => (num, den * tenPow k)
  | .negSucc k => (num * tenPow (k + 1), den)

/-- The interval of reals that round to a double, in quarters of its last place:
the ends are `(4m - 1 or 4m - 2)` and `4m + 2`. -/
structure Interval where
  low : Nat
  value : Nat
  high : Nat
  /-- What one quarter of the last place is worth. -/
  unitNum : Nat
  unitDen : Nat
  closed : Bool

/-- The interval of a double.  Below a power of two the neighbours are twice as dense. -/
def interval (x : Binary64) : Interval :=
  let (m, q) := x.parts
  let low := if m = twoPow 52 ∧ 0 < q then 4 * m - 1 else 4 * m - 2
  let unit := if 1076 ≤ q then (twoPow (q - 1076), 1) else (1, twoPow (1076 - q))
  ⟨low, 4 * m, 4 * m + 2, unit.1, unit.2, m % 2 == 0⟩

/-- Whether the decimal `digits · 10 ^ e` lies in the interval. -/
def Interval.holds (i : Interval) (digits : Nat) (e : Int) : Bool :=
  let (un, ud) := scaleRatio e i.unitNum i.unitDen
  let d := digits * ud
  if i.closed then i.low * un ≤ d && d ≤ i.high * un
  else i.low * un < d && d < i.high * un

/-- The best decimal on the grid `10 ^ e`, if one of the two neighbours is inside. -/
def Interval.onGrid (i : Interval) (e : Int) : Option Decimal :=
  let (un, ud) := scaleRatio e i.unitNum i.unitDen
  let num := i.value * un
  let down := num / ud
  let rest := num % ud
  let nearDown := 2 * rest < ud || (2 * rest == ud && down % 2 == 0)
  let downIn := i.holds down e
  let upIn := i.holds (down + 1) e
  if downIn && (nearDown || !upIn) then some ⟨down, e⟩
  else if upIn then some ⟨down + 1, e⟩
  else none

/-- Try the grids of the remaining digit counts, coarse to fine. -/
def Interval.search (i : Interval) (lead : Int) : Nat → Nat → Decimal
  | 0, count => ⟨(i.value * (scaleRatio (lead - count) i.unitNum i.unitDen).1) /
      (scaleRatio (lead - count) i.unitNum i.unitDen).2, lead - count⟩
  | fuel + 1, count =>
      match i.onGrid (lead - count) with
      | some d => d
      | none => i.search lead fuel (count + 1)

/-- The shortest decimal of a finite double that is not zero. -/
def shortest (x : Binary64) : Decimal :=
  x.interval.search (decimalExponent x.ratio.1 x.ratio.2) 17 0

end StepFlow.Binary64
