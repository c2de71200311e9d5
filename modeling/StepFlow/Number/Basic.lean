import StepFlow.Number.Shortest

/-
  StepFlow.Number.Basic
  ─────────────────────
  Numbers of the data format: whole numbers of 64 bits, and doubles.

  A whole number and a double are different values even when they are equal
  (`1` and `1.0`), and they are written differently.
-/

namespace StepFlow

/-- A number: an integer in `[-2 ^ 63, 2 ^ 64)`, or a finite double. -/
inductive Number where
  /-- A whole number. -/
  | int (i : Int)
  /-- A double. -/
  | float (x : Binary64)
  deriving DecidableEq, Repr, Inhabited

namespace Number

/-- The integers a number can hold. -/
def intInRange (i : Int) : Bool :=
  -(twoPow 63 : Int) ≤ i && i < (twoPow 64 : Int)

/-! ## §1. Text -/

/-- The decimal digits of a natural number. -/
def natDigits (n : Nat) : List Char :=
  Nat.toDigits 10 n

/-- Digits without trailing zeros, and how many were dropped. -/
def dropZeros (ds : List Char) : List Char × Nat :=
  let kept := (ds.reverse.dropWhile (· == '0')).reverse
  (kept, ds.length - kept.length)

/-- Where positional notation is used: for a leading digit worth `10 ^ e` with
`low ≤ e < high`.  Outside, a mark and a signed exponent follow the digits. -/
structure Layout where
  low : Int
  high : Int
  mark : Char

/-- Doubles are written positionally from `10 ^ -5` up to, not including, `10 ^ 16`. -/
def layout : Layout := ⟨-5, 16, 'e'⟩

/-- Digits with a point, a whole number keeping `.0`. -/
def positional (ds : List Char) (e : Int) : List Char :=
  match e with
  | .ofNat k =>
      let whole := (ds ++ List.replicate (k + 1 - ds.length) '0').take (k + 1)
      let fraction := ds.drop (k + 1)
      whole ++ '.' :: (if fraction.isEmpty then ['0'] else fraction)
  | .negSucc k => '0' :: '.' :: (List.replicate k '0' ++ ds)

/-- Digits with a point after the first, a mark and a signed exponent. -/
def scientific (mark : Char) (ds : List Char) (e : Int) : List Char :=
  let mantissa := match ds with
    | [] => []
    | [d] => [d]
    | d :: rest => d :: '.' :: rest
  let sign := if e < 0 then '-' else '+'
  mantissa ++ mark :: sign :: natDigits e.natAbs

/-- The text of a finite double: the fewest digits that read back. -/
def floatText (x : Binary64) : String :=
  let sign := if x.isNegative then ['-'] else []
  if x.isZero then String.ofList (sign ++ ['0', '.', '0'])
  else
    let d := x.shortest
    let (ds, dropped) := dropZeros (natDigits d.digits)
    let e : Int := d.exponent + dropped + ds.length - 1
    let body := if layout.low ≤ e ∧ e < layout.high then positional ds e
      else scientific layout.mark ds e
    String.ofList (sign ++ body)

/-- The text of an integer. -/
def intText (i : Int) : String :=
  match i with
  | .ofNat n => String.ofList (natDigits n)
  | .negSucc n => String.ofList ('-' :: natDigits (n + 1))

/-- The text of a number. -/
def text : Number → String
  | .int i => intText i
  | .float x => floatText x

/-! ## §2. Tests -/

/-- Whether the number is a zero. -/
def isZero : Number → Bool
  | .int i => i == 0
  | .float x => x.isZero

/-- The nearest double. -/
def toBinary64 : Number → Binary64
  | .int i => Binary64.ofInt i
  | .float x => x

end Number

end StepFlow
