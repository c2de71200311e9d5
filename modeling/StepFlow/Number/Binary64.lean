import StepFlow.Number.Power

/-
  StepFlow.Number.Binary64
  ────────────────────────
  IEEE 754 double precision numbers, as their 64 bits.

  Everything is exact arithmetic on natural numbers: a finite double is a
  ratio of two naturals with a sign, and a result is the double nearest to
  the exact ratio, a tie going to the even significand.
-/

namespace StepFlow

/-- A double, given by its bits: a sign, eleven bits of exponent and
fifty-two bits of significand. -/
structure Binary64 where
  bits : UInt64
  deriving DecidableEq, Repr, Inhabited

namespace Binary64

/-! ## §1. Taking a double apart -/

/-- Whether the sign bit is set. -/
def isNegative (x : Binary64) : Bool :=
  x.bits.toNat ≥ twoPow 63

/-- The bits below the sign. -/
def magnitudeBits (x : Binary64) : Nat :=
  x.bits.toNat % twoPow 63

/-- Whether the double is a zero of either sign. -/
def isZero (x : Binary64) : Bool :=
  x.magnitudeBits == 0

/-- Magnitude bits of infinity; every finite double is below. -/
def infinityBits : Nat := 2047 * twoPow 52

/-- Significand `m` and exponent `q`, biased by 1074, of the magnitude `m · 2 ^ (q - 1074)`. -/
def parts (x : Binary64) : Nat × Nat :=
  let field := x.magnitudeBits / twoPow 52
  let fraction := x.magnitudeBits % twoPow 52
  if field = 0 then (fraction, 0) else (fraction + twoPow 52, field - 1)

/-- The magnitude as a ratio of two naturals. -/
def ratio (x : Binary64) : Nat × Nat :=
  let (m, q) := x.parts
  if 1074 ≤ q then (m * twoPow (q - 1074), 1) else (m, twoPow (1074 - q))

/-! ## §2. The nearest double -/

/-- The quotient rounded to the nearest natural, a tie to the even one. -/
def roundHalfEven (num den : Nat) : Nat :=
  let quotient := num / den
  let rest := num % den
  if 2 * rest < den then quotient
  else if den < 2 * rest then quotient + 1
  else quotient + quotient % 2

/-- The rounded significand of `num / den` for the biased exponent `q`. -/
def significandAt (num den q : Nat) : Nat :=
  if 1074 ≤ q then roundHalfEven num (den * twoPow (q - 1074))
  else roundHalfEven (num * twoPow (1074 - q)) den

/-- The least biased exponent at which `num / den` has at most 53 bits. -/
def exponentOf (num den : Nat) : Nat :=
  let guess := num.log2 + 1074 - den.log2 - 53
  let fits := if 1074 ≤ guess then num < den * twoPow (guess - 1074) * twoPow 53
    else num * twoPow (1074 - guess) < den * twoPow 53
  if fits then guess else guess + 1

/-- The magnitude bits of the double nearest to `num / den`; what is too large
gives the bits of infinity. -/
def nearestBits (num den : Nat) : Nat :=
  if num = 0 then 0
  else
    let q := exponentOf num den
    min infinityBits (q * twoPow 52 + significandAt num den q)

/-- The double of the given sign nearest to `num / den`. -/
def ofRatio (negative : Bool) (num den : Nat) : Binary64 :=
  let magnitude := nearestBits num den
  ⟨UInt64.ofNat (if negative then twoPow 63 + magnitude else magnitude)⟩

/-- The double nearest to a natural number. -/
def ofNat (n : Nat) : Binary64 :=
  ofRatio false n 1

/-- The double nearest to an integer. -/
def ofInt (i : Int) : Binary64 :=
  ofRatio (i < 0) i.natAbs 1

/-- Whether the magnitude is infinite. -/
def isInfinite (x : Binary64) : Bool :=
  x.magnitudeBits ≥ infinityBits

/-! ## §3. Arithmetic on magnitudes -/

/-- The rounded product of two magnitudes. -/
def mul (x y : Binary64) : Binary64 :=
  ofRatio false (x.ratio.1 * y.ratio.1) (x.ratio.2 * y.ratio.2)

/-- The rounded quotient of two magnitudes, the second one not zero. -/
def div (x y : Binary64) : Binary64 :=
  ofRatio false (x.ratio.1 * y.ratio.2) (x.ratio.2 * y.ratio.1)

/-- The same magnitude under the given sign. -/
def withSign (negative : Bool) (x : Binary64) : Binary64 :=
  ⟨UInt64.ofNat (if negative then twoPow 63 + x.magnitudeBits else x.magnitudeBits)⟩

/-- The power of ten nearest to `10 ^ k`. -/
def pow10 (k : Nat) : Binary64 :=
  ofNat (tenPow k)

/-! ## §4. Reading decimals -/

/-- The double nearest to `digits · 10 ^ exponent`.  An exponent far outside the
range decides the answer at once. -/
def ofDecimal (negative : Bool) (digits : Nat) (exponent : Int) : Binary64 :=
  if digits = 0 then ofRatio negative 0 1
  else
    let top : Int := exponent + (digits.log2 : Int)
    if 400 < exponent then ⟨UInt64.ofNat ((if negative then twoPow 63 else 0) + infinityBits)⟩
    else if top < -2000 then ofRatio negative 0 1
    else match exponent with
      | .ofNat e => ofRatio negative (digits * tenPow e) 1
      | .negSucc e => ofRatio negative digits (tenPow (e + 1))

/-- Divide by `10 ^ k`, at most `10 ^ 308` at a time, as often as `fuel` allows. -/
def shrink : Nat → Binary64 → Nat → Binary64
  | 0, x, _ => x
  | fuel + 1, x, k =>
      if k ≤ 308 then x.div (pow10 k)
      else if x.isZero then x
      else shrink fuel (x.div (pow10 308)) (k - 308)

/-- Scale a rounded significand by a rounded power of ten, rounding once more.
`none` when the result is too large. -/
def scale (significand : Nat) (exponent : Int) : Option Binary64 :=
  let x := ofNat significand
  match exponent with
  | .ofNat e =>
      if e ≤ 308 then
        let y := x.mul (pow10 e)
        if y.isInfinite then none else some y
      else if x.isZero then some x else none
  | .negSucc e => some (shrink ((e + 1) / 308 + 2) x (e + 1))

/-! ## §5. Whole numbers -/

/-- The integer part of the magnitude. -/
def floor (x : Binary64) : Nat :=
  x.ratio.1 / x.ratio.2

/-- Whether the magnitude is a whole number. -/
def isWhole (x : Binary64) : Bool :=
  x.ratio.1 % x.ratio.2 == 0

/-! ## §6. Signs of rounded numbers -/

theorem nearestBits_lt (num den : Nat) : nearestBits num den < twoPow 63 := by
  have hinfinity : infinityBits < twoPow 63 := by decide
  unfold nearestBits
  split
  · exact twoPow_pos 63
  · exact Nat.lt_of_le_of_lt (Nat.min_le_left _ _) hinfinity

/-- The exponent of a natural number is that of the highest power of two in it. -/
theorem exponentOf_natural {n : Nat} (h : n ≠ 0) : exponentOf n 1 = n.log2 + 1022 := by
  have hone : Nat.log2 1 = 0 := by decide
  have hle : twoPow n.log2 ≤ n := Nat.log2_self_le h
  unfold exponentOf
  dsimp only
  rw [hone]
  -- at the guess the significand has one bit too many, so the next exponent is taken
  have hguess : n.log2 + 1074 - 0 - 53 = n.log2 + 1021 := by omega
  rw [hguess]
  refine if_neg ?_
  by_cases hlarge : 1074 ≤ n.log2 + 1021
  · have hexp : n.log2 + 1021 - 1074 + 53 = n.log2 := by omega
    rw [if_pos hlarge, Nat.one_mul, ← twoPow_add, hexp]
    exact Nat.not_lt.mpr hle
  · have hexp : n.log2 + (1074 - (n.log2 + 1021)) = 53 := by omega
    have hmul := Nat.mul_le_mul_right (twoPow (1074 - (n.log2 + 1021))) hle
    rw [← twoPow_add, hexp] at hmul
    rw [if_neg hlarge, Nat.one_mul]
    exact Nat.not_lt.mpr hmul

/-- A natural number other than zero does not round to zero: its biased exponent is far from
the least one. -/
theorem nearestBits_pos {num : Nat} (h : num ≠ 0) : 0 < nearestBits num 1 := by
  have hexponent : 0 < exponentOf num 1 := by
    rw [exponentOf_natural h]
    omega
  have hbits : 0 < exponentOf num 1 * twoPow 52 := Nat.mul_pos hexponent (twoPow_pos 52)
  have hinfinity : 0 < infinityBits := by decide
  unfold nearestBits
  rw [if_neg h]
  dsimp only
  omega

theorem bits_ofInt (n : Nat) : (ofInt n).bits.toNat = nearestBits n 1 := by
  have hsign : decide ((n : Int) < 0) = false := decide_eq_false (by omega)
  have hword : twoPow 63 < UInt64.size := by decide
  unfold ofInt ofRatio
  simp only [hsign, Bool.false_eq_true, if_false, Int.natAbs_natCast]
  exact UInt64.toNat_ofNat_of_lt (Nat.lt_trans (nearestBits_lt n 1) hword)

/-- A whole number above zero rounds to a double above zero. -/
theorem ofInt_positive {i : Int} (h : 0 < i) :
    (ofInt i).isZero = false ∧ (ofInt i).isNegative = false := by
  obtain ⟨n, rfl⟩ : ∃ n : Nat, i = n := ⟨i.toNat, by omega⟩
  have hlt := nearestBits_lt n 1
  have hpos : 0 < nearestBits n 1 := nearestBits_pos (by omega)
  constructor
  · unfold isZero magnitudeBits
    rw [bits_ofInt, Nat.mod_eq_of_lt hlt]
    exact beq_false_of_ne (Nat.ne_of_gt hpos)
  · unfold isNegative
    rw [bits_ofInt]
    exact decide_eq_false (Nat.not_le.mpr hlt)

/-! ## §7. Natural numbers that doubles hold -/

/-- What is divided without a rest is not rounded. -/
theorem roundHalfEven_mul (k : Nat) {den : Nat} (h : 0 < den) :
    roundHalfEven (k * den) den = k := by
  unfold roundHalfEven
  rw [Nat.mul_mod_left, Nat.mul_div_cancel k h]
  exact if_pos h

/-- A double whose significand has all of its bits, taken apart. -/
theorem parts_of_bits {x : Binary64} {q s : Nat} (hlow : twoPow 52 ≤ s) (hhigh : s < twoPow 53)
    (hbits : x.magnitudeBits = q * twoPow 52 + s) : x.parts = (s, q) := by
  have hdouble : twoPow 53 = twoPow 52 * 2 := twoPow_succ 52
  have hfield : x.magnitudeBits / twoPow 52 = q + 1 := by
    have hone : s / twoPow 52 = 1 := Nat.div_eq_of_lt_le (by omega) (by omega)
    rw [hbits, Nat.add_comm, Nat.add_mul_div_right _ _ (twoPow_pos 52), hone, Nat.add_comm]
  have hfraction : x.magnitudeBits % twoPow 52 = s - twoPow 52 := by
    rw [hbits, Nat.add_comm, Nat.add_mul_mod_self_right, Nat.mod_eq_sub_mod hlow]
    exact Nat.mod_eq_of_lt (by omega)
  unfold parts
  rw [hfield, hfraction]
  dsimp only
  rw [if_neg (Nat.succ_ne_zero q), Nat.sub_add_cancel hlow, Nat.add_sub_cancel]

theorem ratio_of_parts {x : Binary64} {n s q : Nat} (hparts : x.parts = (s, q))
    (hvalue : s * twoPow (q - 1074) = n * twoPow (1074 - q)) :
    x.ratio.1 = n * x.ratio.2 ∧ 0 < x.ratio.2 := by
  unfold ratio
  rw [hparts]
  dsimp only
  -- one of the two exponents is cut off at zero
  by_cases hlarge : 1074 ≤ q
  · have hzero : 1074 - q = 0 := by omega
    rw [hzero, twoPow_zero] at hvalue
    rw [if_pos hlarge]
    exact ⟨hvalue, Nat.one_pos⟩
  · have hzero : q - 1074 = 0 := by omega
    rw [hzero, twoPow_zero, Nat.mul_one] at hvalue
    rw [if_neg hlarge]
    exact ⟨hvalue, twoPow_pos _⟩

/-- The significand of a natural number up to `2 ^ 53`: it has 53 bits, and nothing of the
number is lost in it. -/
theorem significandAt_natural {n q : Nat} (h : n ≠ 0) (hn : n ≤ twoPow 53)
    (hq : q = n.log2 + 1022) :
    twoPow 52 ≤ significandAt n 1 q ∧ significandAt n 1 q < twoPow 53 ∧
      significandAt n 1 q * twoPow (q - 1074) = n * twoPow (1074 - q) := by
  have hle : twoPow n.log2 ≤ n := Nat.log2_self_le h
  have hlt : n < twoPow (n.log2 + 1) := Nat.lt_log2_self
  have hwhole : ∀ k, roundHalfEven k 1 = k := by
    intro k
    have hself := roundHalfEven_mul k Nat.one_pos
    rwa [Nat.mul_one] at hself
  unfold significandAt
  by_cases hlarge : 1074 ≤ q
  · rw [if_pos hlarge, Nat.one_mul]
    by_cases htop : n = twoPow 53
    · subst htop
      have hlog : q = 1075 := by
        rw [hq]
        decide
      subst hlog
      decide
    · -- a number of 53 bits is its own significand
      have hbelow : n < twoPow 53 := Nat.lt_of_le_of_ne hn htop
      have hlog : n.log2 = 52 := by
        have := (Nat.log2_lt h).mpr hbelow
        omega
      have hexp : q - 1074 = 0 ∧ 1074 - q = 0 := by omega
      rw [hexp.1, hexp.2, twoPow_zero, hwhole]
      rw [hlog] at hle
      exact ⟨hle, hbelow, rfl⟩
  · rw [if_neg hlarge, hwhole]
    have hexp : q - 1074 = 0 := by omega
    have hlow : n.log2 + (1074 - q) = 52 := by omega
    have hhigh : n.log2 + 1 + (1074 - q) = 53 := by omega
    rw [hexp, twoPow_zero, Nat.mul_one, ← hlow, ← hhigh, twoPow_add, twoPow_add]
    exact ⟨Nat.mul_le_mul_right _ hle, Nat.mul_lt_mul_of_pos_right hlt (twoPow_pos _), rfl⟩

/-- A natural number up to `2 ^ 53` is the double that is nearest to it. -/
theorem ratio_ofInt {n : Nat} (h : n ≠ 0) (hn : n ≤ twoPow 53) :
    (ofInt n).ratio.1 = n * (ofInt n).ratio.2 ∧ 0 < (ofInt n).ratio.2 := by
  obtain ⟨q, hq⟩ : ∃ q, q = n.log2 + 1022 := ⟨_, rfl⟩
  obtain ⟨hlow, hhigh, hvalue⟩ := significandAt_natural h hn hq
  have hlog : n.log2 < 54 := (Nat.log2_lt h).mpr (Nat.lt_of_le_of_lt hn (by decide))
  have hexponent : exponentOf n 1 = q := (exponentOf_natural h).trans hq.symm
  have hnearest : nearestBits n 1 = q * twoPow 52 + significandAt n 1 q := by
    unfold nearestBits
    rw [if_neg h, hexponent]
    refine Nat.min_eq_right ?_
    have hinfinity : infinityBits = 2047 * twoPow 52 := rfl
    have hdouble : twoPow 53 = twoPow 52 * 2 := twoPow_succ 52
    have hmul : q * twoPow 52 ≤ 1076 * twoPow 52 := Nat.mul_le_mul_right _ (by omega)
    omega
  refine ratio_of_parts (parts_of_bits hlow hhigh ?_) hvalue
  unfold magnitudeBits
  rw [bits_ofInt, Nat.mod_eq_of_lt (nearestBits_lt n 1), hnearest]

/-- A natural number up to `2 ^ 53` is a whole number as a double, and no other one. -/
theorem ofInt_exact {n : Nat} (h : n ≠ 0) (hn : n ≤ twoPow 53) :
    (ofInt n).isWhole = true ∧ (ofInt n).floor = n := by
  obtain ⟨hratio, hpos⟩ := ratio_ofInt h hn
  unfold isWhole floor
  rw [hratio, Nat.mul_mod_left, Nat.mul_div_cancel n hpos]
  exact ⟨rfl, rfl⟩

end Binary64

end StepFlow
