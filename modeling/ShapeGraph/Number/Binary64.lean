/-!
Double precision numbers without a not-a-number: what a decimal literal can denote after rounding
to nearest, ties to even.
-/

namespace ShapeGraph

abbrev Binary64.fractions : Nat := 0x10000000000000

/-- `exponent` is biased; exponent zero holds the zeros and the subnormal numbers. -/
inductive Binary64
  | finite (negative : Bool) (exponent : Fin 2047) (fraction : Fin Binary64.fractions)
  | infinite (negative : Bool)
  deriving DecidableEq, Repr

namespace Binary64

def significand (exponent : Fin 2047) (fraction : Fin fractions) : Nat :=
  if exponent.val = 0 then fraction.val else fractions + fraction.val

def scale (exponent : Fin 2047) : Int := max exponent.val 1 - 1075

def zero (negative : Bool) : Binary64 := .finite negative 0 0

def roundQuotient (num den : Nat) : Nat :=
  let quotient := num / den
  let twice := 2 * (num % den)
  if twice > den ∨ (twice = den ∧ quotient % 2 = 1) then quotient + 1 else quotient

def floorLog2 (num den : Nat) : Int :=
  let t : Int := num.log2 - den.log2
  if den * Nat.pow 2 t.toNat ≤ num * Nat.pow 2 (-t).toNat then t else t - 1

def ofSignificand (negative : Bool) (s : Nat) (scale : Int) : Binary64 :=
  let (s, scale) := if s = 2 * fractions then (fractions, scale + 1) else (s, scale)
  if s < fractions then .finite negative 0 (Fin.ofNat fractions s)
  else
    let exponent := (scale + 1075).toNat
    if h : exponent < 2047 then .finite negative ⟨exponent, h⟩ (Fin.ofNat fractions s)
    else .infinite negative

def ofRatio (negative : Bool) (num den : Nat) : Binary64 :=
  let scale := max (floorLog2 num den - 52) (-1074)
  let s := roundQuotient (num * Nat.pow 2 (-scale).toNat) (den * Nat.pow 2 scale.toNat)
  ofSignificand negative s scale

/-- The number nearest to `digits * 10 ^ exponent`. Beyond the range of the format no power of ten
is computed. -/
def ofDecimal (negative : Bool) (digits : Nat) (exponent : Int) : Binary64 :=
  let size : Int := digits.log2 * 30103 / 100000 + exponent
  if digits = 0 then zero negative
  else if size > 310 then .infinite negative
  else if size < -330 then zero negative
  else ofRatio negative (digits * Nat.pow 10 exponent.toNat) (Nat.pow 10 (-exponent).toNat)

def isNegative : Binary64 → Bool
  | .finite negative _ _ => negative
  | .infinite negative => negative

def ratio? : Binary64 → Option (Nat × Nat)
  | .finite _ e f => some (significand e f * Nat.pow 2 (scale e).toNat, Nat.pow 2 (-scale e).toNat)
  | .infinite _ => none

def compareInt (x : Binary64) (n : Int) : Ordering :=
  match x.ratio? with
  | some (num, den) => compare (if x.isNegative then -(num : Int) else num) (n * den)
  | none => if x.isNegative then .lt else .gt

def toInt? (x : Binary64) : Option Int :=
  x.ratio?.bind fun (num, den) =>
    let whole : Int := (num / den : Nat)
    if num % den = 0 then some (if x.isNegative then -whole else whole) else none

end Binary64

end ShapeGraph
