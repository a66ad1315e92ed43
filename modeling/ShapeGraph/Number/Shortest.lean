import ShapeGraph.Number.Binary64

/-!
The shortest decimal text that rounds back to a number: the fewest digits, of those the nearest,
of two nearest the even one.
-/

namespace ShapeGraph.Binary64

/-- A positive number and the ends of the interval that rounds to it, over one denominator. The
ends belong to the interval if `closed`. -/
structure Rounding where
  low : Nat
  value : Nat
  high : Nat
  den : Nat
  closed : Bool

def rounding (e : Fin 2047) (f : Fin fractions) : Rounding :=
  let s := significand e f
  let unit := Nat.pow 2 (scale e - 2).toNat
  let gap := if f.val = 0 ∧ 1 < e.val then 1 else 2
  { low := (4 * s - gap) * unit
    value := 4 * s * unit
    high := (4 * s + 2) * unit
    den := Nat.pow 2 (2 - scale e).toNat
    closed := s % 2 == 0 }

def powerRatio (k : Int) : Nat × Nat := (Nat.pow 10 k.toNat, Nat.pow 10 (-k).toNat)

def Rounding.admits (r : Rounding) (digits : Nat) (k : Int) : Bool :=
  let (num, den) := powerRatio k
  let x := digits * num * r.den
  if r.closed then r.low * den ≤ x && x ≤ r.high * den else r.low * den < x && x < r.high * den

def Rounding.leading (r : Rounding) : Int :=
  let reaches (k : Int) : Bool :=
    let (num, den) := powerRatio k
    num * r.den ≤ r.value * den
  let guess := (floorLog2 r.value r.den) * 30103 / 100000
  if reaches (guess + 1) then guess + 1 else if reaches guess then guess else guess - 1

def Rounding.onGrid (r : Rounding) (k : Int) : Option Nat :=
  let (num, den) := powerRatio k
  let below := r.value * den / (r.den * num)
  let nearest := roundQuotient (r.value * den) (r.den * num)
  let other := if nearest = below then below + 1 else below
  if r.admits nearest k then some nearest else if r.admits other k then some other else none

def Rounding.search (r : Rounding) (leading : Int) : (fuel digits : Nat) → Nat × Int
  | 0, digits => (roundQuotient r.value r.den, leading + 1 - digits)
  | fuel + 1, digits =>
    let k := leading + 1 - digits
    match r.onGrid k with
    | some d => (d, k)
    | none => r.search leading fuel (digits + 1)

def Rounding.shortest (r : Rounding) : Nat × Int := r.search r.leading 17 1

/-- How a decimal number is laid out: `digits` without zeros at the end and the number of places
before the point. Sixteen places before the point and four zeros after it are written out. -/
def layout (digits : List Char) (point : Int) : List Char :=
  let size := digits.length
  if -4 < point ∧ point ≤ 16 then
    if point ≤ 0 then '0' :: '.' :: List.replicate (-point).toNat '0' ++ digits
    else if size ≤ point.toNat then
      digits ++ List.replicate (point.toNat - size) '0' ++ ['.', '0']
    else digits.take point.toNat ++ '.' :: digits.drop point.toNat
  else
    let exponent := point - 1
    let places := Nat.toDigits 10 exponent.natAbs
    let mantissa :=
      match digits with
      | d :: rest@(_ :: _) => d :: '.' :: rest
      | ds => ds
    mantissa ++ 'e' :: (if exponent < 0 then '-' else '+')
      :: List.replicate (2 - places.length) '0' ++ places

def magnitudeText (e : Fin 2047) (f : Fin fractions) : List Char :=
  if significand e f = 0 then ['0', '.', '0']
  else
    let (d, k) := (rounding e f).shortest
    let digits := Nat.toDigits 10 d
    layout (digits.reverse.dropWhile (· == '0')).reverse (digits.length + k)

def text (infinity : String) (x : Binary64) : String :=
  let sign := if x.isNegative then "-" else ""
  match x with
  | .finite _ e f => sign ++ String.ofList (magnitudeText e f)
  | .infinite _ => sign ++ infinity

end ShapeGraph.Binary64
