/-!
Binary floating-point numbers of 64 bits as exact rationals: a finite one is `m * 2 ^ q` with
`m < 2 ^ 53` and `-1074 ≤ q`. Everything is computed on natural numbers, and every rounding is to
the nearest number, of two equally near ones to the even one.
-/
namespace ReplicaHosting.Decimal

/-- A finite number is `m * 2 ^ q`, negated if so marked; zero keeps its sign. -/
inductive Double where
  | nan
  | infinite (negative : Bool)
  | finite (negative : Bool) (m : Nat) (q : Int)
  deriving DecidableEq, Repr, Inhabited

/-- The quotient rounded to the nearest integer, a half to the even neighbour. -/
def roundDiv (num den : Nat) : Nat :=
  let whole := num / den
  let left := 2 * (num % den)
  if left < den || (left == den && whole % 2 == 0) then whole else whole + 1

def twoTo (k : Nat) : Nat := Nat.pow 2 k

def tenTo (k : Nat) : Nat := Nat.pow 10 k

def scaled (a b : Nat) (q : Int) : Nat × Nat :=
  (a * twoTo q.toNat, b * twoTo (-q).toNat)

namespace Double

def zero (negative : Bool) : Double := finite negative 0 (-1074)

def isZero : Double → Bool
  | finite _ m _ => m == 0
  | _ => false

/-- The number nearest to `num / den`; beyond the largest finite one it is infinite. -/
def ofRatio (num den : Nat) : Double :=
  if num == 0 || den == 0 then zero false else
  let e : Int := (Nat.log2 num : Int) - (Nat.log2 den : Int)
  let (n, d) := scaled num den (-(e - 53))
  let q := max (if n < twoTo 53 * d then e - 53 else e - 52) (-1074)
  let (n, d) := scaled num den (-q)
  let m := roundDiv n d
  let (m, q) := if m == twoTo 53 then (twoTo 52, q + 1) else (m, q)
  if q > 971 then infinite false else finite false m q

def negate : Double → Double
  | nan => nan
  | infinite s => infinite (!s)
  | finite s m q => finite (!s) m q

def powerOfTen (k : Nat) : Double := ofRatio (tenTo k) 1

def times : Double → Double → Double
  | finite _ m q, finite _ m' q' =>
    let (n, d) := scaled (m * m') 1 (q + q')
    ofRatio n d
  | finite _ _ _, y => y
  | x, _ => x

def dividedBy : Double → Double → Double
  | finite _ m q, finite _ m' q' =>
    let (n, d) := scaled m m' (q - q')
    ofRatio n d
  | finite _ _ _, y => y
  | x, _ => x

/-- The number nearest to `digits * 10 ^ exponent`. Exponents far outside the range of the format
are settled without computing the power. -/
def ofDecimal (digits : Nat) (exponent : Int) : Double :=
  if digits == 0 then zero false else
  let size : Int := (Nat.toDigits 10 digits).length
  if size + exponent > 400 then infinite false
  else if size + exponent < -400 then zero false
  else ofRatio (digits * tenTo exponent.toNat) (tenTo (-exponent).toNat)

end Double

end ReplicaHosting.Decimal
