import ReplicaHosting.Decimal.Double
/-!
Decimal text of a floating-point number: the fewest digits that read back as the number, and of
those the nearest to it. Two ways of writing the digits are offered, one always with a decimal
point in its place and one with an exponent for very large and very small numbers; they also
differ in what they do when two candidates are equally near.
-/
namespace ReplicaHosting.Decimal

inductive Tie where
  | up | even
  deriving DecidableEq, Repr

structure Digits where
  digits : Nat
  exponent : Int
  deriving DecidableEq, Repr

/-- How many digits stand before the point: the `k` with `10 ^ (k - 1) ≤ m * 2 ^ q < 10 ^ k`. -/
def leadingPlace (m : Nat) (q : Int) : Int :=
  let guess : Int := Int.fdiv (((Nat.log2 m : Int) + q) * 30103) 100000
  let below (k : Int) : Bool :=
    let (n, d) := scaled m 1 q
    n * tenTo (-k).toNat < d * tenTo k.toNat
  (([guess - 1, guess, guess + 1, guess + 2].find? below).getD (guess + 3))

/-- The best decimal with `places` digits that reads back as `m * 2 ^ q`, if there is one.
The reals that read back reach half way to the neighbours, the ends included if `m` is even. -/
def candidate (tie : Tie) (m : Nat) (q : Int) (lead : Int) (places : Nat) : Option Digits :=
  let e := lead - places
  let low := if m == twoTo 52 && q > -1074 then 4 * m - 1 else 4 * m - 2
  let high := 4 * m + 2
  let b := (-e).toNat
  let a := (2 - q).toNat
  let ten := tenTo (e + b).toNat * twoTo a
  let two := twoTo (q - 2 + a).toNat * tenTo b
  let inside (x : Nat) : Bool :=
    if m % 2 == 0 then low * two ≤ x * ten && x * ten ≤ high * two
    else low * two < x * ten && x * ten < high * two
  let floor := 4 * m * two / ten
  let left := 4 * m * two - floor * ten
  match inside floor, inside (floor + 1) with
  | false, false => none
  | true, false => some ⟨floor, e⟩
  | false, true => some ⟨floor + 1, e⟩
  | true, true =>
    if 2 * left < ten then some ⟨floor, e⟩
    else if ten < 2 * left then some ⟨floor + 1, e⟩
    else match tie with
      | .up => some ⟨floor + 1, e⟩
      | .even => some ⟨if floor % 2 == 0 then floor else floor + 1, e⟩

/-- The same decimal without zeros at its end; `fuel` bounds the number of zeros. -/
def trimZeros : Nat → Digits → Digits
  | 0, x => x
  | fuel + 1, x => if x.digits % 10 == 0 then trimZeros fuel ⟨x.digits / 10, x.exponent + 1⟩ else x

/-- The fewest digits that read back as the positive number `m * 2 ^ q`; seventeen always do. -/
def shortest (tie : Tie) (m : Nat) (q : Int) : Digits :=
  let lead := leadingPlace m q
  let found := (List.range 17).findSome? fun i => candidate tie m q lead (i + 1)
  trimZeros 20 (found.getD ⟨m, q⟩)

def Digits.text (x : Digits) : List Char := Nat.toDigits 10 x.digits

def Digits.plain (x : Digits) : List Char :=
  let ds := x.text
  if 0 ≤ x.exponent then ds ++ List.replicate x.exponent.toNat '0' ++ ['.', '0']
  else
    let behind := (-x.exponent).toNat
    if behind < ds.length then ds.take (ds.length - behind) ++ '.' :: ds.drop (ds.length - behind)
    else '0' :: '.' :: List.replicate (behind - ds.length) '0' ++ ds

def Digits.scientific (x : Digits) : List Char :=
  let e := x.exponent + x.text.length - 1
  let mantissa := match x.text with
    | [d] => [d]
    | d :: ds => d :: '.' :: ds
    | [] => []
  mantissa ++ 'e' :: (if 0 ≤ e then ['+'] else []) ++ (toString e).toList

def signed (negative : Bool) (cs : List Char) : String :=
  String.ofList (if negative then '-' :: cs else cs)

def Double.positional : Double → String
  | nan => "NaN"
  | infinite s => signed s "inf".toList
  | finite s m q => signed s (if m == 0 then "0.0".toList else (shortest .up m q).plain)

/-- A number written with an exponent below `1e-5` and from `1e16` on. -/
def Double.compact : Double → String
  | nan => "NaN"
  | infinite s => signed s "inf".toList
  | finite s m q =>
    if m == 0 then signed s "0.0".toList else
    let x := shortest .even m q
    let lead := x.exponent + x.text.length
    signed s (if -5 < lead && lead ≤ 16 then x.plain else x.scientific)

end ReplicaHosting.Decimal
