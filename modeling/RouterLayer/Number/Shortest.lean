import RouterLayer.Number.Binary64
import RouterLayer.Text.Basic

set_option autoImplicit false

namespace RouterLayer

structure Decimal where
  digits : Nat
  power : Int
  deriving DecidableEq, Repr

namespace Decimal

def trimZeros : Nat → Decimal → Decimal
  | 0, d => d
  | steps + 1, d =>
    if d.digits != 0 && d.digits % 10 == 0 then trimZeros steps ⟨d.digits / 10, d.power + 1⟩ else d

end Decimal

namespace Binary64

/-- The numbers that are nearer to a mantissa than to its neighbours, in quarters of the unit of
the mantissa. The gap below a power of two is half as wide. -/
structure Nearest where
  low : Nat
  value : Nat
  high : Nat
  closed : Bool
  deriving DecidableEq, Repr

def nearest (mantissa : Nat) (exponent : Int) : Nearest :=
  let narrow := mantissa == Nat.pow 2 (mantissaBits - 1) && leastExponent < exponent
  ⟨4 * mantissa - (if narrow then 1 else 2), 4 * mantissa, 4 * mantissa + 2, mantissa % 2 == 0⟩

/-- `quarters` units of `2 ^ exponent / 4` measured in units of `10 ^ power`: a quotient. -/
def inTens (quarters : Nat) (exponent power : Int) : Nat × Nat :=
  let e := exponent - 2
  (quarters * Nat.pow 2 e.toNat * Nat.pow 10 (-power).toNat,
    Nat.pow 2 (-e).toNat * Nat.pow 10 power.toNat)

def readsBack (r : Nearest) (exponent power : Int) (n : Nat) : Bool :=
  let low := inTens r.low exponent power
  let high := inTens r.high exponent power
  if r.closed then low.1 ≤ n * low.2 && n * high.2 ≤ high.1
  else low.1 < n * low.2 && n * high.2 < high.1

def leadingPower (mantissa : Nat) (exponent : Int) : Int :=
  let whole := inTens (4 * mantissa) exponent 0
  if whole.2 ≤ whole.1 then ((Nat.toDigits 10 (whole.1 / whole.2)).length : Int) - 1
  else
    let width : Int := (Nat.toDigits 10 (whole.2 / whole.1)).length
    let s := inTens (4 * mantissa) exponent (-width)
    if s.2 * 10 ≤ s.1 then 1 - width else -width

/-- The better of the two grid points around the number, if one of them reads back: the nearer
one, and the even one of two that are equally near. -/
def gridPoint? (r : Nearest) (exponent power : Int) : Option Nat :=
  let v := inTens r.value exponent power
  let below := v.1 / v.2
  let twice := 2 * (v.1 % v.2)
  match readsBack r exponent power below, readsBack r exponent power (below + 1) with
  | true, true =>
    if twice < v.2 || (twice == v.2 && below % 2 == 0) then some below else some (below + 1)
  | true, false => some below
  | false, true => some (below + 1)
  | false, false => none

def shortestFrom (r : Nearest) (exponent : Int) : Nat → Int → Decimal
  | 0, power => ⟨0, power⟩
  | steps + 1, power =>
    match gridPoint? r exponent power with
    | some n => Decimal.trimZeros 20 ⟨n, power⟩
    | none => shortestFrom r exponent steps (power - 1)

def shortest (mantissa : Nat) (exponent : Int) : Decimal :=
  if mantissa == 0 then ⟨0, 0⟩
  else shortestFrom (nearest mantissa exponent) exponent 18 (leadingPower mantissa exponent)

end Binary64

/-- How a number is written: positionally while the decimal point lies in the span, which is
counted from the front of the digits, otherwise with an exponent of at least `exponentWidth`
digits. -/
structure NumberFormat where
  firstPoint : Int
  lastPoint : Int
  exponentWidth : Nat
  infinity : Text
  undefined : Text
  deriving DecidableEq, Repr

namespace NumberFormat

def signText (negative : Bool) : Text := if negative then "-" else ""

def padLeft (width : Nat) (ds : List Char) : List Char :=
  List.replicate (width - ds.length) '0' ++ ds

def positional (ds : List Char) (point : Int) : List Char :=
  if point ≤ 0 then '0' :: '.' :: (List.replicate (-point).toNat '0' ++ ds)
  else if ds.length ≤ point.toNat then
    ds ++ List.replicate (point.toNat - ds.length) '0' ++ ['.', '0']
  else ds.take point.toNat ++ '.' :: ds.drop point.toNat

def scientific (f : NumberFormat) (ds : List Char) (exponent : Int) : List Char :=
  let mantissa := match ds with
    | [] => []
    | [d] => [d]
    | d :: rest => d :: '.' :: rest
  mantissa ++ 'e' :: (if exponent < 0 then '-' else '+') ::
    padLeft f.exponentWidth (Nat.toDigits 10 exponent.natAbs)

def write (f : NumberFormat) : Binary64 → Text
  | .undefined => f.undefined
  | .infinite negative => signText negative ++ f.infinity
  | .finite negative mantissa exponent =>
    let d := Binary64.shortest mantissa exponent
    let ds := Nat.toDigits 10 d.digits
    let point : Int := d.power + ds.length
    signText negative ++ Text.ofChars (
      if f.firstPoint ≤ point && point ≤ f.lastPoint then positional ds point
      else f.scientific ds (point - 1))

end NumberFormat

end RouterLayer
