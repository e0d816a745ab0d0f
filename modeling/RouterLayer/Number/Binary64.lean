set_option autoImplicit false

namespace RouterLayer

/-- A finite number has the value `mantissa * 2 ^ exponent`. The mantissa has at most 53 bits; the
exponent is the least one that the format has, or the mantissa has all of its 53 bits. -/
inductive Binary64
  | finite (negative : Bool) (mantissa : Nat) (exponent : Int)
  | infinite (negative : Bool)
  | undefined
  deriving DecidableEq, Repr

namespace Binary64

def mantissaBits : Nat := 53

def leastExponent : Int := -1074

def greatestExponent : Int := 971

def isZero : Binary64 → Bool
  | .finite _ m _ => m == 0
  | _ => false

def roundDiv (num den : Nat) : Nat :=
  let quotient := num / den
  let twice := 2 * (num % den)
  if twice < den || (twice == den && quotient % 2 == 0) then quotient else quotient + 1

def scaled (num den : Nat) (exponent : Int) : Nat × Nat :=
  (num * Nat.pow 2 (-exponent).toNat, den * Nat.pow 2 exponent.toNat)

/-- An exponent at which the quotient has all of its mantissa bits before the point, unless that
exponent is less than the least. -/
def exponentFor (num den : Nat) : Int :=
  let guess : Int := (num.log2 : Int) - (den.log2 : Int) - mantissaBits
  let s := scaled num den (max guess leastExponent)
  if guess < leastExponent then leastExponent
  else if s.1 / s.2 < Nat.pow 2 mantissaBits then guess
  else guess + 1

def ofQuotient (negative : Bool) (num den : Nat) : Binary64 :=
  let exponent := exponentFor num den
  let s := scaled num den exponent
  let mantissa := roundDiv s.1 s.2
  let carried := mantissa == Nat.pow 2 mantissaBits
  let exponent := if carried then exponent + 1 else exponent
  if greatestExponent < exponent then .infinite negative
  else .finite negative (if carried then Nat.pow 2 (mantissaBits - 1) else mantissa) exponent

/-- The number nearest to `digits * 10 ^ power`. Beyond the decimal range of the format the answer
is known without the powers. -/
def ofDecimal (negative : Bool) (digits : Nat) (power : Int) : Binary64 :=
  let width : Int := (Nat.toDigits 10 digits).length
  if digits == 0 || power + width < -400 then .finite negative 0 leastExponent
  else if 400 < power + width then .infinite negative
  else if 0 ≤ power then ofQuotient negative (digits * Nat.pow 10 power.toNat) 1
  else ofQuotient negative digits (Nat.pow 10 (-power).toNat)

def toInt? : Binary64 → Option Int
  | .finite negative m e =>
    let signed : Nat → Int := fun n => if negative then -(n : Int) else n
    if 0 ≤ e then some (signed (m * Nat.pow 2 e.toNat))
    else if m % Nat.pow 2 (-e).toNat == 0 then some (signed (m / Nat.pow 2 (-e).toNat))
    else none
  | _ => none

end Binary64

end RouterLayer
