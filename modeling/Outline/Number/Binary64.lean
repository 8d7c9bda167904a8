/-
Binary floating-point numbers of 64 bits, as exact values.

A setting such as a time limit is written in decimal and kept in
binary, so both directions need exact rules. A number is not a number,
an infinity, or a sign with a mantissa and a power of two; every
operation here is arithmetic on natural numbers.

`ofRatio` is the only place that rounds: it takes the nearest number of
the format, and of two equally near ones the one with the even
mantissa. Reading a decimal and adding two numbers go through it.
-/
namespace Outline

/-- A 64-bit binary floating-point number. A finite one is its mantissa
times two to its exponent; numbers made by `ofRatio` have the largest
mantissa below `2 ^ 53` that the least exponent `-1074` allows. -/
inductive Binary64 where
  | nan
  | infinite (negative : Bool)
  | finite (negative : Bool) (mantissa : Nat) (exponent : Int)
deriving DecidableEq, Repr, Inhabited

namespace Binary64

/-- The exponent of the smallest numbers. -/
def minExponent : Int := -1074

/-- The exponent of the largest numbers. -/
def maxExponent : Int := 971

/-- Zero, with a sign. -/
def zero (negative : Bool := false) : Binary64 :=
  .finite negative 0 minExponent

/-- The quotient nearest to `num / den`, a half going to the even
neighbour. -/
def roundDiv (num den : Nat) : Nat :=
  let q := num / den
  let r := num % den
  if 2 * r < den then q
  else if den < 2 * r then q + 1
  else if q % 2 = 0 then q else q + 1

/-- `num / den` scaled by two to the power `-e`, as a fraction. -/
def scaled (num den : Nat) (e : Int) : Nat × Nat :=
  if e < 0 then (num * Nat.pow 2 (-e).toNat, den)
  else (num, den * Nat.pow 2 e.toNat)

/-- The exponent that leaves a quotient of at most 53 bits. -/
def exponentFor (num den : Nat) : Int :=
  let guess : Int := (Nat.log2 num : Int) - (Nat.log2 den : Int) - 52
  let (n, d) := scaled num den guess
  let e := if n < d * Nat.pow 2 52 then guess - 1 else guess
  max e minExponent

/-- The number nearest to `num / den`, for a positive denominator. -/
def ofRatio (negative : Bool) (num den : Nat) : Binary64 :=
  if num = 0 then zero negative
  else
    let e := exponentFor num den
    let (n, d) := scaled num den e
    let m := roundDiv n d
    let (m, e) := if m = Nat.pow 2 53 then (Nat.pow 2 52, e + 1) else (m, e)
    if maxExponent < e then .infinite negative else .finite negative m e

/-- The number nearest to `digits * 10 ^ power`. Powers far outside the
format are settled without computing them. -/
def ofDecimal (negative : Bool) (digits : Nat) (power : Int) : Binary64 :=
  if digits = 0 then zero negative
  else
    let magnitude : Int := power + (Nat.toDigits 10 digits).length
    if 400 < magnitude then .infinite negative
    else if magnitude < -400 then zero negative
    else if power < 0 then ofRatio negative digits (Nat.pow 10 (-power).toNat)
    else ofRatio negative (digits * Nat.pow 10 power.toNat) 1

/-- The number nearest to an integer. -/
def ofInt (n : Int) : Binary64 :=
  ofRatio (n < 0) n.natAbs 1

/-- The exact value of a finite number as a fraction with its sign. -/
def ratio? : Binary64 → Option (Bool × Nat × Nat)
  | .finite s m e =>
    some (if e < 0 then (s, m, Nat.pow 2 (-e).toNat)
      else (s, m * Nat.pow 2 e.toNat, 1))
  | _ => none

/-- The integer a finite number is equal to, if it is one. -/
def toInt? (x : Binary64) : Option Int := do
  let (s, n, d) ← x.ratio?
  if n % d = 0 then some (if s then -(n / d : Int) else (n / d : Int)) else none

/-- Whether the number is neither infinite nor undefined. -/
def isFinite : Binary64 → Bool
  | .finite .. => true
  | _ => false

/-- Whether the number is at most zero; no comparison holds of `nan`. -/
def nonpositive : Binary64 → Bool
  | .nan => false
  | .infinite s => s
  | .finite s m _ => s || m == 0

/-- Whether the number is above zero; no comparison holds of `nan`. -/
def positive : Binary64 → Bool
  | .nan => false
  | .infinite s => !s
  | .finite s m _ => !s && m != 0

/-- The opposite number. -/
def neg : Binary64 → Binary64
  | .nan => .nan
  | .infinite s => .infinite (!s)
  | .finite s m e => .finite (!s) m e

/-- Reads `digits . digits` with a decimal exponent; both digit lists
are decimal digits. -/
def ofParts (negative : Bool) (whole fraction : List Char) (power : Int) :
    Binary64 :=
  let value := (whole ++ fraction).foldl
    (fun n c => n * 10 + (c.toNat - '0'.toNat)) 0
  ofDecimal negative value (power - fraction.length)

end Binary64

end Outline
