/-
Decimal text of binary numbers.

A number is written with the fewest digits that read back as the same
number, and of the decimals with that many digits the nearest one. The
search goes through the decimal grids of one, two, up to seventeen
digits: on each it tries the two neighbours of the exact value, and the
first grid with a neighbour that reads back wins.

Layout is a separate decision: values from `10 ^ -4` up to `10 ^ 16`
are written positionally, always with a point, and the others with an
exponent of at least two digits and its sign.
-/
import Outline.Number.Binary64

namespace Outline.Binary64

/-- A decimal number: its digits as a natural number, and the power of
ten of the last digit. -/
structure Decimal where
  digits : Nat
  power : Int
deriving DecidableEq, Repr

/-- The power of ten of the first digit of `num / den`, found by
stepping from an estimate. -/
def leadingPower (num den : Nat) : Int :=
  let guess : Int :=
    (Nat.toDigits 10 num).length - (Nat.toDigits 10 den).length
  -- the quotient lies between 10 ^ (guess - 1) and 10 ^ (guess + 1)
  let reached (k : Int) : Bool :=
    if k < 0 then den ≤ num * Nat.pow 10 (-k).toNat
    else den * Nat.pow 10 k.toNat ≤ num
  if reached guess then guess else guess - 1

/-- The two neighbours of `num / den` on the grid of multiples of
`10 ^ power`, the nearer one first. -/
def neighbours (num den : Nat) (power : Int) : List Decimal :=
  let (n, d) :=
    if power < 0 then (num * Nat.pow 10 (-power).toNat, den)
    else (num, den * Nat.pow 10 power.toNat)
  let below := n / d
  let rest := n % d
  if 2 * rest < d || (2 * rest == d && below % 2 == 0) then
    [⟨below, power⟩, ⟨below + 1, power⟩]
  else
    [⟨below + 1, power⟩, ⟨below, power⟩]

/-- The first decimal that reads back as `x` on the grids of `digits`
digits and more. -/
def shortestFrom (x : Binary64) (num den : Nat) (first : Int) :
    (remaining digits : Nat) → Decimal
  | 0, _ => ⟨num, 0⟩
  | remaining + 1, digits =>
    let power := first - (digits : Int) + 1
    match (neighbours num den power).find?
        (fun c => ofDecimal false c.digits c.power == x) with
    | some c => c
    | none => shortestFrom x num den first remaining (digits + 1)

/-- The shortest decimal of a positive finite number. -/
def shortest (mantissa : Nat) (exponent : Int) : Decimal :=
  let x := Binary64.finite false mantissa exponent
  let (num, den) :=
    if exponent < 0 then (mantissa, Nat.pow 2 (-exponent).toNat)
    else (mantissa * Nat.pow 2 exponent.toNat, 1)
  shortestFrom x num den (leadingPower num den) 17 1

/-- A decimal without trailing zeros in its digits. -/
def Decimal.trim (d : Decimal) : Decimal :=
  go 20 d
where
  /-- Drops up to `fuel` zeros. -/
  go : Nat → Decimal → Decimal
    | 0, d => d
    | fuel + 1, d =>
      if d.digits ≠ 0 ∧ d.digits % 10 = 0 then
        go fuel ⟨d.digits / 10, d.power + 1⟩
      else d

/-- The exponent part: a sign and at least two digits. -/
def exponentText (e : Int) : String :=
  let digits := toString e.natAbs
  let padded := if digits.length < 2 then "0" ++ digits else digits
  (if e < 0 then "e-" else "e+") ++ padded

/-- Lays out a positive decimal. -/
def Decimal.layout (d : Decimal) : String :=
  let digits := Nat.toDigits 10 d.digits
  let n : Int := digits.length
  -- the number is 0.d₁d₂… times ten to the power `point`
  let point := n + d.power
  if -4 < point ∧ point ≤ 16 then
    if point ≤ 0 then
      "0." ++ String.ofList (List.replicate (-point).toNat '0' ++ digits)
    else if n ≤ point then
      String.ofList (digits ++ List.replicate (point - n).toNat '0') ++ ".0"
    else
      String.ofList (digits.take point.toNat) ++ "." ++
        String.ofList (digits.drop point.toNat)
  else
    let mantissa := match digits with
      | [] => ""
      | [c] => String.ofList [c]
      | c :: rest => String.ofList (c :: '.' :: rest)
    mantissa ++ exponentText (point - 1)

/-- The text of a number. -/
def toText : Binary64 → String
  | .nan => "nan"
  | .infinite s => if s then "-inf" else "inf"
  | .finite s m e =>
    let magnitude := if m = 0 then "0.0" else (shortest m e).trim.layout
    if s then "-" ++ magnitude else magnitude

end Outline.Binary64
