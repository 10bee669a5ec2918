import TextAdventure.Decimal.Digits

/-!
# Binary floating point, and its shortest decimal text

Numbers of 53 binary digits, as far as reading a decimal and writing it back need them. All is
done with whole numbers: a number is a whole multiple of a power of two, and so are the bounds of
what rounds to it.
-/

namespace TextAdventure.Decimal

/-- The magnitude `mantissa * 2 ^ exponent`, with at most 53 binary digits in the mantissa. -/
structure Binary64 where
  mantissa : Nat
  exponent : Int
deriving DecidableEq

namespace Binary64

def zero : Binary64 := ⟨0, 0⟩

/-- The least exponent. -/
def minExponent : Int := -1074

/-- The greatest exponent of a mantissa with all 53 digits. -/
def maxExponent : Int := 971

/-- A whole quotient rounded to the nearest, a tie to the even one. -/
def roundDiv (num den : Nat) : Nat :=
  let q := num / den
  let r := num % den
  if den < 2 * r || (den = 2 * r && q % 2 = 1) then q + 1 else q

/-- The quotient of two numbers over a power of two, rounded. -/
def scaledDiv (num den : Nat) (exponent : Int) : Nat :=
  if 0 ≤ exponent then roundDiv num (den * Nat.pow 2 exponent.toNat)
  else roundDiv (num * Nat.pow 2 (-exponent).toNat) den

/-- The number nearest to a quotient; none if that is too great. -/
def ofQuotient (num den : Nat) : Option Binary64 :=
  if num = 0 then some zero
  else
    let least : Int := max minExponent ((num.log2 : Int) - den.log2 - 53)
    let exponent := if Nat.pow 2 53 ≤ scaledDiv num den least then least + 1 else least
    let mantissa := scaledDiv num den exponent
    let rounded : Binary64 :=
      if mantissa = Nat.pow 2 53 then ⟨Nat.pow 2 52, exponent + 1⟩ else ⟨mantissa, exponent⟩
    if maxExponent < rounded.exponent then none else some rounded

def ofNat (n : Nat) : Option Binary64 :=
  ofQuotient n 1

/-- The numerator and denominator of a number. -/
def toQuotient (x : Binary64) : Nat × Nat :=
  if 0 ≤ x.exponent then (x.mantissa * Nat.pow 2 x.exponent.toNat, 1)
  else (x.mantissa, Nat.pow 2 (-x.exponent).toNat)

def mul (x y : Binary64) : Option Binary64 :=
  let (a, b) := x.toQuotient
  let (c, d) := y.toQuotient
  ofQuotient (a * c) (b * d)

/-- The quotient of two numbers, the second of which is not zero. -/
def div (x y : Binary64) : Option Binary64 :=
  let (a, b) := x.toQuotient
  let (c, d) := y.toQuotient
  ofQuotient (a * d) (b * c)

/-- The greatest power of ten that a number is scaled by at once. -/
def maxPower : Nat := 308

/-- A number divided by a power of ten, by the greatest first while that is not enough. -/
def divTenPower (x : Binary64) : Nat → Nat → Option Binary64
  | 0, _ => some zero
  | steps + 1, power =>
    if power ≤ maxPower then do x.div (← ofNat (Nat.pow 10 power))
    else if x.mantissa = 0 then some zero
    else do
      let x ← x.div (← ofNat (Nat.pow 10 maxPower))
      divTenPower x steps (power - maxPower)

/-- A whole number times a power of ten; none if that is too great. -/
def ofDecimal (significand : Nat) (power : Int) : Option Binary64 := do
  let x ← ofNat significand
  if 0 ≤ power then
    if power.toNat ≤ maxPower then x.mul (← ofNat (Nat.pow 10 power.toNat))
    else if significand = 0 then some zero
    else none
  else divTenPower x 8 (-power).toNat

/-- The number nearest to `digits * 10 ^ power`; none if that is too great. -/
def nearest (digits : Nat) (power : Int) : Option Binary64 :=
  if 0 ≤ power then ofQuotient (digits * Nat.pow 10 power.toNat) 1
  else ofQuotient digits (Nat.pow 10 (-power).toNat)

/-- Whether a decimal `digits * 10 ^ power` rounds to a number. -/
def roundsTo (x : Binary64) (digits : Nat) (power : Int) : Bool :=
  match nearest digits power with
  | some y => y.toQuotient == x.toQuotient
  | none => false

/-- The exponent of the first decimal digit of a number that is not zero. -/
def decimalExponent (x : Binary64) : Int :=
  let (num, den) := x.toQuotient
  if den ≤ num then (Decimal.digits (num / den)).length - 1
  else -(Decimal.digits ((den - 1) / num)).length

/-- The two decimals of so many digits on either side of a number, the nearer one first, as their
digits and their power of ten. -/
def neighbours (x : Binary64) (count : Nat) : List (Nat × Int) :=
  let (num, den) := x.toQuotient
  let power := x.decimalExponent - count + 1
  let (num, den) :=
    if 0 ≤ power then (num, den * Nat.pow 10 power.toNat)
    else (num * Nat.pow 10 (-power).toNat, den)
  let below := num / den
  if roundDiv num den = below then [(below, power), (below + 1, power)]
  else [(below + 1, power), (below, power)]

/-- The shortest decimal that rounds to a number that is not zero, the nearest of those. -/
def shortest (x : Binary64) : Nat × Int :=
  let candidates := (List.range 17).flatMap fun i => x.neighbours (i + 1)
  (candidates.find? fun c => x.roundsTo c.1 c.2).getD (0, 0)

/-- Drops the zeros at the end of some digits. -/
def dropZeros (cs : List Char) : List Char :=
  (cs.reverse.dropWhile (· == '0')).reverse

/-- The text of a number: positional from 0.00001 to below 10^16, with a signed exponent
elsewhere. -/
def toText (x : Binary64) : String :=
  if x.mantissa = 0 then "0.0"
  else
    let (digits, power) := x.shortest
    let all := Decimal.digits digits
    let exponent := power + (all.length : Int) - 1
    let ds := dropZeros all
    let zeros (n : Nat) := List.replicate n '0'
    String.ofList <|
      if -5 ≤ exponent && exponent ≤ 15 then
        if exponent < 0 then '0' :: '.' :: (zeros ((-exponent).toNat - 1) ++ ds)
        else
          let whole := exponent.toNat + 1
          if ds.length ≤ whole then ds ++ zeros (whole - ds.length) ++ ['.', '0']
          else ds.take whole ++ '.' :: ds.drop whole
      else
        let fraction :=
          match ds with
          | first :: (second :: rest) => first :: '.' :: second :: rest
          | ds => ds
        fraction ++ ['e', if exponent < 0 then '-' else '+'] ++ Decimal.digits exponent.natAbs

end Binary64

end TextAdventure.Decimal
