/-!
The shortest decimal that reads back as a binary floating-point number, and its usual spelling.
A number of 64 bits is taken apart into a mantissa and a power of two; the decimals that round to
it form an interval, and of the decimals with the fewest digits in it the nearest is chosen. All of
this is exact arithmetic on natural numbers.
-/
namespace Schematron.Json

/-- A finite positive number `mantissa · 2 ^ exponent`. At `narrow` the gap to the number below is
half the gap to the one above. -/
structure Binary where
  mantissa : Nat
  exponent : Int
  narrow : Bool
  deriving DecidableEq, Repr

def hiddenBit : Nat := 0x10000000000000

def signBit : Nat := 0x8000000000000000

def Binary.ofBits (bits : Nat) : Binary :=
  let field := bits / hiddenBit % 2048
  let fraction := bits % hiddenBit
  if field = 0 then ⟨fraction, -1074, false⟩
  else ⟨fraction + hiddenBit, Int.ofNat field - 1075, fraction == 0 && 1 < field⟩

structure Ratio where
  numerator : Nat
  denominator : Nat

def quartersOf (exponent : Int) (quarters : Nat) : Ratio :=
  if 0 ≤ exponent then ⟨quarters * Nat.pow 2 exponent.toNat, 4⟩
  else ⟨quarters, 4 * Nat.pow 2 (-exponent).toNat⟩

def Ratio.scaled (ratio : Ratio) (scale : Int) : Ratio :=
  if 0 ≤ scale then ⟨ratio.numerator, ratio.denominator * Nat.pow 10 scale.toNat⟩
  else ⟨ratio.numerator * Nat.pow 10 (-scale).toNat, ratio.denominator⟩

def leadingBelowOne (ratio : Ratio) : Nat → Nat → Int
  | 0, depth => -(depth : Int)
  | fuel + 1, depth =>
    if ratio.denominator ≤ ratio.numerator * Nat.pow 10 depth then -(depth : Int)
    else leadingBelowOne ratio fuel (depth + 1)

def Ratio.leading (ratio : Ratio) : Int :=
  let whole := ratio.numerator / ratio.denominator
  if whole = 0 then leadingBelowOne ratio 330 1
  else ((Nat.toDigits 10 whole).length : Int) - 1

structure Decimal where
  digits : Nat
  scale : Int
  deriving DecidableEq, Repr

/-- The nearer of the two multiples of `10 ^ scale` around a number that lie in its interval. -/
def Binary.onGrid? (number : Binary) (scale : Int) : Option Decimal :=
  let value := (quartersOf number.exponent (4 * number.mantissa)).scaled scale
  let low := (quartersOf number.exponent
    (4 * number.mantissa - (if number.narrow then 1 else 2))).scaled scale
  let high := (quartersOf number.exponent (4 * number.mantissa + 2)).scaled scale
  let even := number.mantissa % 2 = 0
  let inside (n : Nat) : Bool :=
    let aboveLow := low.numerator < n * low.denominator ∨
      (even ∧ low.numerator = n * low.denominator)
    let belowHigh := n * high.denominator < high.numerator ∨
      (even ∧ n * high.denominator = high.numerator)
    aboveLow ∧ belowHigh
  let below := value.numerator / value.denominator
  let rest := 2 * (value.numerator % value.denominator)
  let nearerBelow := rest < value.denominator ∨ (rest = value.denominator ∧ below % 2 = 0)
  match inside below, inside (below + 1) with
  | true, true => some ⟨if nearerBelow then below else below + 1, scale⟩
  | true, false => some ⟨below, scale⟩
  | false, true => some ⟨below + 1, scale⟩
  | false, false => none

/-- Tries finer and finer grids; seventeen digits are always enough. -/
def Binary.shortestFrom (number : Binary) : Nat → Int → Decimal
  | 0, scale => ⟨number.mantissa, scale⟩
  | fuel + 1, scale =>
    match number.onGrid? scale with
    | some decimal => decimal
    | none => number.shortestFrom fuel (scale - 1)

def Binary.shortest (number : Binary) : Decimal :=
  number.shortestFrom 20 (quartersOf number.exponent (4 * number.mantissa)).leading

def Decimal.stripped (decimal : Decimal) : Nat → Decimal
  | 0 => decimal
  | fuel + 1 =>
    if decimal.digits % 10 = 0 ∧ decimal.digits ≠ 0 then
      (Decimal.mk (decimal.digits / 10) (decimal.scale + 1)).stripped fuel
    else decimal

/-- The spelling of a positive decimal: positional from 1e-5 up to 1e16, with a fraction always
shown, and beyond that with an exponent that always has its sign. -/
def Decimal.spelling (decimal : Decimal) : String :=
  let digits := Nat.toDigits 10 decimal.digits
  let length : Int := digits.length
  let point := length + decimal.scale
  if 0 ≤ decimal.scale ∧ point ≤ 16 then
    String.ofList (digits ++ List.replicate decimal.scale.toNat '0' ++ ['.', '0'])
  else if 0 < point ∧ point ≤ 16 then
    String.ofList (digits.take point.toNat ++ '.' :: digits.drop point.toNat)
  else if -5 < point ∧ point ≤ 0 then
    String.ofList (['0', '.'] ++ List.replicate (-point).toNat '0' ++ digits)
  else
    let exponent := point - 1
    let mantissa := match digits with
      | [] => []
      | [digit] => [digit]
      | digit :: rest => digit :: '.' :: rest
    String.ofList mantissa ++ (if 0 ≤ exponent then "e+" else "e") ++ toString exponent

def floatSpelling (bits : UInt64) : String :=
  let sign := if signBit ≤ bits.toNat then "-" else ""
  let number := Binary.ofBits (bits.toNat % signBit)
  if number.mantissa = 0 then sign ++ "0.0" else sign ++ (number.shortest.stripped 20).spelling

end Schematron.Json
