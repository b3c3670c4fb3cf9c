import Schematron.Json.Reader

/-!
Reading JSON numbers. Whole numbers of 64 bits stay whole; all others become floating-point
numbers, from the significand that fits 64 bits and a power of ten. Digits that the significand
has no room for are dropped: before the point they count as zeros, after it not at all.
-/
namespace Schematron.Json

inductive Number
  | integer (value : Int)
  | float (value : Float)

def digitValue (c : Char) : Nat :=
  c.toNat - 0x30

def largestPower : Nat := 308

def powerOfTen (exponent : Nat) : Float :=
  Float.ofScientific 1 false exponent

def dividedByPower (value : Float) (exponent : Nat) : Float :=
  if exponent ≤ largestPower then value / powerOfTen exponent
  else if value == 0 then value
  else dividedByPower (value / powerOfTen largestPower) (exponent - largestPower)
termination_by exponent
decreasing_by
  simp only [largestPower] at *
  omega

def scaled? (significand : Nat) (scale : Int) : Option Float :=
  let value := significand.toUInt64.toFloat
  if scale < 0 then some (dividedByPower value (-scale).toNat)
  else if scale ≤ largestPower then
    let product := value * powerOfTen scale.toNat
    if product.isInf then none else some product
  else if significand = 0 then some value
  else none

def Number.found : Number → Found
  | .integer value => .integer value
  | .float value => .float value.toBits

/-- Reads digits into a significand as long as it fits 64 bits: the significand, the number
of digits read and the text left. -/
def readSignificand (significand count : Nat) (text : List Char) : Nat × Nat × List Char :=
  match text with
  | [] => (significand, count, [])
  | c :: rest =>
    let next := significand * 10 + digitValue c
    if c.isDigit ∧ next < 0x10000000000000000 then readSignificand next (count + 1) rest
    else (significand, count, c :: rest)

/-- Reads digits into an exponent; it has no value once it passes 31 bits, which ends the
reading. -/
def readExponentDigits (exponent : Nat) (text : List Char) : Option Nat × List Char :=
  match text with
  | [] => (some exponent, [])
  | c :: rest =>
    if c.isDigit then
      let next := exponent * 10 + digitValue c
      if next < 0x80000000 then readExponentDigits next rest else (none, rest)
    else (some exponent, c :: rest)

def floatBefore (significand : Nat) (scale : Int) (rest : List Char) : Read Float :=
  match scaled? significand scale with
  | some value => .ok (value, rest)
  | none => .error (behind .numberOutOfRange rest)

def readExponent (significand : Nat) (scale : Int) (text : List Char) : Read Float :=
  let (negative, digits) := match text with
    | '+' :: rest => (false, rest)
    | '-' :: rest => (true, rest)
    | rest => (false, rest)
  match digits with
  | [] => .error (behind .endInValue [])
  | c :: rest =>
    if c.isDigit then
      match readExponentDigits (digitValue c) rest with
      | (some exponent, rest) =>
        floatBefore significand (if negative then scale - exponent else scale + exponent) rest
      | (none, rest) =>
        if significand ≠ 0 ∧ !negative then .error (behind .numberOutOfRange rest)
        else .ok (0, rest.dropWhile Char.isDigit)
    else .error (beforeNext .invalidNumber (c :: rest))

def readScale (significand : Nat) (scale : Int) (text : List Char) : Read Float :=
  match text with
  | 'e' :: rest => readExponent significand scale rest
  | 'E' :: rest => readExponent significand scale rest
  | rest => floatBefore significand scale rest

def readFraction (significand : Nat) (scale : Int) (text : List Char) : Read Float :=
  let (significand, count, rest) := readSignificand significand 0 text
  let dropped := rest.dropWhile Char.isDigit
  if count = 0 ∧ dropped.length = rest.length then
    match rest with
    | [] => .error (beforeNext .endInValue [])
    | _ => .error (beforeNext .invalidNumber rest)
  else readScale significand (scale - count) dropped

def readFloatRest (significand : Nat) (scale : Int) (text : List Char) : Read Float :=
  match text with
  | '.' :: rest => readFraction significand scale rest
  | rest => readScale significand scale rest

/-- A whole number; zero with a sign and numbers below 64 bits are floating-point numbers. -/
def wholeNumber (negative : Bool) (significand : Nat) : Number :=
  if !negative then .integer significand
  else if 1 ≤ significand ∧ significand ≤ signBit then .integer (-significand)
  else .float (-significand.toUInt64.toFloat)

def hasFloatRest (text : List Char) : Bool :=
  match text.head? with
  | some c => c == '.' || c == 'e' || c == 'E'
  | none => false

def signed (negative : Bool) (value : Float) : Number :=
  .float (if negative then -value else value)

/-- Reads a number whose sign has been read. A zero stands alone before the fraction. -/
def readNumber (negative : Bool) (text : List Char) : Read Number :=
  match text with
  | [] => .error (behind .endInValue [])
  | c :: rest =>
    if c = '0' ∧ (rest.head?.any Char.isDigit) then .error (beforeNext .invalidNumber rest)
    else if !c.isDigit then .error (beforeNext .invalidNumber (c :: rest))
    else
      let (significand, _, rest) :=
        if c = '0' then (0, 0, rest) else readSignificand (digitValue c) 0 rest
      let zeros := rest.takeWhile Char.isDigit
      let rest := rest.dropWhile Char.isDigit
      if zeros.isEmpty ∧ !hasFloatRest rest then .ok (wholeNumber negative significand, rest)
      else
        (readFloatRest significand zeros.length rest).map fun (value, rest) =>
          (signed negative value, rest)

end Schematron.Json
