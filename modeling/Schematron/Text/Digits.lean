namespace Schematron.Text

def hexDigits (n : Nat) : List Char :=
  Nat.toDigits 16 n

def codePointName (c : Char) : String :=
  let digits := (hexDigits c.toNat).map Char.toUpper
  "U+" ++ String.ofList (List.replicate (4 - digits.length) '0' ++ digits)

def byteHex (b : UInt8) : List Char :=
  [Nat.digitChar (b.toNat / 16), Nat.digitChar (b.toNat % 16)]

def bytesHex (bytes : List UInt8) : String :=
  String.ofList (bytes.flatMap byteHex)

def digitValue? (base : Nat) (c : Char) : Option Nat :=
  let value :=
    if '0' ≤ c ∧ c ≤ '9' then some (c.toNat - 0x30)
    else if 'a' ≤ c ∧ c ≤ 'z' then some (c.toNat - 0x61 + 10)
    else if 'A' ≤ c ∧ c ≤ 'Z' then some (c.toNat - 0x41 + 10)
    else none
  value.filter (· < base)

inductive NumeralFault
  | empty
  | invalidDigit
  | tooLarge
  deriving DecidableEq, Repr

def NumeralFault.message : NumeralFault → String
  | .empty => "cannot parse integer from empty string"
  | .invalidDigit => "invalid digit found in string"
  | .tooLarge => "number too large to fit in target type"

/-- Reads on from a value already read. The first digit that is wrong or carries the value past
`limit` decides the fault, so an overflow hides the faults after it. -/
def readDigits (base limit : Nat) : Nat → List Char → Except NumeralFault Nat
  | value, [] => .ok value
  | value, c :: rest =>
    match digitValue? base c with
    | none => .error .invalidDigit
    | some digit =>
      let value := value * base + digit
      if value ≤ limit then readDigits base limit value rest else .error .tooLarge

def readNumeral32 (base : Nat) (digits : List Char) : Except NumeralFault Nat :=
  if digits.isEmpty then .error .empty else readDigits base 0xFFFFFFFF 0 digits

end Schematron.Text
