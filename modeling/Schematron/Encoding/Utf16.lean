/-!
UTF-16 in either byte order. Reading is strict: an odd byte, or a surrogate without its partner,
refuses the whole.
-/
namespace Schematron

inductive ByteOrder
  | little
  | big
  deriving DecidableEq, Repr

namespace Utf16

def unit (order : ByteOrder) (first second : UInt8) : Nat :=
  match order with
  | .little => second.toNat * 256 + first.toNat
  | .big => first.toNat * 256 + second.toNat

def unitBytes (order : ByteOrder) (unit : Nat) : List UInt8 :=
  match order with
  | .little => [UInt8.ofNat (unit % 256), UInt8.ofNat (unit / 256)]
  | .big => [UInt8.ofNat (unit / 256), UInt8.ofNat (unit % 256)]

def charUnits (c : Char) : List Nat :=
  if c.toNat < 0x10000 then [c.toNat]
  else
    let offset := c.toNat - 0x10000
    [0xD800 + offset / 0x400, 0xDC00 + offset % 0x400]

def encode (order : ByteOrder) (text : List Char) : List UInt8 :=
  (text.flatMap charUnits).flatMap (unitBytes order)

def units? (order : ByteOrder) : List UInt8 → Option (List Nat)
  | [] => some []
  | [_] => none
  | first :: second :: rest => (units? order rest).map (unit order first second :: ·)

def isHighSurrogate (unit : Nat) : Bool :=
  0xD800 ≤ unit && unit < 0xDC00

def isLowSurrogate (unit : Nat) : Bool :=
  0xDC00 ≤ unit && unit < 0xE000

def text? : List Nat → Option (List Char)
  | [] => some []
  | unit :: rest =>
    if isHighSurrogate unit then
      match rest with
      | [] => none
      | low :: rest =>
        if isLowSurrogate low then
          (text? rest).map
            (Char.ofNat (0x10000 + (unit - 0xD800) * 0x400 + (low - 0xDC00)) :: ·)
        else none
    else if isLowSurrogate unit then none
    else (text? rest).map (Char.ofNat unit :: ·)

def decode (order : ByteOrder) (bytes : List UInt8) : Option (List Char) :=
  (units? order bytes).bind text?

end Utf16
end Schematron
