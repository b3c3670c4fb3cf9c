import Schematron.Encoding.Decoder
import Schematron.Encoding.Index.Korean

namespace Schematron.EucKr

def pairChar? (lead trail : UInt8) : Option Char :=
  if 0x41 ≤ trail ∧ trail ≤ 0xFE then
    CharIndex.korean.char? ((lead.toNat - 0x81) * 190 + (trail.toNat - 0x41))
  else none

def decoder : Decoder :=
  Decoder.pairwise (fun b => if b < 0x80 then some (Decoder.asciiChar b) else none)
    (fun b => 0x81 ≤ b ∧ b ≤ 0xFE) fun lead trail => (pairChar? lead trail).map fun c => [c]

end Schematron.EucKr
