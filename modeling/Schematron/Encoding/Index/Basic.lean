/-!
Indexes of characters. A pair of bytes names a cell of a table, counted through its rows, and the
cell holds a character or none.
-/
namespace Schematron

/-- Rows of cells. There is no character in a cell that holds U+FFFD, nor behind the end of a row
that is shorter than the others. -/
structure CharIndex where
  width : Nat
  rows : Array String

namespace CharIndex

def char? (index : CharIndex) (pointer : Nat) : Option Char := do
  let row ← index.rows[pointer / index.width]?
  let c ← row.toList[pointer % index.width]?
  if c = '\ufffd' then none else some c

end CharIndex
end Schematron
