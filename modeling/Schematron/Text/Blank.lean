/-!
Blank characters. Three sets are in use and they are not the same: the white space of XML markup,
ASCII white space, which adds the form feed, and the Unicode property White_Space, by which text
is trimmed.
-/
namespace Schematron.Text

/-- White space of XML markup: space, tab, carriage return and line feed. -/
def isXmlBlank (c : Char) : Bool :=
  c == ' ' || c == '\t' || c == '\r' || c == '\n'

def isAsciiBlank (c : Char) : Bool :=
  isXmlBlank c || c == '\x0c'

/-- The Unicode property White_Space, which has 25 characters. -/
def isBlank (c : Char) : Bool :=
  let point := c.toNat
  (0x9 ≤ point && point ≤ 0xD) || point == 0x20 || point == 0x85 || point == 0xA0 ||
    point == 0x1680 || (0x2000 ≤ point && point ≤ 0x200A) || point == 0x2028 ||
    point == 0x2029 || point == 0x202F || point == 0x205F || point == 0x3000

def trimStart (cs : List Char) : List Char :=
  cs.dropWhile isBlank

def trimEnd (cs : List Char) : List Char :=
  (cs.reverse.dropWhile isBlank).reverse

def trim (cs : List Char) : List Char :=
  trimEnd (trimStart cs)

theorem isAsciiBlank_of_isXmlBlank {c : Char} (h : isXmlBlank c = true) :
    isAsciiBlank c = true := by
  simp [isAsciiBlank, h]

theorem isBlank_of_isAsciiBlank {c : Char} (h : isAsciiBlank c = true) : isBlank c = true := by
  simp only [isAsciiBlank, isXmlBlank, Bool.or_eq_true, beq_iff_eq] at h
  obtain ⟨⟨⟨rfl | rfl⟩ | rfl⟩ | rfl⟩ | rfl := h <;> decide

end Schematron.Text
