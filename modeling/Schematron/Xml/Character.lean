namespace Schematron.Xml

def between (low high : Nat) (c : Char) : Bool :=
  low ≤ c.toNat && c.toNat ≤ high

def isXmlChar (c : Char) : Bool :=
  c == '\t' || c == '\n' || c == '\r' || between 0x20 0xD7FF c || between 0xE000 0xFFFD c ||
    between 0x10000 0x10FFFF c

def isNameStart (c : Char) : Bool :=
  c == ':' || c == '_' || between 0x41 0x5A c || between 0x61 0x7A c || between 0xC0 0xD6 c ||
    between 0xD8 0xF6 c || between 0xF8 0x2FF c || between 0x370 0x37D c ||
    between 0x37F 0x1FFF c || between 0x200C 0x200D c || between 0x2070 0x218F c ||
    between 0x2C00 0x2FEF c || between 0x3001 0xD7FF c || between 0xF900 0xFDCF c ||
    between 0xFDF0 0xFFFD c || between 0x10000 0xEFFFF c

def isNameChar (c : Char) : Bool :=
  isNameStart c || c == '-' || c == '.' || between 0x30 0x39 c || c == '\u00b7' ||
    between 0x300 0x36F c || between 0x203F 0x2040 c

def isName : List Char → Bool
  | [] => false
  | c :: rest => isNameStart c && rest.all isNameChar

end Schematron.Xml
