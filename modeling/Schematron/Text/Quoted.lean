import Schematron.Text.Digits
import Schematron.Text.Printable

/-!
Text in quotes, as error messages show it. The quote itself, the backslash, tab, line feed,
carriage return and NUL have a backslash escape of their own; every other character that cannot
be shown as it is becomes its code point in braces.
-/
namespace Schematron.Text

def quotedChar (quote c : Char) : List Char :=
  if c = '\x00' then ['\\', '0']
  else if c = '\t' then ['\\', 't']
  else if c = '\r' then ['\\', 'r']
  else if c = '\n' then ['\\', 'n']
  else if c = '\\' ∨ c = quote then ['\\', c]
  else if isPrintable c then [c]
  else ['\\', 'u', '\x7b'] ++ hexDigits c.toNat ++ ['\x7d']

def quoted (text : List Char) : String :=
  String.ofList ('"' :: text.flatMap (quotedChar '"') ++ ['"'])

def quotedSingle (c : Char) : String :=
  String.ofList ('\'' :: quotedChar '\'' c ++ ['\''])

end Schematron.Text
