import Schematron.Configuration
import Schematron.Sha256
import Schematron.Xml.Document

/-!
Fingerprints of compiled templates: equal for the same configuration and the same written form of
the stylesheet. Lines are not written, so they count only through the configuration.
-/
namespace Schematron

/-- The bytes that a fingerprint is taken of: the configuration, a NUL and the written tree. -/
def fingerprintInput (configuration : Configuration) (root : Xml.Element) : List UInt8 :=
  Utf8.encode configuration.toJson.toList ++ 0 :: Utf8.encode root.print

def fingerprint (configuration : Configuration) (root : Xml.Element) : String :=
  Sha256.hexHash (fingerprintInput configuration root)

end Schematron
