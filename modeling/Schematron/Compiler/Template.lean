import Schematron.Engine.Basic
import Schematron.Text.Quoted

namespace Schematron

structure Template (σ : Type) where
  /-- Tells the templates of one session apart. -/
  id : Nat
  fingerprint : String
  /-- What the last stage produced. -/
  stylesheet : Xml.Document
  apply : Transformation σ

namespace Template

/-- A short description; how the id and the time of the compile are shown is up to the caller. -/
def describe {σ : Type} (template : Template σ) (id compiledAt : String) : String :=
  "CompiledTemplate \x7b id: " ++ id ++ ", compiled_at: " ++ compiledAt ++ ", fingerprint: " ++
    Text.quoted template.fingerprint.toList ++ ", stylesheet_root: " ++
    Text.quoted template.stylesheet.root.name.toList ++ ", .. \x7d"

end Template
end Schematron
