namespace Schematron

structure Configuration where
  /-- Whether parsed elements keep the line of their start tag. -/
  sourceLineNumbering : Bool
  deriving DecidableEq, Repr

namespace Configuration

def standard : Configuration :=
  ⟨true⟩

def lineNumberingKey : String := "sourceLineNumbering"

def toJson (configuration : Configuration) : String :=
  "\x7b\"" ++ lineNumberingKey ++ "\":" ++
    (if configuration.sourceLineNumbering then "true" else "false") ++ "\x7d"

end Configuration
end Schematron
