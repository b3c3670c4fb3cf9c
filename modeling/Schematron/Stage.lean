/-!
The three stages of the pipeline in their fixed order: includes are expanded, then abstract
patterns, then the validating stylesheet is generated.
-/
namespace Schematron

inductive Stage
  | includeExpand
  | abstractExpand
  | svrlGenerate
  deriving DecidableEq, Repr

namespace Stage

def all : List Stage :=
  [.includeExpand, .abstractExpand, .svrlGenerate]

def name : Stage → String
  | .includeExpand => "include-expand"
  | .abstractExpand => "abstract-expand"
  | .svrlGenerate => "svrl-generate"

def stylesheet : Stage → String
  | .includeExpand => "iso_dsdl_include.xsl"
  | .abstractExpand => "iso_abstract_expand.xsl"
  | .svrlGenerate => "iso_svrl_for_xslt2.xsl"

def index : Stage → Nat
  | .includeExpand => 0
  | .abstractExpand => 1
  | .svrlGenerate => 2

def ofName? (name : String) : Option Stage :=
  all.find? (·.name == name)

def toJson (stage : Stage) : String :=
  "\"" ++ stage.name ++ "\""

end Stage

def stylesheetDirectory : String := "iso-schematron-xslt2"

end Schematron
