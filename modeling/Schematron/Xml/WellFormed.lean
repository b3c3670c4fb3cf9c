import Schematron.Text.Blank
import Schematron.Text.Quoted
import Schematron.Text.Split
import Schematron.Xml.Character

/-!
Well-formedness checks on the pieces of a document, each on its text as written. A check answers
with the first rule that is broken.
-/
namespace Schematron.Xml

inductive Violation
  | emptyName
  | nameStart (name : List Char) (found : Char)
  | nameChar (name : List Char) (found : Char)
  | lessThanInValue
  | sectionEndInText
  | hyphensInComment
  /-- The target `xml`, in any case, belongs to the declaration. -/
  | reservedTarget
  | forbiddenChar (found : Char)
  deriving DecidableEq, Repr

def Violation.message : Violation → String
  | .emptyName => "empty name"
  | .nameStart name found =>
    "invalid name " ++ Text.quoted name ++ ": cannot start with " ++ Text.quotedSingle found
  | .nameChar name found =>
    "invalid name " ++ Text.quoted name ++ ": " ++ Text.quotedSingle found ++ " not allowed"
  | .lessThanInValue => "'<' not allowed in attribute value"
  | .sectionEndInText => "']]>' not allowed in character data"
  | .hyphensInComment => "'--' not allowed in comment"
  | .reservedTarget => "XML declaration only allowed at the start of the document"
  | .forbiddenChar found => "character " ++ Text.codePointName found ++ " not allowed"

/-- The Name production, with the first character that does not fit. -/
def checkName (name : List Char) : Except Violation Unit :=
  match name with
  | [] => .error .emptyName
  | c :: rest =>
    if isNameStart c then
      match rest.find? (!isNameChar ·) with
      | some found => .error (.nameChar name found)
      | none => .ok ()
    else .error (.nameStart name c)

def checkChars (text : List Char) : Except Violation Unit :=
  match text.find? (!isXmlChar ·) with
  | some found => .error (.forbiddenChar found)
  | none => .ok ()

def checkAttributeValue (raw : List Char) : Except Violation Unit :=
  if '<' ∈ raw then .error .lessThanInValue else checkChars raw

def checkText (raw : List Char) : Except Violation Unit :=
  if Text.occursIn [']', ']', '>'] raw then .error .sectionEndInText else checkChars raw

def checkComment (content : List Char) : Except Violation Unit :=
  if Text.occursIn ['-', '-'] content ∨ content.getLast? = some '-' then .error .hyphensInComment
  else checkChars content

/-- What stands between `<?` and `?>`. The target ends at ASCII white space. -/
def checkInstruction (content : List Char) : Except Violation Unit := do
  let target := content.takeWhile (!Text.isAsciiBlank ·)
  if target.map Char.toLower = ['x', 'm', 'l'] then throw .reservedTarget
  checkName target
  checkChars content

theorem checkChars_eq_ok_iff {text : List Char} :
    checkChars text = .ok () ↔ ∀ c ∈ text, isXmlChar c = true := by
  unfold checkChars
  split
  next found h =>
    have hm := List.mem_of_find?_eq_some h
    have hf := List.find?_some h
    simp only [reduceCtorEq, false_iff]
    intro all
    simp [all found hm] at hf
  next h => simpa using h

theorem checkName_eq_ok_iff {name : List Char} : checkName name = .ok () ↔ isName name = true := by
  cases name with
  | nil => simp [checkName, isName]
  | cons c rest =>
    simp only [checkName, isName, Bool.and_eq_true]
    split
    next start =>
      simp only [start, true_and]
      split
      next found h =>
        have hm := List.mem_of_find?_eq_some h
        have hf := List.find?_some h
        simp only [reduceCtorEq, false_iff, List.all_eq_true]
        intro all
        simp [all found hm] at hf
      next h => simpa using h
    next start => simp [start]

end Schematron.Xml
