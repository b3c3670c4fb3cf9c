import Schematron.Json.Skip
import Schematron.Json.Typed
import Schematron.Stage

/-!
Reading a stage from JSON: its name as a string, or an object whose only member has that name and
is `null`.
-/
namespace Schematron.Stage

open Json

def readName (text : List Char) : Read Stage :=
  match string text with
  | .error fault => .error fault
  | .ok (content, rest) =>
    match ofName? (String.ofList content) with
    | some stage => .ok (stage, rest)
    | none => .error (behind (.unknownVariant content (all.map name)) rest)

def endObject (text : List Char) : Except Fault (List Char) :=
  match skipBlanks text with
  | [] => .error (behind .endInObject [])
  | c :: rest => if c = '\x7d' then .ok rest else .error (behind .expectedValue (c :: rest))

def skipNull (text : List Char) : Except Fault (List Char) := do
  endObject (← unit (← skipColon text))

def readObject (text : List Char) : Read Stage :=
  match skipBlanks text with
  | [] => .error (beforeNext .endInObject [])
  | c :: rest =>
    if c = '"' then
      match readName rest with
      | .error fault => .error fault
      | .ok (stage, rest) => (skipNull rest).map (stage, ·)
    else if c = '\x7d' then .error (beforeNext .expectedValue (c :: rest))
    else .error (beforeNext .keyNotString (c :: rest))

def read (text : List Char) : Read Stage :=
  match skipBlanks text with
  | [] => .error (beforeNext .endInValue [])
  | c :: rest =>
    if c = '"' then readName rest
    else if c = '\x7b' then readObject rest
    else .error (beforeNext .expectedValue (c :: rest))

def ofJson (json : String) : Except Fault Stage :=
  complete (read json.toList)

end Schematron.Stage
