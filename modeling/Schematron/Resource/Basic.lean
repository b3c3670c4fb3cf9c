import Schematron.Text.Quoted

namespace Schematron

inductive ResolveError
  | notFound (path : String)
  | invalidPath (path : String)
  /-- The resource is there and its stream breaks off. -/
  | unreadable (path cause : String)
  deriving DecidableEq, Repr

namespace ResolveError

def message : ResolveError → String
  | .notFound path => "Stylesheet not found: " ++ path
  | .invalidPath path => "Invalid resource path: " ++ path
  | .unreadable path cause => "Failed to read stylesheet " ++ path ++ ": " ++ cause

def chain (error : ResolveError) : List String :=
  match error with
  | .unreadable _ cause => [error.message, cause]
  | _ => [error.message]

end ResolveError

/-- Bytes to be read, and the cause with which reading breaks off after them, if it does. -/
structure Stream where
  bytes : List UInt8
  breaks : Option String
  deriving DecidableEq, Repr

namespace Stream

def whole (bytes : List UInt8) : Stream :=
  ⟨bytes, none⟩

def readAll (stream : Stream) : Except String (List UInt8) :=
  match stream.breaks with
  | none => .ok stream.bytes
  | some cause => .error cause

end Stream

structure Resource where
  /-- The path from the root; references inside the resource are relative to it. -/
  systemId : String
  stream : Stream
  deriving DecidableEq, Repr

namespace Resource

def readAll (resource : Resource) : Except ResolveError (List UInt8) :=
  resource.stream.readAll.mapError (.unreadable resource.systemId)

def describe (resource : Resource) : String :=
  "ResolvedStylesheet \x7b system_id: " ++ Text.quoted resource.systemId.toList ++ ", .. \x7d"

end Resource
end Schematron
