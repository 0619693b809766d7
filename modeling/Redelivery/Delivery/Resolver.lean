import Redelivery.Binary.Envelope
import Redelivery.Text.Quoted

/-!
# Resolving payloads

A resolver knows the shape of the payloads that go by a type name.  It turns
received bytes into a payload, or says that the name or the bytes mean nothing.
Bytes after the payload are left alone.
-/

namespace Redelivery

/-- The shapes registered under type names. -/
structure Resolver where
  shapes : Table String PayloadShape
deriving Inhabited

inductive ResolveError where
  | unresolvable (typeName : String)
  | malformed (typeName : String) (cause : Binary.ReadError)
deriving DecidableEq

def ResolveError.message : ResolveError → String
  | unresolvable typeName => "Unresolvable payload of type " ++ typeName
  | malformed typeName cause =>
    "Unresolvable payload of type " ++ typeName ++ ": " ++ cause.message

namespace Resolver

def empty : Resolver := ⟨.empty⟩

/-- Registers a shape under a name, in the place of the one that it had. -/
def register (r : Resolver) (typeName : String) (shape : PayloadShape) :
    Resolver :=
  ⟨r.shapes.insert typeName shape⟩

def isRegistered (r : Resolver) (typeName : String) : Bool :=
  r.shapes.contains typeName

def resolve (r : Resolver) (typeName : String) (bytes : Bytes) :
    Except ResolveError Payload :=
  match r.shapes.get? typeName with
  | none => .error (.unresolvable typeName)
  | some shape =>
    match shape.read bytes with
    | .ok (payload, _) => .ok payload
    | .error cause => .error (.malformed typeName cause)

def text (r : Resolver) : String :=
  "ResolverRegistry \x7b types: [" ++
    ", ".intercalate (r.shapes.keys.map Text.quoted) ++ "] \x7d"

end Resolver

end Redelivery
