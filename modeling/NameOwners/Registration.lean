import NameOwners.Index.Basic
import NameOwners.Json.Record

/-!
Registrations: an object in a namespace asks for a DNS name. A registration is read from the JSON
object that describes it, of which only three texts matter, and written back as the smallest
object that says the same.
-/

namespace NameOwners

/-- What an object registers: the DNS name `name` for the object `object` of the namespace `ns`. -/
structure Registration where
  ns : String
  object : String
  name : String
deriving DecidableEq, Repr

inductive RegistrationError where
  | undecodable (cause : Json.Mismatch)
  | empty (field : String)

def RegistrationError.message : RegistrationError → String
  | .undecodable cause => cause.message
  | .empty field => field ++ " is empty"

namespace Registration

def partition (r : Registration) : Partition :=
  Partition.of r.name

def decodeMetadata : Json → Except Json.Mismatch (String × String) :=
  Json.asPair "struct ObjectMeta" "name" "namespace" Json.asString Json.asString

def decodeSpec : Json → Except Json.Mismatch String :=
  Json.asSingle "struct DnsNameResolverSpec" "name" Json.asString

def decode (v : Json) : Except Json.Mismatch Registration :=
  (Json.asPair "struct DnsNameResolverObject" "metadata" "spec" decodeMetadata decodeSpec v).map
    fun ((object, ns), name) => ⟨ns, object, name⟩

def emptyField? (r : Registration) : Option String :=
  if r.ns = "" then some "metadata.namespace"
  else if r.object = "" then some "metadata.name"
  else if r.name = "" then some "spec.name"
  else none

def ofJson (v : Json) : Except RegistrationError Registration :=
  match decode v with
  | .error cause => .error (.undecodable cause)
  | .ok r =>
    match r.emptyField? with
    | some field => .error (.empty field)
    | none => .ok r

def toJson (r : Registration) : Json :=
  .object [
    ("metadata", .object [("name", .string r.object), ("namespace", .string r.ns)]),
    ("spec", .object [("name", .string r.name)])]

end Registration

end NameOwners
