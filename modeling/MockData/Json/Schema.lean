import MockData.Json.Value

/-!
Schemas of records: the types of their members, and which of them have to be there.
-/
namespace MockData.Json

inductive MemberType
  | text
  | optionalText
  | int64
  | uint64
  | double
  deriving DecidableEq, Repr

structure Property where
  name : String
  type : MemberType
  description : Option String
  deriving DecidableEq, Repr

structure Schema where
  title : String
  description : String
  properties : List Property
  deriving DecidableEq, Repr

namespace MemberType

def attributes : MemberType → List (String × Value)
  | .text => [("type", .text "string")]
  | .optionalText => [("type", .array [.text "string", .text "null"])]
  | .int64 => [("type", .text "integer"), ("format", .text "int64")]
  | .uint64 => [("type", .text "integer"), ("format", .text "uint64"), ("minimum", .decimal 0 1)]
  | .double => [("type", .text "number"), ("format", .text "double")]

end MemberType

namespace Schema

def describe : Option String → List (String × Value)
  | some s => [("description", .text s)]
  | none => []

def required (s : Schema) : List String :=
  ((s.properties.filter (·.type ≠ .optionalText)).map (·.name)).mergeSort (· ≤ ·)

def toValue (s : Schema) : Value := .object [
  ("$schema", .text "http://json-schema.org/draft-07/schema#"),
  ("title", .text s.title),
  ("description", .text s.description),
  ("type", .text "object"),
  ("required", .array (s.required.map .text)),
  ("properties", .object (s.properties.map fun p =>
    (p.name, .object (describe p.description ++ p.type.attributes))))]

end Schema

end MockData.Json
