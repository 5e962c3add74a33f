import TypeBridge.Json.Reader
import TypeBridge.Json.Record
import TypeBridge.LogicalType.Basic

/-!
Types as JSON: a record whose field `type` says which type it is, with the parameters of the type beside
it. Parameters are kept as they stand, also those that the checked constructors would refuse.
-/
namespace TypeBridge.LogicalType

def tag : LogicalType → String
  | boolean => "boolean"
  | tinyInt => "tiny_int"
  | smallInt => "small_int"
  | integer => "integer"
  | bigInt => "big_int"
  | real => "real"
  | double => "double"
  | decimal _ _ => "decimal"
  | char _ => "char"
  | varchar _ => "varchar"
  | varbinary => "varbinary"
  | json => "json"
  | date => "date"
  | time _ => "time"
  | timestamp _ => "timestamp"
  | timestampWithTimeZone _ => "timestamp_with_time_zone"
  | timeWithTimeZone _ => "time_with_time_zone"
  | uuid => "uuid"

def lengthJson : Option Nat → Json
  | some length => .integer length
  | none => .null

def parameters : LogicalType → List (String × Json)
  | decimal precision scale => [("precision", .integer precision), ("scale", .integer scale)]
  | char length => [("length", .integer length)]
  | varchar length => [("length", lengthJson length)]
  | time precision | timestamp precision | timestampWithTimeZone precision
  | timeWithTimeZone precision => [("precision", .integer precision)]
  | _ => []

def toJson (type : LogicalType) : Json := .object (("type", .string type.tag) :: type.parameters)

def parameter? (field : Option Json) : Option Nat := field.bind (Json.naturalBelow? (twoTo 32))

/-- A length that is left out or null is unbounded. -/
def length? : Option Json → Option (Option Nat)
  | none | some .null => some none
  | some value => (value.naturalBelow? (twoTo 32)).map some

def plain? (type : LogicalType) (content : Json) : Option LogicalType :=
  (content.fields? []).map fun _ => type

def unary? (type : Nat → LogicalType) (name : String) (content : Json) : Option LogicalType := do
  let [value] ← content.fields? [name] | none
  return type (← parameter? value)

def ofTag? (tag : String) (content : Json) : Option LogicalType :=
  match tag with
  | "boolean" => plain? boolean content
  | "tiny_int" => plain? tinyInt content
  | "small_int" => plain? smallInt content
  | "integer" => plain? integer content
  | "big_int" => plain? bigInt content
  | "real" => plain? real content
  | "double" => plain? double content
  | "decimal" => do
    let [precision, scale] ← content.fields? ["precision", "scale"] | none
    return decimal (← parameter? precision) (← parameter? scale)
  | "char" => unary? char "length" content
  | "varchar" => do
    let [length] ← content.fields? ["length"] | none
    return varchar (← length? length)
  | "varbinary" => plain? varbinary content
  | "json" => plain? json content
  | "date" => plain? date content
  | "time" => unary? time "precision" content
  | "timestamp" => unary? timestamp "precision" content
  | "timestamp_with_time_zone" => unary? timestampWithTimeZone "precision" content
  | "time_with_time_zone" => unary? timeWithTimeZone "precision" content
  | "uuid" => plain? uuid content
  | _ => none

def ofJson? : Json → Option LogicalType
  | .object members => do
    let tag ← (← Json.member? "type" members).bind Json.text?
    ofTag? tag (.object (members.filter (·.1 != "type")))
  | .array (.string tag :: rest) => ofTag? tag (.array rest)
  | _ => none

def ofJsonText? (text : String) : Option LogicalType := (Json.read text).toOption.bind ofJson?

end TypeBridge.LogicalType
