import TypeBridge.LogicalType.Checked

/-!
Reading the name of a type: a base name, arguments in brackets, and `with time zone` after the types
of time. Letter case and surrounding blanks do not matter, and left out arguments have defaults.
-/
namespace TypeBridge.LogicalType

open TypeBridge.Text

/-- The pieces between the separators; one more than there are separators. -/
def splitAt (separator : Char) : List Char → List (List Char)
  | [] => [[]]
  | character :: rest =>
    if character = separator then [] :: splitAt separator rest
    else
      match splitAt separator rest with
      | [] => [[character]]
      | piece :: pieces => (character :: piece) :: pieces

def zoneSuffix : List Char := "with time zone".toList

/-- The text before `with time zone`, and whether that was there. -/
def dropZone (text : List Char) : List Char × Bool :=
  if zoneSuffix.isSuffixOf text then (trimEnd (text.take (text.length - zoneSuffix.length)), true)
  else (text, false)

def splitArguments? (text : List Char) : Option (List Char × List Nat) :=
  match text.dropWhile (· != '(') with
  | [] => some (text, [])
  | _ :: inner =>
    if inner.getLast? = some ')' then
      ((splitAt ',' inner.dropLast).mapM fun piece => readNatural? (twoTo 32) (trim piece)).map
        fun arguments => (trim (text.takeWhile (· != '(')), arguments)
    else none

def unknown (text : String) : Except Error LogicalType := .error (.invalidValue (.unknownType text))

/-- The type of a base name with its arguments; `text` is what was to be read. -/
def ofParts (text base : String) (arguments : List Nat) (zoned : Bool) : Except Error LogicalType :=
  match base, arguments, zoned with
  | "boolean", [], false => .ok boolean
  | "tinyint", [], false => .ok tinyInt
  | "smallint", [], false => .ok smallInt
  | "integer", [], false => .ok integer
  | "int", [], false => .ok integer
  | "bigint", [], false => .ok bigInt
  | "real", [], false => .ok real
  | "double", [], false => .ok double
  | "decimal", [], false => checkedDecimal maxDecimalPrecision 0
  | "decimal", [precision], false => checkedDecimal precision 0
  | "decimal", [precision, scale], false => checkedDecimal precision scale
  | "char", [], false => checkedChar 1
  | "char", [length], false => checkedChar length
  | "varchar", [], false => .ok (varchar none)
  | "varchar", [length], false => .ok (varchar (some length))
  | "varbinary", [], false => .ok varbinary
  | "json", [], false => .ok json
  | "date", [], false => .ok date
  | "time", [], false => checkedTime 3
  | "time", [precision], false => checkedTime precision
  | "time", [], true => checkedTimeWithTimeZone 3
  | "time", [precision], true => checkedTimeWithTimeZone precision
  | "timestamp", [], false => checkedTimestamp 3
  | "timestamp", [precision], false => checkedTimestamp precision
  | "timestamp", [], true => checkedTimestampWithTimeZone 3
  | "timestamp", [precision], true => checkedTimestampWithTimeZone precision
  | "uuid", [], false => .ok uuid
  | _, _, _ => unknown text

def parse (text : String) : Except Error LogicalType :=
  let (head, zoned) := dropZone (lowercase (trim text.toList))
  match splitArguments? head with
  | some (base, arguments) => ofParts text (String.ofList base) arguments zoned
  | none => unknown text

end TypeBridge.LogicalType
