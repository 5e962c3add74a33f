import TypeBridge.Binary.Shortest

/-!
JSON values. An object keeps its members as they stand, repeated keys included; the canonical form has
each key once, with the last of its values, in increasing order.
-/
namespace TypeBridge

/-- Whole numbers are kept exact between the least signed and the greatest unsigned 64-bit number; any
other number is a double. A single precision number only ever comes from a value that is written. -/
inductive Json where
  | null
  | boolean (value : Bool)
  | integer (value : Int)
  | double (value : Binary64)
  | single (value : Binary32)
  | string (value : String)
  | array (items : List Json)
  | object (members : List (String × Json))

namespace Json

def setMember (key : String) (value : Json) : List (String × Json) → List (String × Json)
  | [] => [(key, value)]
  | (other, old) :: rest =>
    if key < other then (key, value) :: (other, old) :: rest
    else if key = other then (key, value) :: rest
    else (other, old) :: setMember key value rest

def orderMembers (members : List (String × Json)) : List (String × Json) :=
  members.foldl (fun ordered (key, value) => setMember key value ordered) []

mutual

def canonical : Json → Json
  | array items => array (canonicalItems items)
  | object members => object (orderMembers (canonicalMembers members))
  | other => other

def canonicalItems : List Json → List Json
  | [] => []
  | item :: rest => canonical item :: canonicalItems rest

def canonicalMembers : List (String × Json) → List (String × Json)
  | [] => []
  | (key, value) :: rest => (key, canonical value) :: canonicalMembers rest

end

end Json

end TypeBridge
