import TypeBridge.Column.DataType
import TypeBridge.DriverType
import TypeBridge.Mode
import TypeBridge.Proofs.Text.Numeral

/-!
What a driver reports about a column that was created with a column type. The driver sees the type as it
stands in the statement: a name, and numbers in brackets. Texts without a limit of their own are
reported with the bytes they hold, and dates and times with the width at which they are shown.
-/
namespace TypeBridge.Driver

open TypeBridge.Text

def firstWord (text : List Char) : List Char := (trimStart text).takeWhile (!isBlank ·)

/-- The name of a column type and the numbers in brackets after it. A word that follows a number is
passed over. -/
def parts? (sql : String) : Option (String × List Int) :=
  let name := String.ofList (sql.toList.takeWhile (· != '('))
  match sql.toList.dropWhile (· != '(') with
  | [] => some (name, [])
  | _ :: inner => do
    let arguments ← (inner.dropLast.splitOn ',').mapM fun part =>
      readInteger? (twoTo 31) (firstWord part)
    return (name, arguments)

/-- The width of a time or timestamp: that of no fraction, or one that has a point and digits more. -/
def displayWidth (plain precision : Int) : Int :=
  if precision = 0 then plain else plain + 1 + precision

def unlimited : Int := 2147483647

/-- What the driver reports for a type name with the first two of its numbers; left out numbers are
zero. -/
def reported? (mode : Mode) (name : String) (first second : Int) : Option Descriptor :=
  match mode, name with
  | .mysql, "boolean" => some ((Descriptor.ofType .tinyInt "TINYINT").withSize 1)
  | _, "tinyint" => some (.ofType .tinyInt "TINYINT")
  | _, "smallint" => some (.ofType .smallInt "SMALLINT")
  | _, "integer" => some (.ofType .integer "INT")
  | _, "bigint" => some (.ofType .bigInt "BIGINT")
  | _, "float" => some (.ofType .real "FLOAT")
  | _, "double precision" => some (.ofType .double "DOUBLE")
  | _, "binary_float" => some (.ofType .binaryFloat "BINARY_FLOAT")
  | _, "binary_double" => some (.ofType .binaryDouble "BINARY_DOUBLE")
  | _, "decimal" => some (((Descriptor.ofType .decimal "DECIMAL").withSize first).withDigits second)
  | _, "number" => some (((Descriptor.ofType .numeric "NUMBER").withSize first).withDigits second)
  | _, "char" => some ((Descriptor.ofType .char "CHAR").withSize first)
  | _, "varchar2" => some ((Descriptor.ofType .varchar "VARCHAR2").withSize first)
  | _, "tinytext" => some ((Descriptor.ofType .longVarchar "TINYTEXT").withSize 255)
  | _, "text" => some ((Descriptor.ofType .longVarchar "TEXT").withSize 65535)
  | _, "mediumtext" => some ((Descriptor.ofType .longVarchar "MEDIUMTEXT").withSize 16777215)
  | _, "longtext" => some ((Descriptor.ofType .longVarchar "LONGTEXT").withSize unlimited)
  | _, "clob" => some (.ofType .clob "CLOB")
  | _, "json" => some (.ofType .longVarchar "JSON")
  | _, "blob" => some (.ofType .blob "BLOB")
  | .mysql, "date" => some ((Descriptor.ofType .date "DATE").withSize 10)
  | .oracle, "date" => some ((Descriptor.ofType .timestamp "DATE").withSize 19)
  | _, "time" => some ((Descriptor.ofType .time "TIME").withSize (displayWidth 10 first))
  | _, "datetime" =>
    some (((Descriptor.ofType .timestamp "DATETIME").withSize (displayWidth 19 first)).withDigits first)
  | _, "timestamp" =>
    some (((Descriptor.ofType .timestamp "TIMESTAMP").withSize (displayWidth 19 first)).withDigits first)
  | _, _ => none

def describe? (mode : Mode) (sql : String) : Option Descriptor := do
  let (name, arguments) ← parts? sql
  reported? mode name (arguments.getD 0 0) (arguments.getD 1 0)

theorem firstWord_digits {digits : List Char} (all : ∀ digit ∈ digits, isDigit digit = true)
    (rest : List Char) (ends : ∀ next ∈ rest.head?, isBlank next = true) (present : digits ≠ []) :
    firstWord (digits ++ rest) = digits := by
  have solid : ∀ digit ∈ digits, isBlank digit = false :=
    fun digit member => isBlank_of_isDigit (all digit member)
  obtain ⟨first, others, rfl⟩ := List.exists_cons_of_ne_nil present
  have untrimmed : trimStart (first :: others ++ rest) = first :: others ++ rest := by
    simp only [trimStart, List.cons_append, List.dropWhile_cons, solid first (List.mem_cons_self ..),
      Bool.false_eq_true, ↓reduceIte]
  rw [firstWord, untrimmed, List.takeWhile_append_of_pos]
  · cases rest with
    | nil => simp
    | cons next rest => simp [ends next rfl]
  · intro digit member
    simp [solid digit member]

theorem readInteger?_firstWord {value : Nat} (h : value < twoTo 31) (rest : List Char)
    (ends : ∀ next ∈ rest.head?, isBlank next = true) :
    readInteger? (twoTo 31) (firstWord (numeral value ++ rest)) = some (value : Int) := by
  rw [firstWord_digits (fun _ member => isDigit_of_mem_numeral member) rest ends (numeral_ne_nil value)]
  exact readInteger?_numeral h

theorem parts?_name {name : String} (bare : '(' ∉ name.toList) : parts? name = some (name, []) := by
  have taken : name.toList.takeWhile (· != '(') = name.toList := by
    have taken := @List.takeWhile_append_of_pos _ _ _ [] (bne_of_notMem bare)
    simpa using taken
  have dropped : name.toList.dropWhile (· != '(') = [] := by
    have dropped := @List.dropWhile_append_of_pos _ _ _ [] (bne_of_notMem bare)
    simpa using dropped
  simp only [parts?, taken, dropped, String.ofList_toList]

theorem parts?_bracketed {sql name : String} {inner : List Char} (bare : '(' ∉ name.toList)
    (h : sql.toList = name.toList ++ '(' :: (inner ++ [')'])) :
    parts? sql = ((inner.splitOn ',').mapM fun part =>
      readInteger? (twoTo 31) (firstWord part)).map fun arguments => (name, arguments) := by
  have taken : sql.toList.takeWhile (· != '(') = name.toList := by
    rw [h, List.takeWhile_append_of_pos (bne_of_notMem bare)]
    simp
  have dropped : sql.toList.dropWhile (· != '(') = '(' :: (inner ++ [')']) := by
    rw [h, List.dropWhile_append_of_pos (bne_of_notMem bare)]
    simp
  simp only [parts?, taken, dropped, String.ofList_toList, List.dropLast_concat]
  exact bind_pure_comp _ _

theorem parts?_sized {name : String} (bare : '(' ∉ name.toList) {size : Nat} (h : size < twoTo 31) :
    parts? (DataType.sized name size) = some (name, [(size : Int)]) := by
  have text : (DataType.sized name size).toList = name.toList ++ '(' :: (numeral size ++ [')']) := by
    simp [DataType.sized, toList_numberText]
  rw [parts?_bracketed bare text, List.splitOn_eq_singleton (notMem_numeral (by decide) size)]
  have read := readInteger?_firstWord h [] (by simp)
  rw [List.append_nil] at read
  simp [read]

theorem parts?_sizedChars {name : String} (bare : '(' ∉ name.toList) {size : Nat}
    (h : size < twoTo 31) : parts? (DataType.sizedChars name size) = some (name, [(size : Int)]) := by
  have text : (DataType.sizedChars name size).toList =
      name.toList ++ '(' :: (numeral size ++ " CHAR".toList ++ [')']) := by
    simp [DataType.sizedChars, toList_numberText]
  have whole : ',' ∉ numeral size ++ " CHAR".toList := by
    simp [notMem_numeral (show isDigit ',' = false by decide) size]
  rw [parts?_bracketed bare text, List.splitOn_eq_singleton whole]
  have ends : ∀ next ∈ " CHAR".toList.head?, isBlank next = true := by
    intro next first
    cases first
    rfl
  have read := readInteger?_firstWord h " CHAR".toList ends
  simp only [List.mapM_cons, List.mapM_nil, read]
  rfl

theorem parts?_scaled {name : String} (bare : '(' ∉ name.toList) {precision scale : Nat}
    (hp : precision < twoTo 31) (hs : scale < twoTo 31) :
    parts? (DataType.scaled name precision scale) =
      some (name, [(precision : Int), (scale : Int)]) := by
  have text : (DataType.scaled name precision scale).toList =
      name.toList ++ '(' :: (numeral precision ++ ',' :: ' ' :: numeral scale ++ [')']) := by
    simp [DataType.scaled, toList_numberText]
  have last : ',' ∉ ' ' :: numeral scale := by
    simp [notMem_numeral (show isDigit ',' = false by decide) scale]
  rw [parts?_bracketed bare text,
    List.splitOn_append_cons_self_of_not_mem (notMem_numeral (by decide) precision),
    List.splitOn_eq_singleton last]
  have first := readInteger?_firstWord hp [] (by simp)
  have second := readInteger?_firstWord hs [] (by simp)
  rw [List.append_nil] at first second
  -- The blank after the comma does not count.
  have trimmed : firstWord (' ' :: numeral scale) = firstWord (numeral scale) := rfl
  simp only [List.mapM_cons, List.mapM_nil, trimmed, first, second]
  rfl

def baseName : DataType → String
  | .boolean => "boolean"
  | .tinyInt => "tinyint"
  | .smallInt => "smallint"
  | .integer => "integer"
  | .bigInt => "bigint"
  | .float => "float"
  | .doublePrecision => "double precision"
  | .binaryFloat => "binary_float"
  | .binaryDouble => "binary_double"
  | .decimal _ _ => "decimal"
  | .number _ _ => "number"
  | .char _ | .charOfChars _ => "char"
  | .varcharOfChars _ => "varchar2"
  | .tinyText => "tinytext"
  | .text => "text"
  | .mediumText => "mediumtext"
  | .longText => "longtext"
  | .clob => "clob"
  | .json => "json"
  | .blob => "blob"
  | .date => "date"
  | .time _ => "time"
  | .dateTime _ => "datetime"
  | .timestamp _ => "timestamp"

def numbers : DataType → List Nat
  | .decimal precision scale | .number precision (some scale) => [precision, scale]
  | .number precision none | .time precision | .dateTime precision | .timestamp precision => [precision]
  | .char length | .charOfChars length | .varcharOfChars length => [length]
  | _ => []

/-- The driver reads back the name and the numbers of every column type whose numbers are signed words
of 32 bits. -/
theorem parts?_sql (type : DataType) (bound : ∀ number ∈ numbers type, number < twoTo 31) :
    parts? type.sql = some (baseName type, (numbers type).map Int.ofNat) := by
  cases type with
  | decimal precision scale =>
    exact parts?_scaled (by decide) (bound precision (by simp [numbers])) (bound scale (by simp [numbers]))
  | number precision scale =>
    cases scale with
    | none => exact parts?_sized (by decide) (bound precision (by simp [numbers]))
    | some scale =>
      exact parts?_scaled (by decide) (bound precision (by simp [numbers]))
        (bound scale (by simp [numbers]))
  | char length | time length | dateTime length | timestamp length =>
    exact parts?_sized (by decide) (bound length (by simp [numbers]))
  | charOfChars length | varcharOfChars length =>
    exact parts?_sizedChars (by decide) (bound length (by simp [numbers]))
  | _ => exact parts?_name (by decide)

theorem describe?_sql (mode : Mode) (type : DataType)
    (bound : ∀ number ∈ numbers type, number < twoTo 31) :
    describe? mode type.sql = reported? mode (baseName type)
      (((numbers type).map Int.ofNat).getD 0 0) (((numbers type).map Int.ofNat).getD 1 0) := by
  simp only [describe?, parts?_sql type bound]
  rfl

end TypeBridge.Driver
