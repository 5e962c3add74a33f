import TypeBridge.Error

/-!
Names, literals and search patterns in generated statements. Names cannot be bound as parameters, so each
is checked and quoted, and a quote inside is written twice.
-/
namespace TypeBridge.Sql

/-- Names have between one and 128 bytes and no NUL. -/
def checkName (name : String) : Except Error Unit :=
  if name.isEmpty then .error (.invalidValue .emptyName)
  else if name.toList.contains '\x00' then .error (.invalidValue (.nulInName name))
  else if maxNameBytes < name.utf8ByteSize then .error (.invalidValue (.longName name))
  else .ok ()

/-- A character is written twice wherever it stands. -/
def doubled (special : Char) (text : List Char) : List Char :=
  text.flatMap fun character => if character = special then [character, character] else [character]

def enclosed (quote : Char) (text : List Char) : String :=
  String.ofList (quote :: (doubled quote text ++ [quote]))

def nameQuote : Mode → Char
  | .mysql => '\x60'
  | .oracle => '\x22'

/-- Backslashes are doubled where they escape. -/
def backslashed (mode : Mode) (text : List Char) : List Char :=
  match mode with
  | .mysql => doubled '\\' text
  | .oracle => text

def quoteName (mode : Mode) (name : String) : Except Error String := do
  checkName name
  return enclosed (nameQuote mode) name.toList

/-- The backslashes are doubled first, and the quotes of what that gives next. -/
def literal (mode : Mode) (text : String) : String := enclosed '\x27' (backslashed mode text.toList)

/-- A name as a search pattern: wildcards, and the escape where it is one character, are escaped. -/
def escapePattern (escape name : String) : String :=
  String.ofList (name.toList.flatMap fun character =>
    if character == '_' || character == '%' || escape.toList == [character] then
      escape.toList ++ [character]
    else [character])

end TypeBridge.Sql
