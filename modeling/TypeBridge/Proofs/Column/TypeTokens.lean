import TypeBridge.Proofs.Column.Driver
import TypeBridge.Proofs.Sql.Quoting

/-!
The tokens of column types. A type is read as the words of its name and, in brackets, the numbers that
it has.
-/
namespace TypeBridge

open TypeBridge.Sql

namespace DataType

open TypeBridge.Text (numberText)

def numberToken (value : Nat) : Token := .word (numberText value)

def nameTokens : DataType → List Token
  | doublePrecision => [.word "double", .word "precision"]
  | type => [.word (Driver.baseName type)]

def sizeTokens : DataType → List Token
  | decimal precision scale | number precision (some scale) =>
    [.symbol '(', numberToken precision, .symbol ',', numberToken scale, .symbol ')']
  | number precision none | time precision | dateTime precision | timestamp precision =>
    [.symbol '(', numberToken precision, .symbol ')']
  | char length => [.symbol '(', numberToken length, .symbol ')']
  | charOfChars length | varcharOfChars length =>
    [.symbol '(', numberToken length, .word "CHAR", .symbol ')']
  | _ => []

def tokens (type : DataType) : List Token := type.nameTokens ++ type.sizeTokens

variable {mode : Mode}

theorem lexes_sized {name : String} (size : Nat)
    (head : LexesApart mode (name.toList ++ ['(']) [.word name, .symbol '(']) :
    Lexes mode (sized name size).toList [.word name, .symbol '(', numberToken size, .symbol ')'] := by
  have text : (sized name size).toList =
      name.toList ++ ['('] ++ (Text.numeral size ++ [')']) := by
    simp [sized, Text.toList_numberText]
  have number := (lexes_numeral mode size).append_separates (separates_closing mode)
  rw [text]
  exact (head.append number).lexes

theorem lexes_sizedChars {name : String} (size : Nat)
    (head : LexesApart mode (name.toList ++ ['(']) [.word name, .symbol '(']) :
    Lexes mode (sizedChars name size).toList
      [.word name, .symbol '(', numberToken size, .word "CHAR", .symbol ')'] := by
  have text : (sizedChars name size).toList =
      name.toList ++ ['('] ++ (Text.numeral size ++ " CHAR)".toList) := by
    simp [sizedChars, Text.toList_numberText]
  have closing : Separates mode " CHAR)".toList [.word "CHAR", .symbol ')'] := by
    cases mode <;> decide
  have number := (lexes_numeral mode size).append_separates closing
  rw [text]
  exact (head.append number).lexes

theorem lexes_scaled {name : String} (precision scale : Nat)
    (head : LexesApart mode (name.toList ++ ['(']) [.word name, .symbol '(']) :
    Lexes mode (scaled name precision scale).toList
      [.word name, .symbol '(', numberToken precision, .symbol ',', numberToken scale,
        .symbol ')'] := by
  have text : (scaled name precision scale).toList =
      name.toList ++ ['('] ++ (Text.numeral precision ++ ", ".toList) ++
        (Text.numeral scale ++ [')']) := by
    simp [scaled, Text.toList_numberText]
  have first := (lexes_numeral mode precision).append_separates (separates_comma mode)
  have second := (lexes_numeral mode scale).append_separates (separates_closing mode)
  rw [text]
  exact ((head.append first).append second).lexes

theorem lexes_sql (mode : Mode) (type : DataType) : Lexes mode type.sql.toList type.tokens := by
  cases type with
  | decimal precision scale => exact lexes_scaled precision scale (by cases mode <;> decide)
  | number precision scale =>
    cases scale with
    | none => exact lexes_sized precision (by cases mode <;> decide)
    | some scale => exact lexes_scaled precision scale (by cases mode <;> decide)
  | char size | time size | dateTime size | timestamp size =>
    exact lexes_sized size (by cases mode <;> decide)
  | charOfChars size | varcharOfChars size => exact lexes_sizedChars size (by cases mode <;> decide)
  | _ => exact lex_eq_some.mp (by cases mode <;> decide)

end DataType

end TypeBridge
