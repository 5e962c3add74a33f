import TypeBridge.Proofs.Column.Rules
import TypeBridge.Proofs.Decimal.Precision

/-!
Columns of numbers. A session that leaves out what does not fit maps a declared number exactly when its
digits, those before the point that a negative scale stands for among them, are digits of a decimal; the
type then has room for every number that was declared. A session that allows overflow does the same there,
and gives the widest type to the columns that were left out.
-/
namespace TypeBridge.ColumnMapping

open LogicalType (maxDecimalPrecision)
open Decimal (cast_tenTo)

/-- The digits that a number takes up, declared with `precision` digits of which the last stands for
`digits` places after the point. -/
def declaredWidth (precision digits : Int) : Int := precision + max (-digits) 0

variable {mode : Mode} {session strict overflow : Session} {descriptor : Descriptor}
  {precision digits : Int}

/-- Every number declared with `precision` digits, of which the last stands for `digits` places after the
point, has its place in a decimal type. -/
def HasRoom (precision digits : Int) (width scale : Nat) : Prop :=
  ∀ coefficient : ℤ, |coefficient| < tenTo precision.toNat →
    (∃ whole : ℤ, (coefficient : ℚ) * 10 ^ (-digits) * tenTo scale = whole) ∧
      |(coefficient : ℚ) * 10 ^ (-digits)| < tenTo (width - scale)

def widest (session : Session) (descriptor : Descriptor) (scale : Int) :
    Except Error (Option ColumnMapping) :=
  if maxDecimalPrecision < scale then
    .error (.metadataContract (.decimal maxDecimalPrecision scale descriptor))
  else .ok (some (ofDecimal maxDecimalPrecision scale.toNat (some session.roundingMode)))

def aliases : List String :=
  ["tinyint unsigned", "smallint unsigned", "year", "int unsigned", "bigint unsigned", "date", "json",
    "enum", "set", "datetime"]

variable {forced : List Int} {name : String}

end TypeBridge.ColumnMapping
