import TypeBridge.Proofs.Decimal.ReadBack
import TypeBridge.Proofs.Json.Exactness
import TypeBridge.Value.Json

/-!
Values of the engine as JSON, and back. What a value holds is read back from what is written of it, kind by
kind, and a document is read by its members and not by their order; so every document of a value gives the
value. This holds of all values but floating-point ones, which reading may round.
-/
namespace TypeBridge.LogicalValue

open TypeBridge.Json

/-- No floating-point number, and no decimal with more digits after the point than are read. -/
def IsExact : LogicalValue → Prop
  | real _ | double _ => False
  | decimal value => value.scale ≤ Decimal.maxScale
  | _ => True

theorem word?_wordJson (value : Int64) : word? (wordJson value) = some value := by
  have low : -(twoTo 63 : Int) ≤ value.toInt := Int64.le_toInt value
  have high : value.toInt < twoTo 63 := Int64.toInt_lt value
  rw [word?, wordJson, integerIn?, if_pos ⟨low, high⟩, Option.map_some, Int64.ofInt_toInt]

theorem naturalBelow?_of_lt {bound value : Nat} (h : value < bound) :
    (Json.integer value).naturalBelow? bound = some value := by
  rw [naturalBelow?, integerIn?, if_pos ⟨Int.natCast_nonneg _, Int.ofNat_lt.mpr h⟩, Option.map_some,
    Int.toNat_natCast]

theorem part?_toNat (value : UInt32) : part? (.integer value.toNat) = some value := by
  have small : value.toNat < twoTo 32 := value.toNat_lt
  rw [part?, naturalBelow?_of_lt small, Option.map_some, UInt32.ofNat_toNat]

theorem byte?_toNat (value : UInt8) : byte? (.integer value.toNat) = some value := by
  have small : value.toNat < twoTo 8 := value.toNat_lt
  rw [byte?, naturalBelow?_of_lt small, Option.map_some, UInt8.ofNat_toNat]

theorem zoneKey?_toInt (value : Int16) : zoneKey? (.integer value.toInt) = some value := by
  have low : -(twoTo 15 : Int) ≤ value.toInt := Int16.le_toInt value
  have high : value.toInt < twoTo 15 := Int16.toInt_lt value
  rw [zoneKey?, integerIn?, if_pos ⟨low, high⟩, Option.map_some, Int16.ofInt_toInt]

theorem bytes?_toNat (bytes : List UInt8) :
    bytes? (.array (bytes.map fun byte => .integer byte.toNat)) = some bytes := by
  rw [bytes?]
  induction bytes with
  | nil => rfl
  | cons byte rest ih =>
    rw [List.map_cons, List.mapM_cons, byte?_toNat, ih]
    rfl

theorem decimal?_text {value : Decimal} (short : value.scale ≤ Decimal.maxScale) :
    decimal? (.string value.text) = some value := by
  rw [decimal?, Decimal.text, String.toList_ofList, Decimal.read_chars short]
  rfl

theorem longTimestamp?_longTimestampJson (value : LongTimestamp) :
    longTimestamp? (longTimestampJson value) = some value := by
  have fields : (longTimestampJson value).fields? ["epoch_micros", "picos_of_micro"] =
      some [some (wordJson value.epochMicros), some (.integer value.picosOfMicro.toNat)] := rfl
  rw [longTimestamp?, fields]
  simp only [Option.bind_eq_bind, Option.bind_some, word?_wordJson, part?_toNat]
  rfl

theorem longZonedTimestamp?_longZonedTimestampJson (value : LongZonedTimestamp) :
    longZonedTimestamp? (longZonedTimestampJson value) = some value := by
  have fields : (longZonedTimestampJson value).fields? ["epoch_millis", "picos_of_milli", "time_zone_key"] =
      some [some (wordJson value.epochMillis), some (.integer value.picosOfMilli.toNat),
        some (.integer value.zoneKey.toInt)] := rfl
  rw [longZonedTimestamp?, fields]
  simp only [Option.bind_eq_bind, Option.bind_some, word?_wordJson, part?_toNat, zoneKey?_toInt]
  rfl

theorem ofTag?_content? {value : LogicalValue} (exact : value.IsExact) :
    ofTag? value.tag value.content? = some value := by
  cases value with
  | null => rfl
  | boolean value => rfl
  | long value | date value | time value | shortTimestamp value | shortZonedTimestamp value =>
    exact congrArg (Option.map _) (word?_wordJson value)
  | real | double => cases exact
  | decimal value => exact congrArg (Option.map _) (decimal?_text exact)
  | text value => rfl
  | bytes value => exact congrArg (Option.map _) (bytes?_toNat value)
  | longTimestamp value => exact congrArg (Option.map _) (longTimestamp?_longTimestampJson value)
  | longZonedTimestamp value =>
    exact congrArg (Option.map _) (longZonedTimestamp?_longZonedTimestampJson value)

def members (value : LogicalValue) : List (String × Json) :=
  ("kind", .string value.tag) ::
    match value.content? with
    | some content => [("value", content)]
    | none => []

theorem ofJson?_of_members {members : List (String × Json)} {tag : String} {content : Option Json}
    (kind : member? "kind" members = some (some (.string tag)))
    (holds : member? "value" members = some content) : ofJson? (.object members) = ofTag? tag content := by
  simp only [ofJson?, kind, holds, Option.bind_eq_bind, Option.bind_some, tagText?]

theorem ofJson?_members {value : LogicalValue} (exact : value.IsExact) :
    ofJson? (.object value.members) = some value ∧ ofJson? (.object value.members.reverse) = some value := by
  rw [← ofTag?_content? exact, members]
  cases value.content? with
  | none => exact ⟨ofJson?_of_members rfl rfl, ofJson?_of_members rfl rfl⟩
  | some content => exact ⟨ofJson?_of_members rfl rfl, ofJson?_of_members rfl rfl⟩

theorem exact_of_word {number : Int} (low : -9223372036854775808 ≤ number)
    (high : number < 9223372036854775808) : Exact number := by
  have words : (twoTo 63 : Int) = 9223372036854775808 ∧ (twoTo 64 : Int) = 18446744073709551616 := ⟨rfl, rfl⟩
  unfold Exact
  omega

theorem isWhole_wordJson (value : Int64) : (wordJson value).IsWhole :=
  .integer (exact_of_word (Int64.le_toInt value) (Int64.toInt_lt value))

theorem plain_content {value : LogicalValue} (exact : value.IsExact) {content : Json}
    (holds : value.content? = some content) :
    content.IsWhole ∧ ∀ depth, NestsWithin (depth + 1) content := by
  have natural : ∀ {number : Nat}, number < 4294967296 → (Json.integer number).IsWhole :=
    fun small => .integer (exact_of_word (by omega) (by omega))
  cases value with
  | null | real | double => cases exact <;> cases holds
  | boolean value =>
    cases holds
    exact ⟨.boolean value, fun _ => .boolean value⟩
  | long value | date value | time value | shortTimestamp value | shortZonedTimestamp value =>
    cases holds
    exact ⟨isWhole_wordJson value, fun _ => .integer _⟩
  | decimal value =>
    cases holds
    exact ⟨.string _, fun _ => .string _⟩
  | text value =>
    cases holds
    exact ⟨.string value, fun _ => .string value⟩
  | bytes value =>
    cases holds
    refine ⟨.array ?_, fun _ => .array ?_⟩
    · rw [List.forall_mem_map]
      intro byte _
      have small := byte.toNat_lt
      exact natural (by omega)
    · rw [List.forall_mem_map]
      exact fun _ _ => .integer _
  | longTimestamp value =>
    cases holds
    refine ⟨.object ?_, fun _ => .object ?_⟩
    · rw [List.forall_mem_cons, List.forall_mem_singleton]
      exact ⟨isWhole_wordJson _, natural value.picosOfMicro.toNat_lt⟩
    · rw [List.forall_mem_cons, List.forall_mem_singleton]
      exact ⟨.integer _, .integer _⟩
  | longZonedTimestamp value =>
    cases holds
    have low := Int16.le_toInt value.zoneKey
    have high := Int16.toInt_lt value.zoneKey
    refine ⟨.object ?_, fun _ => .object ?_⟩
    · rw [List.forall_mem_cons, List.forall_mem_cons, List.forall_mem_singleton]
      exact ⟨isWhole_wordJson _, natural value.picosOfMilli.toNat_lt, .integer (exact_of_word (by omega) (by omega))⟩
    · rw [List.forall_mem_cons, List.forall_mem_cons, List.forall_mem_singleton]
      exact ⟨.integer _, .integer _, .integer _⟩

theorem plain_members {value : LogicalValue} (exact : value.IsExact) :
    ∀ member ∈ value.members, member.2.IsWhole ∧ ∀ depth, NestsWithin (depth + 1) member.2 := by
  rw [members, List.forall_mem_cons]
  refine ⟨⟨.string _, fun _ => .string _⟩, ?_⟩
  split
  next content holds =>
    rw [List.forall_mem_singleton]
    exact plain_content exact holds
  next => simp

/-- Fields that are whole and nested in few brackets are read from each document of them. -/
theorem ofJsonText?_of_denotes {members : List (String × Json)} {text : String}
    (nests : ∀ member ∈ members, ∀ depth, NestsWithin (depth + 1) member.2)
    (denotes : Denotes text (.object members)) : ofJsonText? text = ofJson? (.object members) := by
  have within : NestsWithin maxDepth (.object members) :=
    .object fun member within => nests member within 125
  rw [ofJsonText?, (read_eq_ok_iff denotes).mpr ⟨rfl, within⟩]
  rfl

/-- Every document of a value, with its fields in either order, is read as the value. -/
theorem ofJsonText?_eq_some {value : LogicalValue} (exact : value.IsExact) {text : String}
    (denotes : Denotes text (.object value.members) ∨ Denotes text (.object value.members.reverse)) :
    ofJsonText? text = some value := by
  have nests := fun member within => (plain_members exact member within).2
  rcases denotes with inOrder | swapped
  · rw [ofJsonText?_of_denotes nests inOrder, (ofJson?_members exact).1]
  · rw [ofJsonText?_of_denotes (fun member within => nests member (List.mem_reverse.mp within)) swapped,
      (ofJson?_members exact).2]

/-- Values survive as JSON. A value that is no floating-point number is read back from its document, also when
the fields are swapped, and so no two of them have one document. -/
theorem json_survives :
    (∀ value : LogicalValue, value.IsExact → ofJsonText? value.jsonText = some value ∧
      ∀ members, value.toJson = .object members →
        ofJsonText? (Json.object members.reverse).compact = some value) ∧
    ∀ left right : LogicalValue, left.IsExact → right.IsExact → left.jsonText = right.jsonText →
      left = right := by
  have survives : ∀ value : LogicalValue, value.IsExact → ofJsonText? value.jsonText = some value := by
    intro value exact
    have whole : Json.IsWhole (.object value.members) :=
      .object fun member within => (plain_members exact member within).1
    exact ofJsonText?_eq_some exact (.inl (denotesCompactly_compact whole).denotes)
  refine ⟨fun value exact => ⟨survives value exact, ?_⟩, ?_⟩
  · rintro members same
    cases same
    have whole : Json.IsWhole (.object value.members.reverse) :=
      .object fun member within => (plain_members exact member (List.mem_reverse.mp within)).1
    exact ofJsonText?_eq_some exact (.inr (denotesCompactly_compact whole).denotes)
  · intro left right exact exact' same
    have read := survives left exact
    rw [same, survives right exact'] at read
    exact (Option.some.inj read).symm

/-- A decimal comes back with the zero at its end, in either order of the fields, and is told from the same
number with another scale. -/
theorem json_survives_decimal :
    let value : LogicalValue := .decimal ⟨true, 1250, 2, by decide, nofun⟩
    let other : LogicalValue := .decimal ⟨true, 125, 1, by decide, nofun⟩
    value.IsExact ∧ other.IsExact ∧ ofJsonText? value.jsonText = some value ∧
      ofJsonText? (Json.object [("value", .string "-12.50"), ("kind", .string "decimal")]).compact = some value ∧
        value.jsonText ≠ other.jsonText := by
  intro value other
  have exact : value.IsExact ∧ other.IsExact := by
    simp only [value, other, IsExact]
    decide
  obtain ⟨read, swapped⟩ := json_survives.1 value exact.1
  refine ⟨exact.1, exact.2, read, swapped _ rfl, fun same => ?_⟩
  have equal := json_survives.2 value other exact.1 exact.2 same
  simp only [value, other, decimal.injEq, Decimal.mk.injEq] at equal
  omega

end TypeBridge.LogicalValue
