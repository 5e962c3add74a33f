import TypeBridge.Column.ReadStrategy
import TypeBridge.Proofs.Json.Canonical
import TypeBridge.Proofs.Json.Exactness

/-!
Columns of JSON documents. A document is decoded into the text of its canonical form, so documents are told
apart by the values they write and not by how they are spelled. This is said of documents with whole 64-bit
numbers only: a double may be written differently from how it was read.
-/
namespace TypeBridge

open TypeBridge.Json

variable {text : String} {value : Json}

theorem canonicalJson_eq_ok (denotes : Denotes text value) {decoded : String} :
    canonicalJson text = .ok decoded ↔
      NestsWithin maxDepth value ∧ decoded = value.canonical.compact := by
  unfold canonicalJson
  split
  next found read =>
    obtain ⟨rfl, nests⟩ := (read_eq_ok_iff denotes).mp read
    simp only [Except.ok.injEq, nests, true_and, eq_comm]
  next fault read =>
    constructor
    · intro h
      cases h
    · rintro ⟨nests, -⟩
      rw [(read_eq_ok_iff denotes).mpr ⟨rfl, nests⟩] at read
      cases read

namespace ReadStrategy

theorem decode_json_eq_ok (denotes : Denotes text value) {decoded : LogicalValue} :
    json.decode (.text text) = .ok decoded ↔
      NestsWithin maxDepth value ∧ decoded = .text value.canonical.compact := by
  rw [decode, map_eq_ok]
  simp only [canonicalJson_eq_ok denotes]
  constructor
  · rintro ⟨_, ⟨nests, rfl⟩, rfl⟩
    exact ⟨nests, rfl⟩
  · rintro ⟨nests, rfl⟩
    exact ⟨_, ⟨nests, rfl⟩, rfl⟩

/-- JSON columns are read in canonical form. A text that is read and has whole 64-bit numbers only is a
document of the value it is read as. A document is decoded unless brackets are nested in it too deep, into
a document without space of the same value with all keys in increasing order, which decodes to itself. Two
documents decode alike just when their values are the same. -/
theorem json_canonical :
    (∀ text value, Json.read text = .ok value ∧ value.IsWhole ↔
      Denotes text value ∧ NestsWithin maxDepth value) ∧
    (∀ text value, Denotes text value →
      ((∃ decoded, json.decode (.text text) = .ok decoded) ↔ NestsWithin maxDepth value)) ∧
    (∀ text value decoded, Denotes text value → json.decode (.text text) = .ok decoded →
      ∃ canonical ordered, decoded = .text canonical ∧ DenotesCompactly canonical ordered ∧
        ordered.Ordered ∧ ordered.SameValue value ∧ json.decode (.text canonical) = .ok (.text canonical)) ∧
    ∀ text value decoded text' value' decoded', Denotes text value → Denotes text' value' →
      json.decode (.text text) = .ok decoded → json.decode (.text text') = .ok decoded' →
      (decoded = decoded' ↔ value.SameValue value') := by
  refine ⟨fun text value => read_eq_ok, ?_, ?_, ?_⟩
  · intro text value denotes
    simp only [decode_json_eq_ok denotes, exists_and_left, exists_eq, and_true]
  · intro text value decoded denotes h
    obtain ⟨nests, rfl⟩ := (decode_json_eq_ok denotes).mp h
    have ordered := ordered_canonical value
    have compactly := denotesCompactly_compact (isWhole_canonical denotes.isWhole)
    refine ⟨_, _, rfl, compactly, ordered, sameValue_canonical value, ?_⟩
    rw [decode_json_eq_ok compactly.denotes, canonical_of_ordered ordered]
    exact ⟨nestsWithin_canonical nests, rfl⟩
  · intro text value decoded text' value' decoded' denotes denotes' h h'
    obtain ⟨-, rfl⟩ := (decode_json_eq_ok denotes).mp h
    obtain ⟨-, rfl⟩ := (decode_json_eq_ok denotes').mp h'
    rw [← canonical_eq_iff]
    constructor
    · intro same
      exact compact_injective (isWhole_canonical denotes.isWhole) (isWhole_canonical denotes'.isWhole)
        (LogicalValue.text.inj same)
    · intro same
      rw [same]

/-- A document with space, a key out of order that is given twice and an escape is decoded into one with none
of these. -/
theorem json_canonical_respelled :
    let text := "\x7b\"b\": 7, \"a\": [\"\\/\"], \"b\": null\x7d"
    let canonical := "\x7b\"a\":[\"/\"],\"b\":null\x7d"
    let value : Json := .object [("b", .integer 7), ("a", .array [.string "/"]), ("b", .null)]
    let ordered : Json := .object [("a", .array [.string "/"]), ("b", .null)]
    Denotes text value ∧ Denotes canonical ordered ∧ value.SameValue ordered ∧
      json.decode (.text text) = .ok (.text canonical) ∧
        json.decode (.text canonical) = .ok (.text canonical) := by
  intro text canonical value ordered
  obtain ⟨reads, accepts, -, alike⟩ := json_canonical
  have items : IsWhole (.array [.string "/"]) := .array (by simpa using .string "/")
  have seven : IsWhole (.integer 7) := .integer (by unfold Exact; decide)
  have whole : value.IsWhole ∧ ordered.IsWhole := ⟨.object (by simp [items, seven, IsWhole.null]),
    .object (by simp [items, IsWhole.null])⟩
  have same : value.SameValue ordered := by
    apply SameValue.ofLast
    intro key
    simp only [lastOf?]
    by_cases "b" = key <;> simp [*]
  have inOrder : ordered.Ordered := by
    refine .object (List.pairwise_pair.mpr (by decide)) ?_
    simp only [List.forall_mem_cons, List.not_mem_nil, false_imp_iff, implies_true, and_true]
    have item : Ordered (.string "/") := .scalar (by simp) (by simp)
    exact ⟨.array (by simpa using item), .scalar (by simp) (by simp)⟩
  have read : Json.read text = .ok value ∧ Json.read canonical = .ok ordered := by
    dsimp only [text, canonical, value, ordered]
    constructor <;> rfl
  obtain ⟨denotes, nests⟩ := (reads text value).mp ⟨read.1, whole.1⟩
  obtain ⟨denotes', nests'⟩ := (reads canonical ordered).mp ⟨read.2, whole.2⟩
  obtain ⟨decoded, h⟩ := (accepts text value denotes).mpr nests
  have h' : json.decode (.text canonical) = .ok (.text canonical) := by
    rw [decode_json_eq_ok denotes', canonical_of_ordered inOrder]
    exact ⟨nests', rfl⟩
  rw [(alike _ _ _ _ _ _ denotes denotes' h h').mpr same] at h
  exact ⟨denotes, denotes', same, h, h'⟩

end ReadStrategy

end TypeBridge
