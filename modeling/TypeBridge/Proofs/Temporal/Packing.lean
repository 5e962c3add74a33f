import TypeBridge.Proofs.Machine.Codec

/-!
Packed words of milliseconds and a zone key. Packing and unpacking are inverse to one another between the
words on one side, and the milliseconds of 52 bits with the keys of twelve bits on the other; of a wider
key the last twelve bits are kept. Words of one key are in the order of their milliseconds.
-/
namespace TypeBridge.Temporal

variable {millis earlier later : Int} {key : Int16} {packed first second : Int64}

theorem toInt_unpackZoneKey (packed : Int64) : (unpackZoneKey packed).toInt = packed.toInt % 4096 := by
  apply Int16.toInt_ofInt_of_le <;> omega

theorem unpackZoneKey_of_pack (h : pack millis key = .ok packed) :
    (unpackZoneKey packed).toInt = key.toInt % 4096 := by
  rw [toInt_unpackZoneKey, pack_eq_ok.mp h]
  omega

theorem pack_unpack (packed : Int64) : pack (unpackMillis packed) (unpackZoneKey packed) = .ok packed := by
  rw [pack_eq_ok, toInt_unpackZoneKey, unpackMillis]
  omega

theorem pack_lt_pack_iff (packsFirst : pack earlier key = .ok first)
    (packsSecond : pack later key = .ok second) : first < second ↔ earlier < later := by
  have low := pack_eq_ok.mp packsFirst
  have high := pack_eq_ok.mp packsSecond
  rw [Int64.lt_iff_toInt_lt]
  omega

/-- Milliseconds are packed with any key just when they fit in 52 bits. They are unpacked from the word, and
the key is unpacked from it modulo 4096, so itself if it has no more than twelve bits. Every word is packed
from what is unpacked from it, and words of one key are in the order of their milliseconds. Shifts and
masks of bits make and take apart the same words. -/
theorem packing_bijective :
    (∀ (millis : Int) (key : Int16), (∃ packed, pack millis key = .ok packed) ↔
      -(twoTo 51 : Int) ≤ millis ∧ millis < twoTo 51) ∧
    (∀ (millis : Int) (key : Int16) (packed : Int64), pack millis key = .ok packed →
      unpackMillis packed = millis ∧ (unpackZoneKey packed).toInt = key.toInt % 4096 ∧
        (0 ≤ key.toInt ∧ key.toInt < 4096 → unpackZoneKey packed = key)) ∧
    (∀ packed : Int64, pack (unpackMillis packed) (unpackZoneKey packed) = .ok packed) ∧
    (∀ (earlier later : Int) (key : Int16) (first second : Int64), pack earlier key = .ok first →
      pack later key = .ok second → (first < second ↔ earlier < later)) ∧
    (∀ (millis : Int) (key : Int16), Machine.pack millis key = pack millis key) ∧
    ∀ packed : Int64, (Machine.unpackMillis packed).toInt = unpackMillis packed ∧
      Machine.unpackZoneKey packed = unpackZoneKey packed := by
  refine ⟨fun _ _ => exists_pack, ?_, pack_unpack, fun _ _ _ _ _ => pack_lt_pack_iff, Machine.pack_eq,
    fun packed => ⟨Machine.toInt_unpackMillis packed, Machine.unpackZoneKey_eq packed⟩⟩
  intro millis key packed packs
  have bits := unpackZoneKey_of_pack packs
  refine ⟨unpackMillis_of_pack packs, bits, fun short => ?_⟩
  apply Int16.toInt_inj.mp
  rw [bits]
  omega

/-- Five milliseconds before the epoch, with a key below zero of which twelve set bits are left, and with
a key that comes back. -/
theorem packing_bijective_beforeEpoch :
    pack (-5) (-1) = .ok (-16385) ∧ unpackMillis (-16385) = -5 ∧
      (unpackZoneKey (-16385)).toInt = 4095 ∧ pack (-5) 4095 = .ok (-16385) ∧
      unpackZoneKey (-16385) = 4095 ∧ pack (-4) (-1) = .ok (-12289) ∧
      ((-16385 : Int64) < -12289 ↔ (-5 : Int) < -4) := by
  obtain ⟨-, unpacks, -, ordered, -⟩ := packing_bijective
  have packs : pack (-5) (-1) = .ok (-16385) := pack_eq_ok.mpr (by decide)
  have again : pack (-5) 4095 = .ok (-16385) := pack_eq_ok.mpr (by decide)
  have next : pack (-4) (-1) = .ok (-12289) := pack_eq_ok.mpr (by decide)
  obtain ⟨millis, bits, -⟩ := unpacks (-5) (-1) (-16385) packs
  obtain ⟨-, -, short⟩ := unpacks (-5) 4095 (-16385) again
  exact ⟨packs, millis, bits, again, short (by decide), next, ordered _ _ _ _ _ packs next⟩

end TypeBridge.Temporal
