import GenericNetlink.Layout.FixedStruct
import GenericNetlink.Layout.IndirectStruct

/-!
# Dumps show the bytes of a structure

In a dump the place of a byte's digits depends on its index only (`IsDump`), and the bytes
are read back from the digits. So the dump of a structure of fields says what is in its
buffer. The dump of a structure with pointers says what its raw bytes are, and not where
one slot ends and the next begins: slots without bytes leave no trace in it.
-/

namespace GenericNetlink

open Text

/-- The form of a dump: two digits for each byte, high half first, and a space between
neighbours. -/
structure IsDump (text : List Char) (bytes : Bytes) : Prop where
  length : text.length = 3 * bytes.length - 1
  high : ∀ i b, bytes[i]? = some b → text[3 * i]?.bind hexDigit? = some (b.toNat / 16)
  low : ∀ i b, bytes[i]? = some b → text[3 * i + 1]?.bind hexDigit? = some (b.toNat % 16)
  space : ∀ i, i + 1 < bytes.length → text[3 * i + 2]? = some ' '

theorem toList_hexDump_cons (b : UInt8) (rest : Bytes) :
    ∃ behind, (hexDump (b :: rest)).toList =
      Nat.digitChar (b.toNat / 16) :: Nat.digitChar (b.toNat % 16) :: behind := by
  cases rest with
  | nil => exact ⟨[], by simp [hexDump_singleton, toList_hexPair]⟩
  | cons c rest =>
    exact ⟨' ' :: (hexDump (c :: rest)).toList, by simp [hexDump_cons_cons, toList_hexPair]⟩

theorem getElem?_hexDump {bytes : Bytes} {i : Nat} {b : UInt8} (h : bytes[i]? = some b) (k : Nat) :
    (hexDump bytes).toList[3 * i + k]? = (hexDump (b :: bytes.drop (i + 1))).toList[k]? := by
  obtain ⟨hi, rfl⟩ := List.getElem?_eq_some_iff.mp h
  rw [← List.drop_eq_getElem_cons hi, ← drop_hexDump, List.getElem?_drop]

theorem isDump_hexDump (bytes : Bytes) : IsDump (hexDump bytes).toList bytes where
  length := by rw [String.length_toList, length_hexDump]
  high i b h := by
    obtain ⟨behind, hb⟩ := toList_hexDump_cons b (bytes.drop (i + 1))
    rw [← Nat.add_zero (3 * i), getElem?_hexDump h, hb]
    exact hexDigit?_digitChar _ (toNat_div_lt b)
  low i b h := by
    obtain ⟨behind, hb⟩ := toList_hexDump_cons b (bytes.drop (i + 1))
    rw [getElem?_hexDump h, hb]
    exact hexDigit?_digitChar _ (toNat_mod_lt b)
  space i hi := by
    have h : bytes[i]? = some bytes[i] := List.getElem?_eq_getElem (by omega)
    rw [getElem?_hexDump h, List.drop_eq_getElem_cons hi, hexDump_cons_cons]
    simp [toList_hexPair]

/-- Dumps lose nothing. The dump of bytes has the form of one, takes one byte for each of its
characters, and is the only text that is read as these bytes. The dump of a structure of
fields tells its buffer. The dump of a structure with pointers is the dump of its raw bytes
however they are divided: it consists of the dumps of the slots that hold any, and two
structures show the same exactly if their raw bytes are the same. -/
theorem hex_dumps_lossless (bytes : Bytes) :
    (IsDump (hexDump bytes).toList bytes ∧
      (hexDump bytes).utf8ByteSize = 3 * bytes.length - 1) ∧
    (∀ text, ofHexDump? text = some bytes ↔ text = hexDump bytes) ∧
    (∀ others, hexDump others = hexDump bytes ↔ others = bytes) ∧
    (∀ s : FixedStruct, ofHexDump? s.display = some s.bytes ∧
      ∀ t : FixedStruct, s.display = t.display ↔ s.bytes = t.bytes) ∧
    ∀ s : IndirectStruct, s.display = hexDump s.rawBytes ∧
      s.display = " ".intercalate ((s.slots.filter (· ≠ [])).map hexDump) ∧
      ∀ t : IndirectStruct, s.display = t.display ↔ s.rawBytes = t.rawBytes := by
  refine ⟨⟨isDump_hexDump bytes, ?_⟩, fun text => ofHexDump?_eq_some_iff, fun others =>
    hexDump_inj, fun s => ⟨?_, fun t => hexDump_inj⟩, fun s => ⟨rfl, ?_, fun t => hexDump_inj⟩⟩
  · rw [utf8ByteSize_hexDump, length_hexDump]
  · exact ofHexDump?_eq_some_iff.mpr rfl
  · exact hexDump_flatten s.slots

/-- Slots without bytes do not show. -/
example : (IndirectStruct.mk [[], [0x0a], [], [0xff, 0x00], []] .empty).display = "0a ff 00" ∧
    ofHexDump? "0a ff 00" = some [0x0a, 0xff, 0x00] := by decide

end GenericNetlink
