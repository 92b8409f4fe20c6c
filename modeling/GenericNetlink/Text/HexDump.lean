import GenericNetlink.Text.Numeral

/-!
# Hex dumps

Bytes as two lowercase hexadecimal digits each, separated by single spaces. A reader
takes the pairs between the spaces; it accepts the dumps of byte strings and no other
text (`ofHexDump?_eq_some_iff`).
-/

namespace GenericNetlink.Text

def hexPair (b : UInt8) : String :=
  String.ofList [Nat.digitChar (b.toNat / 16), Nat.digitChar (b.toNat % 16)]

def hexDump (bytes : List UInt8) : String :=
  " ".intercalate (bytes.map hexPair)

def ofHexPair? : List Char → Option UInt8
  | [high, low] => do
    let h ← hexDigit? high
    let l ← hexDigit? low
    return UInt8.ofNat (16 * h + l)
  | _ => none

def ofHexDump? (text : String) : Option (List UInt8) :=
  if text = "" then some [] else (text.toList.splitOn ' ').mapM ofHexPair?

theorem toNat_div_lt (b : UInt8) : b.toNat / 16 < 16 := by
  have hb := b.toNat_lt
  omega

theorem toNat_mod_lt (b : UInt8) : b.toNat % 16 < 16 := Nat.mod_lt _ (by decide)

theorem toList_hexPair (b : UInt8) :
    (hexPair b).toList = [Nat.digitChar (b.toNat / 16), Nat.digitChar (b.toNat % 16)] := by
  simp [hexPair]

@[simp] theorem length_hexPair (b : UInt8) : (hexPair b).length = 2 := by simp [hexPair]

@[simp] theorem utf8ByteSize_hexPair (b : UInt8) : (hexPair b).utf8ByteSize = 2 := by
  have hsize : ∀ d < 16, (Nat.digitChar d).utf8Size = 1 := by decide
  simp [hexPair, String.ofList_cons, hsize _ (toNat_div_lt b), hsize _ (toNat_mod_lt b)]

theorem space_not_mem_hexPair (b : UInt8) : ' ' ∉ (hexPair b).toList := by
  have hnone : ∀ d < 16, ' ' ≠ Nat.digitChar d := by decide
  simp [toList_hexPair, hnone _ (toNat_div_lt b), hnone _ (toNat_mod_lt b)]

theorem ofHexPair?_eq_some_iff {digits : List Char} {b : UInt8} :
    ofHexPair? digits = some b ↔ digits = (hexPair b).toList := by
  rw [toList_hexPair]
  constructor
  · intro h
    match digits with
    | [high, low] =>
      simp only [ofHexPair?, bind, pure, Option.bind_eq_some_iff, hexDigit?_eq_some_iff,
        Option.some.injEq] at h
      obtain ⟨h, ⟨hh, rfl⟩, l, ⟨hl, rfl⟩, rfl⟩ := h
      have hn : (UInt8.ofNat (16 * h + l)).toNat = 16 * h + l := by simp; omega
      rw [hn, show (16 * h + l) / 16 = h by omega, show (16 * h + l) % 16 = l by omega]
  · rintro rfl
    have hhigh := hexDigit?_digitChar _ (toNat_div_lt b)
    have hlow := hexDigit?_digitChar _ (toNat_mod_lt b)
    simp only [ofHexPair?, hhigh, hlow, bind, pure, Option.bind_some, Nat.div_add_mod,
      UInt8.ofNat_toNat]

theorem hexDump_singleton (b : UInt8) : hexDump [b] = hexPair b := String.intercalate_singleton

theorem hexDump_cons_cons (b c : UInt8) (rest : List UInt8) :
    hexDump (b :: c :: rest) = hexPair b ++ " " ++ hexDump (c :: rest) :=
  String.intercalate_cons_cons

theorem hexDump_append {a b : List UInt8} (ha : a ≠ []) (hb : b ≠ []) :
    hexDump (a ++ b) = hexDump a ++ " " ++ hexDump b := by
  rw [hexDump, List.map_append, String.intercalate_append_of_ne_nil (by simpa) (by simpa)]
  rfl

theorem hexDump_flatten (parts : List (List UInt8)) :
    hexDump parts.flatten = " ".intercalate ((parts.filter (· ≠ [])).map hexDump) := by
  induction parts with
  | nil => rfl
  | cons part rest ih =>
    by_cases hp : part = []
    · simpa [hp] using ih
    · rw [List.flatten_cons, List.filter_cons_of_pos (by simpa), List.map_cons]
      by_cases hr : rest.flatten = []
      · have hnone : rest.filter (· ≠ []) = [] := by simpa using hr
        rw [hr, hnone, List.append_nil, List.map_nil, String.intercalate_singleton]
      · have hsome : (rest.filter (· ≠ [])).map hexDump ≠ [] := by simpa using hr
        rw [hexDump_append hp hr, String.intercalate_cons_of_ne_nil hsome, ih]

theorem length_hexDump (bytes : List UInt8) : (hexDump bytes).length = 3 * bytes.length - 1 := by
  induction bytes with
  | nil => rfl
  | cons b rest ih =>
    cases rest with
    | nil => simp [hexDump_singleton]
    | cons c rest =>
      have hspace : " ".length = 1 := rfl
      simp only [hexDump_cons_cons, String.length_append, length_hexPair, hspace, ih,
        List.length_cons]
      omega

theorem utf8ByteSize_hexDump (bytes : List UInt8) :
    (hexDump bytes).utf8ByteSize = (hexDump bytes).length := by
  induction bytes with
  | nil => rfl
  | cons b rest ih =>
    cases rest with
    | nil => simp [hexDump_singleton]
    | cons c rest =>
      have hspace : " ".utf8ByteSize = " ".length := rfl
      simp [hexDump_cons_cons, ih, hspace]

theorem drop_hexDump (bytes : List UInt8) (i : Nat) :
    (hexDump bytes).toList.drop (3 * i) = (hexDump (bytes.drop i)).toList := by
  induction i generalizing bytes with
  | zero => rfl
  | succ i ih =>
    rw [Nat.mul_succ]
    match bytes with
    | [] => simp [hexDump]
    | [b] => simp [hexDump, toList_hexPair]
    | b :: c :: rest => simpa [hexDump_cons_cons, toList_hexPair] using ih (c :: rest)

-- ---------------------------------------------------------------------------
-- Reading
-- ---------------------------------------------------------------------------

theorem toList_hexDump (bytes : List UInt8) :
    (hexDump bytes).toList = [' '].intercalate (bytes.map fun b => (hexPair b).toList) := by
  rw [hexDump, String.toList_intercalate, List.map_map]
  rfl

theorem splitOn_hexDump {bytes : List UInt8} (h : bytes ≠ []) :
    (hexDump bytes).toList.splitOn ' ' = bytes.map fun b => (hexPair b).toList := by
  rw [toList_hexDump]
  refine List.splitOn_intercalate ' ' (fun pair hpair => ?_) (by simpa)
  obtain ⟨b, -, rfl⟩ := List.mem_map.mp hpair
  exact space_not_mem_hexPair b

theorem mapM_ofHexPair?_eq_some_iff {pairs : List (List Char)} {bytes : List UInt8} :
    pairs.mapM ofHexPair? = some bytes ↔ pairs = bytes.map fun b => (hexPair b).toList := by
  induction pairs generalizing bytes with
  | nil => cases bytes <;> simp
  | cons pair rest ih =>
    cases bytes <;> simp [List.mapM_cons, Option.bind_eq_some_iff, ofHexPair?_eq_some_iff, ih]

theorem hexDump_eq_empty_iff {bytes : List UInt8} : hexDump bytes = "" ↔ bytes = [] := by
  constructor
  · intro h
    have hl := length_hexDump bytes
    rw [h, String.length_empty] at hl
    exact List.eq_nil_of_length_eq_zero (by omega)
  · rintro rfl
    rfl

/-- A text that can be read is the dump of its bytes: there are no two spellings. -/
theorem ofHexDump?_eq_some_iff {text : String} {bytes : List UInt8} :
    ofHexDump? text = some bytes ↔ text = hexDump bytes := by
  unfold ofHexDump?
  split
  · rename_i h
    rw [h, Option.some.injEq, eq_comm, eq_comm (a := ""), hexDump_eq_empty_iff]
  · rename_i h
    rw [mapM_ofHexPair?_eq_some_iff]
    constructor
    · intro hs
      rw [← String.toList_inj, toList_hexDump, ← hs, List.intercalate_splitOn]
    · rintro rfl
      exact splitOn_hexDump fun hb => h (hexDump_eq_empty_iff.mpr hb)

theorem hexDump_inj {a b : List UInt8} : hexDump a = hexDump b ↔ a = b := by
  rw [← ofHexDump?_eq_some_iff, ofHexDump?_eq_some_iff.mpr rfl, Option.some.injEq]

example : hexDump [0x00, 0x0a, 0xff] = "00 0a ff" := by decide

end GenericNetlink.Text
