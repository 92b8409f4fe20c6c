import GenericNetlink.Layout.Bytes

/-!
# Words in memory

Integers of a fixed number of bytes, stored with the least significant byte
first. `IntType.encode` and `IntType.decode` are inverse on the values that the
type holds; a signed type reads the upper half of its range as negative.
-/

namespace GenericNetlink

def littleEndian : Nat → Nat → Bytes
  | 0, _ => []
  | size + 1, n => UInt8.ofNat n :: littleEndian size (n / 256)

def ofLittleEndian : Bytes → Nat
  | [] => 0
  | b :: rest => b.toNat + 256 * ofLittleEndian rest

def wordCount : Nat → Nat
  | 0 => 1
  | size + 1 => 256 * wordCount size

theorem wordCount_pos (size : Nat) : 0 < wordCount size := by
  induction size with
  | zero => decide
  | succ size ih =>
    rw [wordCount]
    omega

theorem wordCount_add (m n : Nat) : wordCount (m + n) = wordCount m * wordCount n := by
  induction m with
  | zero => rw [Nat.zero_add, wordCount, Nat.one_mul]
  | succ m ih => rw [Nat.succ_add, wordCount, ih, wordCount, Nat.mul_assoc]

@[simp] theorem length_littleEndian (size n : Nat) : (littleEndian size n).length = size := by
  induction size generalizing n with
  | zero => rfl
  | succ size ih => simp [littleEndian, ih]

theorem getElem?_littleEndian {size k : Nat} (hk : k < size) (n : Nat) :
    (littleEndian size n)[k]? = some (UInt8.ofNat (n / wordCount k)) := by
  induction k generalizing size n with
  | zero =>
    cases size with
    | zero => cases hk
    | succ size => rw [littleEndian, List.getElem?_cons_zero, wordCount, Nat.div_one]
  | succ k ih =>
    cases size with
    | zero => cases hk
    | succ size =>
      rw [littleEndian, List.getElem?_cons_succ, ih (Nat.lt_of_succ_lt_succ hk),
        Nat.div_div_eq_div_mul, wordCount]

theorem ofLittleEndian_lt (b : Bytes) : ofLittleEndian b < wordCount b.length := by
  induction b with
  | nil => decide
  | cons x rest ih =>
    have hx := x.toNat_lt
    simp only [ofLittleEndian, List.length_cons, wordCount]
    omega

theorem ofLittleEndian_littleEndian (size n : Nat) :
    ofLittleEndian (littleEndian size n) = n % wordCount size := by
  induction size generalizing n with
  | zero => simp [littleEndian, ofLittleEndian, wordCount, Nat.mod_one]
  | succ size ih =>
    rw [littleEndian, ofLittleEndian, ih, UInt8.toNat_ofNat', wordCount, Nat.mod_mul]

theorem littleEndian_ofLittleEndian (b : Bytes) :
    littleEndian b.length (ofLittleEndian b) = b := by
  induction b with
  | nil => rfl
  | cons x rest ih =>
    have hx := x.toNat_lt
    simp only [List.length_cons, littleEndian, ofLittleEndian]
    rw [show (x.toNat + 256 * ofLittleEndian rest) / 256 = ofLittleEndian rest by omega, ih]
    congr 1
    apply UInt8.toNat_inj.mp
    rw [UInt8.toNat_ofNat']
    omega

theorem toNat_ofLittleEndian {b : Bytes} (h : b.length = 4) :
    (UInt32.ofNat (ofLittleEndian b)).toNat = ofLittleEndian b := by
  have hlt := ofLittleEndian_lt b
  rw [h] at hlt
  rw [UInt32.toNat_ofNat']
  exact Nat.mod_eq_of_lt hlt

theorem ofLittleEndian_eq_zero_iff (b : Bytes) : ofLittleEndian b = 0 ↔ b.isZero = true := by
  induction b with
  | nil => exact ⟨fun _ => rfl, fun _ => rfl⟩
  | cons x rest ih =>
    have hx : x.toNat = 0 ↔ x = 0 := by rw [← UInt8.toNat_inj, UInt8.toNat_zero]
    rw [ofLittleEndian, Bytes.isZero, List.all_cons, Bool.and_eq_true, beq_iff_eq, ← hx,
      ← Bytes.isZero, ← ih]
    omega

-- ---------------------------------------------------------------------------
-- Integer types
-- ---------------------------------------------------------------------------

structure IntType where
  size : Nat
  signed : Bool
  deriving DecidableEq

namespace IntType

def u8 : IntType := ⟨1, false⟩
def u16 : IntType := ⟨2, false⟩
def u32 : IntType := ⟨4, false⟩
def u64 : IntType := ⟨8, false⟩
def i8 : IntType := ⟨1, true⟩
def i16 : IntType := ⟨2, true⟩
def i32 : IntType := ⟨4, true⟩
def i64 : IntType := ⟨8, true⟩

def otherSign (t : IntType) : IntType := { t with signed := !t.signed }

def modulus (t : IntType) : Nat := wordCount t.size

def Holds (t : IntType) (n : Int) : Prop :=
  if t.signed then -(t.modulus : Int) ≤ 2 * n ∧ 2 * n < t.modulus else 0 ≤ n ∧ n < t.modulus

instance (t : IntType) (n : Int) : Decidable (t.Holds n) := by
  unfold Holds
  infer_instance

/-- The bytes of a number, taken modulo the number of values of the type. -/
def encode (t : IntType) (n : Int) : Bytes :=
  littleEndian t.size (n % t.modulus).toNat

/-- The value that bytes stand for; a signed type reads its upper half as negative. -/
def decode (t : IntType) (b : Bytes) : Int :=
  let n : Int := ofLittleEndian b
  if t.signed then n.bmod t.modulus else n

@[simp] theorem length_encode (t : IntType) (n : Int) : (t.encode n).length = t.size := by
  simp [encode]

theorem modulus_pos (t : IntType) : 0 < t.modulus := wordCount_pos t.size

theorem ofLittleEndian_encode (t : IntType) (n : Int) :
    (ofLittleEndian (t.encode n) : Int) = n % t.modulus := by
  have hm : (t.modulus : Int) ≠ 0 := Int.natCast_ne_zero.mpr (Nat.ne_of_gt t.modulus_pos)
  have hlt := Int.emod_lt_of_pos n (Int.natCast_pos.mpr t.modulus_pos)
  have hnn := Int.emod_nonneg n hm
  rw [encode, ofLittleEndian_littleEndian, ← modulus, Nat.mod_eq_of_lt (by omega),
    Int.toNat_of_nonneg hnn]

theorem decode_encode {t : IntType} {n : Int} (h : t.Holds n) : t.decode (t.encode n) = n := by
  unfold Holds at h
  rw [decode, ofLittleEndian_encode]
  split at h
  · rename_i hs
    rw [if_pos hs, Int.emod_bmod, Int.bmod_eq_of_le_mul_two (by omega) (by omega)]
  · rename_i hs
    rw [if_neg hs, Int.emod_eq_of_lt h.1 h.2]

theorem ofLittleEndian_lt_modulus {t : IntType} {b : Bytes} (h : b.length = t.size) :
    ofLittleEndian b < t.modulus := by
  rw [modulus, ← h]
  exact ofLittleEndian_lt b

/-- The reading of bytes is the number that they stand for, up to a multiple of the modulus. -/
theorem decode_emod {t : IntType} {b : Bytes} (h : b.length = t.size) :
    t.decode b % t.modulus = ofLittleEndian b := by
  have hlt := ofLittleEndian_lt_modulus h
  have hn : (ofLittleEndian b : Int) % t.modulus = ofLittleEndian b :=
    Int.emod_eq_of_lt (Int.natCast_nonneg _) (Int.ofNat_lt.mpr hlt)
  rw [decode]
  split
  · rw [Int.bmod_emod, hn]
  · exact hn

theorem holds_decode {t : IntType} {b : Bytes} (h : b.length = t.size) : t.Holds (t.decode b) := by
  have hlt := ofLittleEndian_lt_modulus h
  simp only [Holds, decode]
  split
  · have hle := Int.le_bmod (x := ofLittleEndian b) t.modulus_pos
    have hgt := Int.bmod_lt (x := ofLittleEndian b) t.modulus_pos
    omega
  · omega

theorem encode_decode {t : IntType} {b : Bytes} (h : b.length = t.size) :
    t.encode (t.decode b) = b := by
  rw [encode, decode_emod h, Int.toNat_natCast, ← h, littleEndian_ofLittleEndian]

theorem getElem?_encode {t : IntType} {k : Nat} (hk : k < t.size) (n : Int) :
    ∃ x, (t.encode n)[k]? = some x ∧ (x.toNat : Int) = n / wordCount k % 256 := by
  have hm : (t.modulus : Int) = wordCount k * (256 * wordCount (t.size - k - 1)) := by
    have hsize : t.size = k + ((t.size - k - 1) + 1) := by omega
    rw [modulus, hsize, wordCount_add, wordCount, ← hsize, Int.natCast_mul, Int.natCast_mul]
    rfl
  have hpos : (wordCount k : Int) ≠ 0 := Int.natCast_ne_zero.mpr (Nat.ne_of_gt (wordCount_pos k))
  have hnn : 0 ≤ n % t.modulus :=
    Int.emod_nonneg n (Int.natCast_ne_zero.mpr (Nat.ne_of_gt t.modulus_pos))
  -- What the modulus takes off is a multiple of the weight of the next byte.
  have hmod : n % t.modulus =
      n + wordCount k * (256 * -(wordCount (t.size - k - 1) * (n / t.modulus))) := by
    rw [Int.emod_def, hm]
    grind
  refine ⟨_, getElem?_littleEndian hk _, ?_⟩
  rw [UInt8.toNat_ofNat', Int.natCast_emod, Int.natCast_ediv, Int.toNat_of_nonneg hnn, hmod,
    Int.add_mul_ediv_left _ _ hpos]
  exact Int.add_mul_emod_self_left ..

theorem encode_u32 (n : UInt32) : u32.encode n.toNat = littleEndian 4 n.toNat := by
  have hn := n.toNat_lt
  have hm : ((n.toNat : Int) % (u32.modulus : Nat)).toNat = n.toNat := by
    show ((n.toNat : Int) % 4294967296).toNat = n.toNat
    omega
  rw [encode, hm]
  rfl

example : i16.encode (-2) = [0xfe, 0xff] := by decide
example : i16.decode [0xfe, 0xff] = -2 ∧ u16.decode [0xfe, 0xff] = 0xfffe := by decide

end IntType

namespace SizeOf

def int : Nat := 4
def pointer : Nat := 8
def u8 : Nat := 1
def u16 : Nat := 2
def u32 : Nat := 4
def u64 : Nat := 8
def ubyte : Nat := 1
def uint : Nat := 4
def ushort : Nat := 2

end SizeOf

end GenericNetlink
