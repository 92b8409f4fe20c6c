/-!
# Numerals

Numbers in positional notation: decimal for counts, lowercase hexadecimal for
identifiers and masks. No form has leading zeros unless a width asks for them.
-/

namespace GenericNetlink.Text

def decimal (n : Nat) : String := String.ofList (Nat.toDigits 10 n)

def signedDecimal : Int → String
  | .ofNat n => decimal n
  | .negSucc n => "-" ++ decimal (n + 1)

def hexNumeral (width n : Nat) : String :=
  "0x" ++ String.ofList ((Nat.toDigits 16 n).leftpad width '0')

def hex (n : Nat) : String := hexNumeral 0 n

/-- A number with a fraction or an exponent, in the digits that were chosen for it. -/
structure Numeral where
  negative : Bool
  whole : Nat
  fraction : List (Fin 10)
  exponent : Option Int

namespace Numeral

def fractionText (n : Numeral) : String :=
  if n.fraction = [] then ""
  else "." ++ String.ofList (n.fraction.map (Nat.digitChar ·.val))

def exponentText (n : Numeral) : String :=
  n.exponent.elim "" fun e => "e" ++ signedDecimal e

def text (n : Numeral) : String :=
  (if n.negative then "-" else "") ++ decimal n.whole ++ n.fractionText ++ n.exponentText

end Numeral

theorem toList_decimal (n : Nat) : (decimal n).toList = Nat.toDigits 10 n := by
  simp [decimal]

theorem toList_hex (n : Nat) : (hex n).toList = '0' :: 'x' :: Nat.toDigits 16 n := by
  simp [hex, hexNumeral, List.leftpad]

theorem exists_digit_of_mem_toDigits {base n : Nat} (hb : 1 < base) {c : Char}
    (h : c ∈ Nat.toDigits base n) : ∃ d < base, c = Nat.digitChar d := by
  induction n using Nat.strongRecOn with
  | _ n ih =>
    rw [Nat.toDigits_eq_if hb] at h
    split at h
    · rename_i hn
      exact ⟨n, hn, List.mem_singleton.mp h⟩
    · rename_i hn
      obtain h | h := List.mem_append.mp h
      · exact ih (n / base) (Nat.div_lt_self (by omega) hb) h
      · exact ⟨n % base, Nat.mod_lt n (by omega), List.mem_singleton.mp h⟩

-- ---------------------------------------------------------------------------
-- Reading
-- ---------------------------------------------------------------------------

def hexDigits : List Char :=
  ['0', '1', '2', '3', '4', '5', '6', '7', '8', '9', 'a', 'b', 'c', 'd', 'e', 'f']

def hexDigit? (c : Char) : Option Nat := hexDigits.idxOf? c

def ofHexDigits? (digits : List Char) : Option Nat :=
  digits.foldlM (fun n c => (hexDigit? c).map (16 * n + ·)) 0

def ofHex? (text : String) : Option Nat :=
  match text.toList with
  | '0' :: 'x' :: c :: rest => ofHexDigits? (c :: rest)
  | _ => none

theorem hexDigit?_digitChar : ∀ d < 16, hexDigit? (Nat.digitChar d) = some d := by decide

theorem hexDigit?_eq_some_iff {c : Char} {d : Nat} :
    hexDigit? c = some d ↔ d < 16 ∧ c = Nat.digitChar d := by
  constructor
  · intro h
    obtain ⟨hd, hc, -⟩ := List.idxOf?_eq_some_iff.mp h
    have hall : ∀ d, ∀ h : d < hexDigits.length, hexDigits[d] = Nat.digitChar d := by decide
    exact ⟨hd, hc.symm.trans (hall d hd)⟩
  · rintro ⟨hd, rfl⟩
    exact hexDigit?_digitChar d hd

theorem mem_hexDigits_of_mem_toDigits {base n : Nat} (hb : 1 < base) (h16 : base ≤ 16) {c : Char}
    (h : c ∈ Nat.toDigits base n) : c ∈ hexDigits := by
  obtain ⟨d, hd, rfl⟩ := exists_digit_of_mem_toDigits hb h
  have hall : ∀ d < 16, Nat.digitChar d ∈ hexDigits := by decide
  exact hall d (Nat.lt_of_lt_of_le hd h16)

theorem ofHexDigits?_toDigits (n : Nat) : ofHexDigits? (Nat.toDigits 16 n) = some n := by
  induction n using Nat.strongRecOn with
  | _ n ih =>
    rw [Nat.toDigits_eq_if (by decide)]
    split
    · rename_i hn
      simp [ofHexDigits?, hexDigit?_digitChar n hn]
    · rename_i hn
      have hlast := hexDigit?_digitChar (n % 16) (Nat.mod_lt n (by decide))
      have hfirst := ih (n / 16) (by omega)
      rw [ofHexDigits?] at hfirst ⊢
      rw [List.foldlM_append, hfirst]
      simp [hlast, Nat.div_add_mod]

theorem ofHex?_hex (n : Nat) : ofHex? (hex n) = some n := by
  rw [ofHex?, toList_hex]
  cases hd : Nat.toDigits 16 n with
  | nil => exact absurd hd Nat.toDigits_ne_nil
  | cons c rest =>
    show ofHexDigits? (c :: rest) = some n
    rw [← hd, ofHexDigits?_toDigits]

theorem hex_injective {n m : Nat} (h : hex n = hex m) : n = m := by
  have hr := congrArg ofHex? h
  rwa [ofHex?_hex, ofHex?_hex, Option.some.injEq] at hr

example : decimal 0 = "0" ∧ signedDecimal (-120) = "-120" := by decide
example : (Numeral.mk true 1 [0, 5] (some (-7))).text = "-1.05e-7" := by decide
example : hex 0 = "0x0" ∧ hexNumeral 4 0x1a = "0x001a" ∧ hexNumeral 2 0x1ff = "0x1ff" := by decide

end GenericNetlink.Text
