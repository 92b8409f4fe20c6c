import GenericNetlink.Text.Numeral

/-!
# Lines of text

A text that consists of lines ends each of them with a newline. Texts without a newline
of their own, put together like that, come back when the whole is cut at its newlines.
-/

namespace GenericNetlink.Text

def SingleLine (text : String) : Prop := '\n' ∉ text.toList

instance (text : String) : Decidable (SingleLine text) := inferInstanceAs (Decidable (¬_))

/-- The lines of a text, up to its last newline. -/
def endedLines (text : String) : List (List Char) := (text.toList.splitOn '\n').dropLast

theorem SingleLine.append {s t : String} (hs : SingleLine s) (ht : SingleLine t) :
    SingleLine (s ++ t) := by
  simpa [SingleLine] using ⟨hs, ht⟩

theorem SingleLine.intercalate {separator : String} {parts : List String}
    (hs : SingleLine separator) (hp : ∀ part ∈ parts, SingleLine part) :
    SingleLine (separator.intercalate parts) := by
  induction parts with
  | nil => simp [SingleLine]
  | cons part rest ih =>
    have hpart := hp part List.mem_cons_self
    by_cases hr : rest = []
    · rwa [hr, String.intercalate_singleton]
    · rw [String.intercalate_cons_of_ne_nil hr]
      exact (hpart.append hs).append (ih fun q hq => hp q (List.mem_cons_of_mem _ hq))

theorem newline_not_mem_toDigits {base n : Nat} (hb : 1 < base) (h16 : base ≤ 16) :
    '\n' ∉ Nat.toDigits base n := by
  intro h
  have hnone : '\n' ∉ hexDigits := by decide
  exact hnone (mem_hexDigits_of_mem_toDigits hb h16 h)

theorem singleLine_decimal (n : Nat) : SingleLine (decimal n) := by
  rw [SingleLine, toList_decimal]
  exact newline_not_mem_toDigits (by decide) (by decide)

theorem singleLine_signedDecimal (n : Int) : SingleLine (signedDecimal n) := by
  cases n with
  | ofNat n => exact singleLine_decimal n
  | negSucc n => exact SingleLine.append (by decide) (singleLine_decimal (n + 1))

theorem singleLine_numeral (n : Numeral) : SingleLine n.text := by
  have hsign : SingleLine (if n.negative then "-" else "") := by cases n.negative <;> decide
  have hdigits : '\n' ∉ n.fraction.map (Nat.digitChar ·.val) := by
    have hnone : ∀ d : Fin 10, '\n' ≠ Nat.digitChar d := by decide
    simp [eq_comm, hnone]
  have hfraction : SingleLine n.fractionText := by
    unfold Numeral.fractionText
    split
    · decide
    · exact SingleLine.append (by decide) (by rwa [SingleLine, String.toList_ofList])
  have hexponent : SingleLine n.exponentText := by
    rw [Numeral.exponentText]
    cases n.exponent with
    | none => decide
    | some e => exact SingleLine.append (by decide) (singleLine_signedDecimal e)
  exact ((hsign.append (singleLine_decimal n.whole)).append hfraction).append hexponent

theorem singleLine_hexNumeral (width n : Nat) : SingleLine (hexNumeral width n) := by
  have hd : '\n' ∉ Nat.toDigits 16 n := newline_not_mem_toDigits (by decide) (by decide)
  simp [SingleLine, hexNumeral, List.leftpad, hd]

-- ---------------------------------------------------------------------------
-- Texts made of lines
-- ---------------------------------------------------------------------------

section
variable {lines : List String} (h : ∀ line ∈ lines, SingleLine line)
include h

theorem splitOn_newline_join :
    (String.join (lines.map (· ++ "\n"))).toList.splitOn '\n' =
      lines.map String.toList ++ [[]] := by
  induction lines with
  | nil => rfl
  | cons line rest ih =>
    have hline : '\n' ∉ line.toList := h line List.mem_cons_self
    have hsplit : (String.join ((line :: rest).map (· ++ "\n"))).toList =
        line.toList ++ '\n' :: (String.join (rest.map (· ++ "\n"))).toList := by simp
    rw [hsplit, List.splitOn_append_cons_self_of_not_mem hline,
      ih fun l hl => h l (List.mem_cons_of_mem _ hl)]
    rfl

theorem endedLines_join :
    endedLines (String.join (lines.map (· ++ "\n"))) = lines.map String.toList := by
  rw [endedLines, splitOn_newline_join h, List.dropLast_concat]

theorem count_newline_join :
    (String.join (lines.map (· ++ "\n"))).toList.count '\n' = lines.length := by
  induction lines with
  | nil => rfl
  | cons line rest ih =>
    have hline : line.toList.count '\n' = 0 := List.count_eq_zero.mpr (h line List.mem_cons_self)
    have hrest := ih fun l hl => h l (List.mem_cons_of_mem _ hl)
    rw [List.map_cons, String.join_cons, String.toList_append, String.toList_append,
      List.count_append, List.count_append, hline, hrest, List.length_cons]
    exact Nat.add_comm 1 _

end

example : endedLines "a\n\nb\n" = [['a'], [], ['b']] := by decide

end GenericNetlink.Text
