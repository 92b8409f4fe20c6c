import GenericNetlink.Family.Table

/-!
# Masks are read back from their texts

A mask is shown as the names of its attributes and, if it has other bits, a number for
those. No name has a comma or begins with a digit, so that the items can be told apart
and stand for one mask only (`ofAttrNames?_attrNames`). A table without names shows the
mask as a number, which is one to one as well.
-/

namespace GenericNetlink.Family

open Text

def Attr.ofLabel? (text : String) : Option Attr := all.find? (·.label = text)

def bitsOfItem? (item : String) : Option Mask :=
  match Attr.ofLabel? item with
  | some a => some a.bit
  | none => (ofHex? item).map (BitVec.ofNat 32)

def addItem? (mask : Mask) (item : String) : Option Mask := (bitsOfItem? item).map (mask ||| ·)

def ofAttrNames? (text : String) : Option Mask := (commaItems text).foldlM addItem? 0

theorem Attr.ofLabel?_label (a : Attr) : ofLabel? a.label = some a := by cases a <;> decide

theorem Attr.isItem_label (a : Attr) : IsItem a.label := by cases a <;> decide

theorem isItem_hex (n : Nat) : IsItem (hex n) := by
  refine ⟨fun h => ?_, fun h => ?_⟩
  · have hl := congrArg String.toList h
    rw [toList_hex] at hl
    cases hl
  · rw [toList_hex] at h
    have hnone : ',' ∉ hexDigits := by decide
    obtain hc | hc | hc := by simpa only [List.mem_cons] using h
    · exact absurd hc (by decide)
    · exact absurd hc (by decide)
    · exact hnone (mem_hexDigits_of_mem_toDigits (by decide) (Nat.le_refl _) hc)

/-- No attribute has a number for its name: numbers begin with a digit. -/
theorem Attr.ofLabel?_hex (n : Nat) : ofLabel? (hex n) = none := by
  refine List.find?_eq_none.mpr fun a _ h => ?_
  have hl : a.label.toList.head? = some '0' := by
    rw [of_decide_eq_true h, toList_hex]
    rfl
  have hnone : a.label.toList.head? ≠ some '0' := by cases a <;> decide
  exact hnone hl

theorem bitsOfItem?_label (a : Attr) : bitsOfItem? a.label = some a.bit := by
  rw [bitsOfItem?, a.ofLabel?_label]

theorem bitsOfItem?_hex (m : Mask) : bitsOfItem? (hex m.toNat) = some m := by
  rw [bitsOfItem?, Attr.ofLabel?_hex, ofHex?_hex, Option.map_some, BitVec.ofNat_toNat,
    BitVec.setWidth_eq]

def unnamed (m : Mask) : Mask := m &&& ~~~Attr.knownBits

def attrLabels (m : Mask) : List String :=
  (Attr.all.filter fun a => m.getLsbD a.index).map (·.label)

def unnamedItems (m : Mask) : List String :=
  if unnamed m = 0 then [] else [hex (unnamed m).toNat]

theorem attrNames_eq (m : Mask) :
    attrNames m = ",".intercalate (attrLabels m ++ unnamedItems m) := by
  simp only [attrNames, Attr.and_bit_ne_zero]
  rfl

theorem getLsbD_knownBits_iff {k : Nat} :
    Attr.knownBits.getLsbD k = true ↔ ¬Attr.Unknown k := by
  constructor
  · intro h hu
    rw [Attr.getLsbD_knownBits_unknown hu] at h
    cases h
  · intro h
    obtain ⟨a, ha⟩ := Classical.not_forall.mp h
    rw [← Classical.not_not.mp ha, Attr.getLsbD_knownBits_index]

theorem getLsbD_unnamed_iff {m : Mask} {k : Nat} :
    (unnamed m).getLsbD k = true ↔ m.getLsbD k = true ∧ Attr.Unknown k := by
  rw [unnamed, BitVec.getLsbD_and, BitVec.getLsbD_not, Bool.and_eq_true]
  refine and_congr_right fun hm => ?_
  rw [decide_eq_true (BitVec.lt_of_getLsbD hm), Bool.true_and, Bool.not_eq_true',
    Bool.eq_false_iff, ne_eq, getLsbD_knownBits_iff, Classical.not_not]

theorem unnamed_eq_zero_iff {m : Mask} :
    unnamed m = 0 ↔ ∀ k, m.getLsbD k = true → ¬Attr.Unknown k := by
  simp only [unnamed, and_not_eq_zero_iff, getLsbD_knownBits_iff]

theorem maskOf_or_unnamed (m : Mask) :
    (Attr.maskOf fun a => m.getLsbD a.index) ||| unnamed m = m := by
  -- Bit by bit: those of attributes are in the first mask only, all others in the second.
  refine Attr.mask_ext (fun a => ?_) (fun k hk => ?_)
  · have hn : (unnamed m).getLsbD a.index = false := by
      refine Bool.eq_false_iff.mpr fun h => ?_
      exact (getLsbD_unnamed_iff.mp h).2 a rfl
    rw [BitVec.getLsbD_or, Attr.getLsbD_maskOf_index, hn, Bool.or_false]
  · have hn : (unnamed m).getLsbD k = m.getLsbD k :=
      Bool.eq_iff_iff.mpr (getLsbD_unnamed_iff.trans (and_iff_left hk))
    rw [BitVec.getLsbD_or, Attr.getLsbD_maskOf_unknown _ hk, hn, Bool.false_or]

theorem isItem_items (m : Mask) : ∀ item ∈ attrLabels m ++ unnamedItems m, IsItem item := by
  intro item h
  obtain h | h := List.mem_append.mp h
  · obtain ⟨a, -, rfl⟩ := List.mem_map.mp h
    exact a.isItem_label
  · rw [unnamedItems] at h
    split at h
    · cases h
    · rw [List.mem_singleton.mp h]
      exact isItem_hex _

theorem commaItems_attrNames (m : Mask) :
    commaItems (attrNames m) = attrLabels m ++ unnamedItems m := by
  rw [attrNames_eq, commaItems_intercalate (isItem_items m)]

-- ---------------------------------------------------------------------------
-- Round trips
-- ---------------------------------------------------------------------------

theorem foldlM_labels (attrs : List Attr) (m : Mask) :
    (attrs.map (·.label)).foldlM addItem? m =
      some (attrs.foldl (fun m a => m ||| a.bit) m) := by
  induction attrs generalizing m with
  | nil => rfl
  | cons a rest ih =>
    rw [List.map_cons, List.foldlM_cons, addItem?, bitsOfItem?_label]
    exact ih (m ||| a.bit)

theorem foldlM_unnamedItems (known m : Mask) :
    (unnamedItems m).foldlM addItem? known = some (known ||| unnamed m) := by
  rw [unnamedItems]
  split
  · rename_i h
    rw [h]
    exact congrArg some BitVec.or_zero.symm
  · simp [addItem?, bitsOfItem?_hex]

theorem ofAttrNames?_attrNames (m : Mask) : ofAttrNames? (attrNames m) = some m := by
  have hlabels : (attrLabels m).foldlM addItem? 0 =
      some (Attr.maskOf fun a => m.getLsbD a.index) := foldlM_labels _ 0
  rw [ofAttrNames?, commaItems_attrNames, List.foldlM_append, hlabels]
  exact (foldlM_unnamedItems _ m).trans (congrArg some (maskOf_or_unnamed m))

theorem attrNames_injective {m n : Mask} (h : attrNames m = attrNames n) : m = n := by
  have hr := congrArg ofAttrNames? h
  rwa [ofAttrNames?_attrNames, ofAttrNames?_attrNames, Option.some.injEq] at hr

theorem attrNames_eq_empty_iff {m : Mask} : attrNames m = "" ↔ m = 0 :=
  ⟨fun h => attrNames_injective (h.trans (by decide : "" = attrNames 0)),
    fun h => h ▸ (by decide : attrNames 0 = "")⟩

theorem showAttrs_injective {P : Type} {t : Table P}
    (ht : t.attrNames = some attrNames ∨ t.attrNames = none) {m n : Mask}
    (h : t.showAttrs m = t.showAttrs n) : m = n := by
  rw [Table.showAttrs, Table.showAttrs] at h
  obtain ht | ht := ht <;> rw [ht] at h
  · exact attrNames_injective h
  · exact BitVec.eq_of_toNat_eq (hex_injective h)

/-- Masks have different texts, whether a table has the names of families or none. With
the names the items of the text are those of the attributes in the mask, in the order of
their bits, and behind them, exactly if there are other bits, one number in lowercase
hexadecimal digits, which is the mask of those. The text is empty for the empty mask only,
and the items read back as the mask. -/
theorem mask_text_lossless (m : Mask) :
    (∀ (P : Type) (t : Table P), t.attrNames = some attrNames ∨ t.attrNames = none →
      ∀ n, t.showAttrs m = t.showAttrs n ↔ m = n) ∧
    (∃ numbers, commaItems (attrNames m) =
        (Attr.all.filter fun a => m.getLsbD a.index).map (·.label) ++ numbers ∧
      ",".intercalate (commaItems (attrNames m)) = attrNames m ∧
      (numbers = [] ↔ ∀ k, m.getLsbD k = true → ¬Attr.Unknown k) ∧
      ∀ item ∈ numbers, numbers = [item] ∧
        (∃ digits : List Char, item.toList = '0' :: 'x' :: digits ∧ ∀ c ∈ digits, c ∈ hexDigits) ∧
        ∃ rest : Mask, ofHex? item = some rest.toNat ∧
          ∀ k, rest.getLsbD k = true ↔ m.getLsbD k = true ∧ Attr.Unknown k) ∧
    (attrNames m = "" ↔ m = 0) ∧
    ofAttrNames? (attrNames m) = some m := by
  refine ⟨fun P t ht n => ⟨showAttrs_injective ht, congrArg t.showAttrs⟩, ?_,
    attrNames_eq_empty_iff, ofAttrNames?_attrNames m⟩
  refine ⟨unnamedItems m, commaItems_attrNames m, ?_, ?_, fun item hitem => ?_⟩
  · rw [commaItems_attrNames, ← attrNames_eq]
  · rw [← unnamed_eq_zero_iff]
    simp [unnamedItems]
  · rw [unnamedItems] at hitem ⊢
    split at hitem
    · cases hitem
    · rename_i hne
      obtain rfl := List.mem_singleton.mp hitem
      refine ⟨if_neg hne, ⟨_, toList_hex _, fun c => ?_⟩, unnamed m, ofHex?_hex _,
        fun k => getLsbD_unnamed_iff⟩
      exact mem_hexDigits_of_mem_toDigits (by decide) (Nat.le_refl _)

example : ofAttrNames? "name,ops,0x100" = some 0x142 := by decide

end GenericNetlink.Family
