/-!
# Lists in a text

Items joined by commas come back when the text is split at its commas, if no item is
empty or has a comma of its own.
-/

namespace GenericNetlink.Text

/-- The items of a text between its commas. The empty text has none. -/
def commaItems (text : String) : List String :=
  if text = "" then [] else (text.toList.splitOn ',').map String.ofList

structure IsItem (text : String) : Prop where
  nonempty : text ≠ ""
  noComma : ',' ∉ text.toList

instance (text : String) : Decidable (IsItem text) :=
  decidable_of_iff (text ≠ "" ∧ ',' ∉ text.toList) ⟨fun h => ⟨h.1, h.2⟩, fun h => ⟨h.1, h.2⟩⟩

theorem intercalate_ne_empty {item : String} {rest : List String} (h : item ≠ "") :
    ",".intercalate (item :: rest) ≠ "" := by
  cases rest with
  | nil => rwa [String.intercalate_singleton]
  | cons next rest =>
    rw [String.intercalate_cons_cons]
    intro hz
    have hl := congrArg (fun s => s.toList.length) hz
    simp at hl

theorem commaItems_intercalate {items : List String} (h : ∀ item ∈ items, IsItem item) :
    commaItems (",".intercalate items) = items := by
  cases items with
  | nil => rfl
  | cons item rest =>
    have hcommas : ∀ cs ∈ (item :: rest).map String.toList, ',' ∉ cs := by
      intro cs hcs
      obtain ⟨s, hs, rfl⟩ := List.mem_map.mp hcs
      exact (h s hs).noComma
    have hsplit : (",".intercalate (item :: rest)).toList.splitOn ',' =
        (item :: rest).map String.toList := by
      rw [String.toList_intercalate]
      exact List.splitOn_intercalate ',' hcommas (List.cons_ne_nil _ _)
    rw [commaItems, if_neg (intercalate_ne_empty (h item List.mem_cons_self).nonempty), hsplit,
      List.map_map]
    simp [Function.comp_def]

theorem eq_of_intercalate_eq {items others : List String} (hi : ∀ item ∈ items, IsItem item)
    (ho : ∀ item ∈ others, IsItem item) (h : ",".intercalate items = ",".intercalate others) :
    items = others := by
  rw [← commaItems_intercalate hi, h, commaItems_intercalate ho]

example : commaItems "a,bc" = ["a", "bc"] ∧ commaItems "" = [] := by decide

end GenericNetlink.Text
