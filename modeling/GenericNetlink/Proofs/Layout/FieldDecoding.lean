import GenericNetlink.Proofs.Layout.FieldParts

/-!
# Decoding is setting every field

A structure is decoded from the bytes at the head of a buffer, and what follows them does
not matter, so that its own bytes decode to it. It can as well be put together by setting
its fields one after the other: in whatever order this is done, the result is the
structure that its parts decode to when they are joined in the order of the fields.
-/

namespace GenericNetlink.FixedStruct

variable {widths : List Nat} {s : FixedStruct}

theorem totalWidth_take_succ {i w : Nat} (h : widths[i]? = some w) :
    totalWidth (widths.take (i + 1)) = totalWidth (widths.take i) + w := by
  induction widths generalizing i with
  | nil => cases h
  | cons x rest ih =>
    cases i with
    | zero =>
      obtain rfl : x = w := Option.some.inj h
      simp [totalWidth]
    | succ i => simp [totalWidth, ih h, Nat.add_assoc]

theorem field_of_head {data : Bytes} {i : Nat} (hb : s.bytes = data.take s.bytes.length)
    (hi : i < s.fieldCount) :
    s.field i = .ok (data.slice (totalWidth (s.widths.take i))
      (totalWidth (s.widths.take (i + 1)))) := by
  obtain ⟨w, hw⟩ : ∃ w, s.widths[i]? = some w := ⟨_, List.getElem?_eq_getElem hi⟩
  have hdata : data = s.bytes ++ data.drop s.bytes.length := by
    rw [← List.take_append_drop s.bytes.length data, ← hb]
    simp
  rw [totalWidth_take_succ hw, ← offset, hdata, Bytes.slice_append_left (offset_add_width_le hw)]
  exact field_of_width hw

theorem decode_bytes_append (s : FixedStruct) (rest : Bytes) :
    decode s.widths (s.bytes ++ rest) = .ok s := by
  obtain ⟨hl, -⟩ | ⟨-, t, hw, hb, h⟩ := decode_of_lt s.totalWidth_lt (s.bytes ++ rest)
  · rw [List.length_append, s.length_bytes] at hl
    omega
  · rw [← s.length_bytes, List.take_left] at hb
    rw [h, FixedStruct.ext hw hb]

theorem decode_flatten {chunks : List Bytes} (h : s.parts = chunks) :
    decode (chunks.map List.length) chunks.flatten = .ok s := by
  have hd := s.decode_bytes_append []
  rwa [List.append_nil, ← s.map_length_parts, ← s.flatten_parts, h] at hd

-- ---------------------------------------------------------------------------
-- Setting fields one after the other
-- ---------------------------------------------------------------------------

def setFields (s : FixedStruct) : List (Nat × Bytes) → Except Fault FixedStruct
  | [] => .ok s
  | (i, value) :: rest =>
    match s.setField i value with
    | (.ok (), t) => t.setFields rest
    | (.error fault, _) => .error fault

/-- Setting fields to their chunks fills the structure, if each part is its chunk from the
beginning or is still to be set. -/
theorem setFields_fills {chunks : List Bytes} {settings : List (Nat × Bytes)}
    (hw : s.widths = chunks.map List.length)
    (hset : ∀ i value, (i, value) ∈ settings → chunks[i]? = some value)
    (hrest : ∀ i value, chunks[i]? = some value →
      s.parts[i]? = some value ∨ (i, value) ∈ settings) :
    ∃ t, s.setFields settings = .ok t ∧ t.parts = chunks := by
  -- Each setting moves its field from what is still to be set to what is already there.
  induction settings generalizing s with
  | nil =>
    have hlen : s.parts.length = chunks.length := by
      rw [length_parts, fieldCount, hw, List.length_map]
    refine ⟨s, rfl, List.ext_getElem hlen fun i _ hi => ?_⟩
    obtain h | h := hrest i chunks[i] (List.getElem?_eq_getElem hi)
    · exact (List.getElem?_eq_some_iff.mp h).2
    · cases h
  | cons setting rest ih =>
    obtain ⟨i, value⟩ := setting
    have hi : chunks[i]? = some value := hset i value List.mem_cons_self
    have hiw : s.widths[i]? = some value.length := by
      rw [hw, List.getElem?_map, hi]
      rfl
    obtain ⟨t, ht, hparts⟩ := setField_of_width hiw
    rw [setFields, ht]
    refine ih ?_ (fun j v hj => hset j v (List.mem_cons_of_mem _ hj)) fun j v hj => ?_
    · rw [← hw, ← s.widths_setField i value, ht]
    · rw [hparts]
      by_cases hij : i = j
      · subst hij
        rw [List.getElem?_set_self (lt_length_parts hiw), ← hi, hj]
        exact .inl rfl
      · rw [List.getElem?_set_ne hij]
        obtain h | h := hrest j v hj
        · exact .inl h
        · obtain h | h := List.mem_cons.mp h
          · exact absurd (congrArg Prod.fst h).symm hij
          · exact .inr h

/-- The last field is set first, the one without width last, and data may go on. -/
example : ∃ new s, zeroed [1, 0, 2] = .ok new ∧
    new.setFields [(2, [7, 8]), (0, [1]), (1, [])] = .ok s ∧
    decode [1, 0, 2] [1, 7, 8, 9] = .ok s :=
  ⟨_, _, rfl, rfl, rfl⟩

end GenericNetlink.FixedStruct
