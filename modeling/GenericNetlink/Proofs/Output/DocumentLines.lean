import GenericNetlink.Output.Print
import GenericNetlink.Text.SingleLine

/-!
# One document, one line

In the compact form of a value no newline is left if nothing stands between the tokens
and strings have their control characters escaped. Documents that are written one after
the other are then the lines of the text, whatever the values hold. Which escapes are
used, and how numbers are written, does not matter.
-/

namespace GenericNetlink

open Text

namespace Json

theorem singleLine_enclosed {opening closing : String} {parts : List String}
    (ho : SingleLine opening) (hc : SingleLine closing) (hp : ∀ part ∈ parts, SingleLine part) :
    SingleLine (opening ++ ",".intercalate parts ++ closing) :=
  (ho.append (SingleLine.intercalate (by decide) hp)).append hc

/-- An encoder whose compact form has nothing between the tokens and no control character
in a string. -/
structure CompactEncoder extends Encoder where
  string : String → String
  null : compact .null = "null"
  bool : ∀ b, compact (.bool b) = if b then "true" else "false"
  str : ∀ s, compact (.str s) = string s
  arr : ∀ items, compact (.arr items) = "[" ++ ",".intercalate (items.map compact) ++ "]"
  obj : ∀ members, compact (.obj members) =
    "\x7b" ++ ",".intercalate (members.map fun m => string m.1 ++ ":" ++ compact m.2) ++ "\x7d"
  escaped : ∀ s, ∀ c ∈ (string s).toList, 0x20 ≤ c.toNat
  -- Of the texts of numbers nothing else is known.
  int : ∀ n, SingleLine (compact (.int n))
  real : ∀ n, SingleLine (compact (.real n))

namespace CompactEncoder

variable (e : CompactEncoder)

theorem singleLine_string (s : String) : SingleLine (e.string s) :=
  fun h => absurd (e.escaped s _ h) (by decide)

mutual

theorem singleLine_compact : ∀ value : Json, SingleLine (e.compact value)
  | .null => by
    rw [e.null]
    decide
  | .bool b => by
    rw [e.bool]
    cases b <;> decide
  | .int n => e.int n
  | .real n => e.real n
  | .str s => by
    rw [e.str]
    exact e.singleLine_string s
  | .arr items => by
    rw [e.arr]
    exact singleLine_enclosed (by decide) (by decide) (singleLine_items items)
  | .obj members => by
    rw [e.obj]
    exact singleLine_enclosed (by decide) (by decide) (singleLine_members members)

theorem singleLine_items : ∀ items : List Json, ∀ part ∈ items.map e.compact, SingleLine part
  | [], _, h => nomatch h
  | item :: items, part, h => by
    obtain rfl | h := List.mem_cons.mp h
    · exact singleLine_compact item
    · exact singleLine_items items part h

theorem singleLine_members : ∀ members : List (String × Json),
    ∀ part ∈ members.map (fun m => e.string m.1 ++ ":" ++ e.compact m.2), SingleLine part
  | [], _, h => nomatch h
  | member :: members, part, h => by
    obtain rfl | h := List.mem_cons.mp h
    · exact singleLine_member member
    · exact singleLine_members members part h

theorem singleLine_member : ∀ member : String × Json,
    SingleLine (e.string member.1 ++ ":" ++ e.compact member.2)
  | (key, value) => ((e.singleLine_string key).append (by decide)).append (singleLine_compact value)

end

end CompactEncoder

-- ---------------------------------------------------------------------------
-- The standard encoder
-- ---------------------------------------------------------------------------

theorem le_of_mem_escapeChar {c : Char} : ∀ d ∈ escapeChar c, 0x20 ≤ d.toNat := by
  have hdigit : ∀ n < 16, 0x20 ≤ (Nat.digitChar n).toNat := by decide
  unfold escapeChar
  -- Seven fixed escapes, the escape by number for the other control characters, and the
  -- character as it is.
  iterate 7
    split
    · simp
  split
  · rename_i hc
    have hhigh := hdigit (c.toNat / 16) (by omega)
    have hlow := hdigit (c.toNat % 16) (by omega)
    simp [hhigh, hlow]
  · rename_i hc
    simpa using hc

theorem le_of_mem_encodeString {s : String} {c : Char} (h : c ∈ (encodeString s).toList) :
    0x20 ≤ c.toNat := by
  have hquote : 0x20 ≤ '"'.toNat := by decide
  rw [encodeString, String.toList_ofList] at h
  obtain rfl | h := List.mem_cons.mp h
  · exact hquote
  obtain h | h := List.mem_append.mp h
  · obtain ⟨d, -, hd⟩ := List.mem_flatMap.mp h
    exact le_of_mem_escapeChar c hd
  · exact List.mem_singleton.mp h ▸ hquote

theorem compactItems_eq_map (items : List Json) : compactItems items = items.map compact := by
  induction items with
  | nil => rfl
  | cons item rest ih => rw [compactItems, ih, List.map_cons]

theorem compactMembers_eq_map (members : List (String × Json)) :
    compactMembers members =
      members.map fun m => encodeString m.1 ++ ":" ++ compact m.2 := by
  induction members with
  | nil => rfl
  | cons member rest ih => rw [compactMembers, ih, List.map_cons, compactMember]

def CompactEncoder.standard : CompactEncoder where
  toEncoder := .standard
  string := encodeString
  null := rfl
  bool _ := rfl
  str _ := rfl
  arr items := congrArg (fun parts => "[" ++ ",".intercalate parts ++ "]")
    (compactItems_eq_map items)
  obj members := congrArg (fun parts => "\x7b" ++ ",".intercalate parts ++ "\x7d")
    (compactMembers_eq_map members)
  escaped _ _ := le_of_mem_encodeString
  int := singleLine_signedDecimal
  real := singleLine_numeral

end Json

-- ---------------------------------------------------------------------------
-- Documents one after the other
-- ---------------------------------------------------------------------------

namespace Sink

theorem write_cases (s : Sink) (more : String) :
    ((s.write more).overflowed = false ∧ (s.write more).text = s.text ++ more) ∨
    ((s.write more).overflowed = true ∧
      (s.write more).text.toList <+: (s.text ++ more).toList) := by
  rw [String.toList_append]
  unfold write
  split
  · rename_i ho
    exact .inr ⟨ho, List.prefix_append _ _⟩
  · rename_i ho
    have hs : s.overflowed = false := Bool.eq_false_iff.mpr ho
    split
    · exact .inl ⟨hs, rfl⟩
    · rename_i room _
      split
      · exact .inl ⟨hs, rfl⟩
      · have hfitting : fitting room more.toList <+: more.toList := fitting_prefix room _
        refine .inr ⟨rfl, ?_⟩
        rw [String.toList_append, String.toList_ofList]
        exact (List.prefix_append_right_inj _).mpr hfitting

section
variable (encoder : Json.Encoder) (isPretty : Bool) (values : List Json)

theorem writeDocuments_of_overflowed {s : Sink} (h : s.overflowed = true) :
    s.writeDocuments encoder isPretty values = s := by
  induction values with
  | nil => rfl
  | cons value rest ih =>
    have hw : s.write (encoder.document isPretty value) = s := if_pos h
    rw [writeDocuments, List.foldl_cons, hw]
    exact ih

theorem writeDocuments_cases (s : Sink) :
    let whole := s.text ++ String.join (values.map (encoder.document isPretty))
    let after := s.writeDocuments encoder isPretty values
    (after.overflowed = false ∧ after.text = whole) ∨
    (after.overflowed = true ∧ after.text.toList <+: whole.toList) := by
  induction values generalizing s with
  | nil =>
    intro whole after
    have hwhole : whole = s.text := String.append_empty
    rw [hwhole]
    cases ho : s.overflowed with
    | false => exact .inl ⟨ho, rfl⟩
    | true => exact .inr ⟨ho, List.prefix_rfl⟩
  | cons value rest ih =>
    intro whole after
    have hwhole : whole = s.text ++ encoder.document isPretty value ++
        String.join (rest.map (encoder.document isPretty)) :=
      (congrArg _ String.join_cons).trans String.append_assoc.symm
    obtain ⟨hw, htext⟩ | ⟨ho, htext⟩ := s.write_cases (encoder.document isPretty value)
    · rw [hwhole, ← htext]
      exact ih _
    · have hafter : after = s.write (encoder.document isPretty value) :=
        writeDocuments_of_overflowed encoder isPretty rest ho
      rw [hafter, hwhole, String.toList_append]
      exact .inr ⟨ho, htext.trans (List.prefix_append _ _)⟩

theorem writeDocuments_unlimited (text : String) :
    (Sink.mk none text false).writeDocuments encoder isPretty values =
      ⟨none, text ++ String.join (values.map (encoder.document isPretty)), false⟩ := by
  induction values generalizing text with
  | nil => simp [writeDocuments]
  | cons value rest ih =>
    rw [writeDocuments, List.foldl_cons, write_unlimited]
    refine (ih _).trans ?_
    rw [List.map_cons, String.join_cons, String.append_assoc]

end

end Sink

theorem Json.CompactEncoder.splitOn_documents (e : Json.CompactEncoder) (values : List Json) :
    (String.join (values.map (e.compact · ++ "\n"))).toList.splitOn '\n' =
      values.map (e.compact · |>.toList) ++ [[]] := by
  have hlines : ∀ line ∈ values.map e.compact, SingleLine line := by
    intro line hl
    obtain ⟨value, -, rfl⟩ := List.mem_map.mp hl
    exact e.singleLine_compact value
  have h := splitOn_newline_join hlines
  rwa [List.map_map, List.map_map] at h

theorem Sink.print_compact_json {α : Type} [Printable α] (e : Json.CompactEncoder) (a : α)
    (stats details : Bool) :
    let s := (Sink.new none).print e.toEncoder a .json ⟨stats, details, false⟩
    s = ⟨none, e.compact (Printable.json a) ++ "\n", false⟩ ∧
    s.text.toList.splitOn '\n' = [(e.compact (Printable.json a)).toList, []] := by
  intro s
  have hs : s = ⟨none, e.compact (Printable.json a) ++ "\n", false⟩ :=
    (write_unlimited "" _).trans (by rw [String.empty_append]; rfl)
  refine ⟨hs, ?_⟩
  rw [hs, String.toList_append]
  exact List.splitOn_append_cons_self_of_not_mem (e.singleLine_compact _) []

/-- With an encoder that puts nothing between the tokens and escapes the control characters
of strings, as the standard one does, documents written in the compact form one after the
other are the lines of the text, one for each value and in their order, since no compact
form has a newline. A sink that has no room for all of them holds the first part of that
text. The document of a family, of whatever names, and that of credentials is a single
line. -/
theorem compact_documents_are_lines :
    (∃ e : Json.CompactEncoder, e.toEncoder = .standard) ∧
    ∀ (e : Json.CompactEncoder) (values : List Json),
      let text := String.join (values.map (e.compact · ++ "\n"))
      (Sink.new none).writeDocuments e.toEncoder false values = ⟨none, text, false⟩ ∧
      (∀ capacity, let s := (Sink.new capacity).writeDocuments e.toEncoder false values
        (s.overflowed = false ∧ s.text = text) ∨
        (s.overflowed = true ∧ s.text.toList <+: text.toList)) ∧
      (∀ value : Json, '\n' ∉ (e.compact value).toList) ∧
      text.toList.splitOn '\n' = values.map (e.compact · |>.toList) ++ [[]] ∧
      (∀ (f : Family) (stats details : Bool),
        let s := (Sink.new none).print e.toEncoder f .json ⟨stats, details, false⟩
        s = ⟨none, e.compact f.toJson ++ "\n", false⟩ ∧
        s.text.toList.splitOn '\n' = [(e.compact f.toJson).toList, []]) ∧
      (∀ (c : Ucred) (stats details : Bool),
        let s := (Sink.new none).print e.toEncoder c .json ⟨stats, details, false⟩
        s = ⟨none, e.compact c.toJson ++ "\n", false⟩ ∧
        s.text.toList.splitOn '\n' = [(e.compact c.toJson).toList, []]) := by
  refine ⟨⟨.standard, rfl⟩, fun e values => ?_⟩
  intro text
  refine ⟨?_, fun capacity => ?_, e.singleLine_compact, e.splitOn_documents values,
    Sink.print_compact_json e, Sink.print_compact_json e⟩
  · have h := Sink.writeDocuments_unlimited e.toEncoder false values ""
    rwa [String.empty_append] at h
  · obtain ⟨hd, htext⟩ | ⟨ho, htext⟩ :=
      Sink.writeDocuments_cases e.toEncoder false values (Sink.new capacity)
    · exact .inl ⟨hd, htext.trans String.empty_append⟩
    · exact .inr ⟨ho, String.empty_append (s := text) ▸ htext⟩

example : (Sink.new none).writeDocuments .standard false [.arr [.int 1, .int 2], .str "x\n"] =
    ⟨none, "[1,2]\n\"x\\n\"\n", false⟩ := by decide

end GenericNetlink
