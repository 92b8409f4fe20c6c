import GenericNetlink.Proofs.Family.DumpLevels
import GenericNetlink.Text.SingleLine
import Mathlib.Logic.Function.Iterate

/-!
# The layout of a dump

A dump adds its lines behind the text that is there, each indented and ended, and counts
them (`write_eq`); what the lines say depends on the family and the level only. If no name
has a newline of its own, the lines can be told apart in the text, and without their
indentation they are the plain dump.
-/

namespace GenericNetlink

open Text

namespace Dumper

def spaces (count : Nat) : String := String.ofList (List.replicate count ' ')

def indented (indent : Nat) (lines : List String) : String :=
  String.join ((lines.map (spaces indent ++ ·)).map (· ++ "\n"))

theorem startLines_eq (d : Dumper) (texts : List String) :
    d.startLines texts =
      ⟨d.verbosity, d.indent, d.text ++ indented d.indent texts, d.lines + texts.length⟩ := by
  induction texts generalizing d with
  | nil =>
    show d = ⟨d.verbosity, d.indent, d.text ++ "", d.lines⟩
    rw [String.append_empty]
  | cons text rest ih =>
    refine (ih (d.startLine (text ++ "\n"))).trans ?_
    simp only [startLine, append, indented, spaces, List.map_cons, String.join_cons,
      String.append_assoc, List.length_cons, Nat.add_assoc, Nat.add_comm 1]

theorem singleLine_spaces (count : Nat) : SingleLine (spaces count) := by
  simp [SingleLine, spaces, List.mem_replicate]

section
variable {lines : List String} (h : ∀ line ∈ lines, SingleLine line) (indent : Nat)
include h

theorem singleLine_of_mem_indent : ∀ line ∈ lines.map (spaces indent ++ ·), SingleLine line := by
  intro line hline
  obtain ⟨text, ht, rfl⟩ := List.mem_map.mp hline
  exact (singleLine_spaces indent).append (h text ht)

theorem count_newline_indented : (indented indent lines).toList.count '\n' = lines.length := by
  rw [indented, count_newline_join (singleLine_of_mem_indent h indent), List.length_map]

theorem endedLines_indented : endedLines (indented indent lines) =
    lines.map fun line => List.replicate indent ' ' ++ line.toList := by
  rw [indented, endedLines_join (singleLine_of_mem_indent h indent), List.map_map]
  refine List.map_congr_left fun line _ => ?_
  simp [spaces]

theorem join_drop_endedLines :
    String.join ((endedLines (indented indent lines)).map fun line =>
      String.ofList (line.drop indent) ++ "\n") = indented 0 lines := by
  rw [endedLines_indented h, List.map_map, indented, List.map_map]
  refine congrArg String.join (List.map_congr_left fun line _ => ?_)
  simp [spaces]

end

end Dumper

-- ---------------------------------------------------------------------------
-- The lines of a family
-- ---------------------------------------------------------------------------

namespace Family

def lineCount (f : Family) : Verbosity → Nat
  | .line => 1
  | .details | .stats =>
    1 + (if f.has Attr.hdrsize.bit || f.has Attr.maxattr.bit then 1 else 0) + f.ops.length +
      f.groups.length

theorem length_sizeLines (f : Family) : f.sizeLines.length =
    if f.has Attr.hdrsize.bit || f.has Attr.maxattr.bit then 1 else 0 := by
  cases hh : f.has Attr.hdrsize.bit <;> cases hm : f.has Attr.maxattr.bit <;>
    simp [sizeLines, sizes, hdrsize?, maxattr?, Attributed.get?, hh, hm]

theorem length_lines (f : Family) (verbosity : Verbosity) :
    (f.lines verbosity).length = f.lineCount verbosity := by
  have hdetails : f.detailLines.length + 1 = f.lineCount .details := by
    rw [detailLines, List.length_append, List.length_append, List.length_map, List.length_map,
      length_sizeLines, lineCount]
    omega
  cases verbosity with
  | line => rfl
  | details => exact hdetails
  | stats => exact hdetails

def rendering (f : Family) (verbosity : Verbosity) (indent : Nat) : String :=
  Dumper.indented indent (f.lines verbosity)

theorem write_eq (f : Family) (verbosity : Verbosity) (d : Dumper) :
    f.write verbosity d =
      ⟨d.verbosity, d.indent, d.text ++ f.rendering verbosity d.indent,
        d.lines + f.lineCount verbosity⟩ := by
  rw [write_eq_startLines, Dumper.startLines_eq, length_lines, rendering]

theorem verbosity_write (f : Family) (verbosity : Verbosity) (d : Dumper) :
    (f.write verbosity d).verbosity = d.verbosity := by
  rw [write_eq]

theorem dump_eq_rendering (f : Family) (verbosity : Verbosity) :
    f.dump verbosity = f.rendering verbosity 0 := by
  rw [dump, write_eq]
  exact String.empty_append

theorem write_iterate (f : Family) (verbosity : Verbosity) (n : Nat) (d : Dumper) :
    (f.write verbosity)^[n] d =
      ⟨d.verbosity, d.indent,
        d.text ++ String.join (List.replicate n (f.rendering verbosity d.indent)),
        d.lines + n * f.lineCount verbosity⟩ := by
  induction n generalizing d with
  | zero =>
    show d = ⟨d.verbosity, d.indent, d.text ++ "", d.lines + 0 * _⟩
    rw [String.append_empty, Nat.zero_mul]
    rfl
  | succ n ih =>
    rw [Function.iterate_succ_apply, ih, write_eq, List.replicate_succ, String.join_cons,
      String.append_assoc, Nat.succ_mul, Nat.add_comm (n * _), Nat.add_assoc]

theorem dumpAll_replicate {P : Type} [Carries P Record] {tables : Catalog P} {o : Object P}
    {f : Family} (ho : o.payload Record = .ok f) (ht : RendersFamilies (tables o.tag)) (n : Nat)
    (d : Dumper) :
    Object.dumpAll tables (List.replicate n o) d = (.ok (), (f.write d.verbosity)^[n] d) := by
  induction n generalizing d with
  | zero => rfl
  | succ n ih =>
    rw [List.replicate_succ, Object.dumpAll, dump_object ho ht]
    refine (ih _).trans ?_
    rw [verbosity_write, ← Function.iterate_succ_apply]

-- ---------------------------------------------------------------------------
-- Names without newlines
-- ---------------------------------------------------------------------------

/-- No name that a family shows has a newline of its own. -/
structure SingleLineNames (f : Family) : Prop where
  name : ∀ name, f.name? = some name → SingleLine name
  groups : ∀ group ∈ f.groups, SingleLine group.name

variable {f : Family}

theorem SingleLineNames.summary (h : f.SingleLineNames) : SingleLine f.summary := by
  refine SingleLine.intercalate (by decide) fun part hp => ?_
  have hcases : some part = f.id?.map (fun id => hexNumeral 4 id.toNat) ∨ some part = f.name? ∨
      some part = f.version?.map (fun version => "version " ++ decimal version.toNat) := by
    simpa only [List.mem_filterMap, List.mem_cons, List.not_mem_nil, or_false,
      exists_eq_right] using hp
  obtain hid | hname | hversion := hcases
  · obtain ⟨id, -, rfl⟩ := Option.map_eq_some_iff.mp hid.symm
    exact singleLine_hexNumeral 4 _
  · exact h.name part hname.symm
  · obtain ⟨version, -, rfl⟩ := Option.map_eq_some_iff.mp hversion.symm
    exact SingleLine.append (by decide) (singleLine_decimal _)

theorem singleLine_sizes (f : Family) : ∀ part ∈ f.sizes, SingleLine part := by
  intro part hp
  have hcases : some part = f.hdrsize?.map (fun size => "hdrsize " ++ decimal size.toNat) ∨
      some part = f.maxattr?.map (fun attr => "maxattr " ++ decimal attr.toNat) := by
    simpa only [sizes, List.mem_filterMap, List.mem_cons, List.not_mem_nil, or_false,
      exists_eq_right] using hp
  obtain hsize | hattr := hcases
  · obtain ⟨size, -, rfl⟩ := Option.map_eq_some_iff.mp hsize.symm
    exact SingleLine.append (by decide) (singleLine_decimal _)
  · obtain ⟨attr, -, rfl⟩ := Option.map_eq_some_iff.mp hattr.symm
    exact SingleLine.append (by decide) (singleLine_decimal _)

theorem singleLine_sizeLines (f : Family) : ∀ line ∈ f.sizeLines, SingleLine line := by
  intro line hl
  unfold sizeLines at hl
  split at hl
  · cases hl
  · rw [List.mem_singleton.mp hl]
    exact SingleLine.append (by decide) (.intercalate (by decide) f.singleLine_sizes)

theorem singleLine_names (flags : OpFlags) : SingleLine flags.names := by
  refine SingleLine.intercalate (by decide) fun label hl => ?_
  obtain ⟨c, -, rfl⟩ := List.mem_map.mp hl
  cases c <;> decide

theorem singleLine_opLine (op : Op) : SingleLine (opLine op) := by
  refine .append (.append (by decide) (singleLine_hexNumeral 2 _)) ?_
  split
  · decide
  · exact .append (.append (by decide) (singleLine_names op.flags)) (by decide)

theorem singleLine_groupLine {group : Group} (h : SingleLine group.name) :
    SingleLine (groupLine group) :=
  .append (.append (.append (.append (by decide) h) (by decide)) (singleLine_hexNumeral 2 _))
    (by decide)

theorem SingleLineNames.lines (h : f.SingleLineNames) (verbosity : Verbosity) :
    ∀ line ∈ f.lines verbosity, SingleLine line := by
  have hdetails : ∀ line ∈ f.detailLines, SingleLine line := by
    intro line hl
    rw [detailLines, List.mem_append, List.mem_append, List.mem_map, List.mem_map] at hl
    obtain (hs | ⟨op, -, rfl⟩) | ⟨group, hg, rfl⟩ := hl
    · exact f.singleLine_sizeLines line hs
    · exact singleLine_opLine op
    · exact singleLine_groupLine (h.groups group hg)
  have hall : ∀ line ∈ f.lines .details, SingleLine line :=
    List.forall_mem_cons.mpr ⟨h.summary, hdetails⟩
  cases verbosity with
  | line => exact List.forall_mem_singleton.mpr h.summary
  | details => exact hall
  | stats => exact hall

/-- Dumping a family adds as many lines as it has at the level, each indented and ended,
behind what was written before, and counts them. What the lines say depends on neither the
indentation nor the text in front of them, so that repeated dumps add copies; generic code
writes the same. If no visible name has a newline of its own, there are as many newlines as
lines, every line begins with the indentation, and without it the plain dump is left. -/
theorem dump_layout {P : Type} [Carries P Record] (f : Family) (verbosity : Verbosity) :
    (f.lines verbosity).length = f.lineCount verbosity ∧
    (∀ d : Dumper, f.write verbosity d =
      ⟨d.verbosity, d.indent, d.text ++ f.rendering verbosity d.indent,
        d.lines + f.lineCount verbosity⟩) ∧
    (∀ (n : Nat) (d : Dumper), (f.write verbosity)^[n] d =
      ⟨d.verbosity, d.indent,
        d.text ++ String.join (List.replicate n (f.rendering verbosity d.indent)),
        d.lines + n * f.lineCount verbosity⟩) ∧
    (∀ (tables : Catalog P) (o : Object P),
      o.payload Record = .ok f → RendersFamilies (tables o.tag) →
      ∀ (n : Nat) (d : Dumper), d.verbosity = verbosity →
        Object.dumpAll tables (List.replicate n o) d = (.ok (), (f.write verbosity)^[n] d)) ∧
    (f.SingleLineNames → ∀ indent,
      (f.rendering verbosity indent).toList.count '\n' = f.lineCount verbosity ∧
      endedLines (f.rendering verbosity indent) =
        (f.lines verbosity).map (fun line => List.replicate indent ' ' ++ line.toList) ∧
      String.join ((endedLines (f.rendering verbosity indent)).map fun line =>
        String.ofList (line.drop indent) ++ "\n") = f.dump verbosity) := by
  refine ⟨f.length_lines verbosity, f.write_eq verbosity, f.write_iterate verbosity, ?_, ?_⟩
  · rintro tables o ho ht n d rfl
    exact dumpAll_replicate ho ht n d
  · intro hn indent
    have hlines := hn.lines verbosity
    refine ⟨?_, Dumper.endedLines_indented hlines indent, ?_⟩
    · rw [rendering, Dumper.count_newline_indented hlines, length_lines]
    · rw [dump_eq_rendering]
      exact Dumper.join_drop_endedLines hlines indent

/-- Two copies behind text that the dumper holds already, four lines each. -/
theorem nlctrl_dumped_twice :
    let sized := (((empty.setId 0x10).setVersion 2).setHdrsize 0).setMaxattr 10
    let f := ((sized.setName "nlctrl").addOp 3 ⟨6⟩).addGroup 0x10 "notify"
    let copy := "  0x0010 nlctrl version 2\n      hdrsize 0 maxattr 10\n" ++
      "        op 0x03 <has-doit,has-dump>\n        grp notify (0x10)\n"
    f.SingleLineNames ∧
    Object.dumpAll (fun _ => table) (List.replicate 2 (f.toObject : Object Payload))
        ⟨.details, 2, "# ", 5⟩ = (.ok (), ⟨.details, 2, "# " ++ copy ++ copy, 13⟩) ∧
    copy.toList.count '\n' = 4 := by
  intro sized f copy
  have hname : f.name? = some "nlctrl" := by decide
  have hn : f.SingleLineNames := by
    refine ⟨fun name h => ?_, by decide⟩
    rw [← Option.some.inj (hname.symm.trans h)]
    decide
  -- The text of one copy is computed, that of two follows from the theorem.
  have hcopy : f.rendering .details 2 = copy := by decide
  have hcount : f.lineCount .details = 4 := by decide
  have h := dump_layout (P := Payload) f .details
  refine ⟨hn, ?_, hcopy ▸ (h.2.2.2.2 hn 2).1.trans hcount⟩
  rw [h.2.2.2.1 _ _ (payload_toObject f) ⟨rfl, rfl, .inr rfl⟩ 2 _ rfl, h.2.2.1, hcopy, hcount]
  simp [String.join, String.append_assoc]

end Family

end GenericNetlink
