import GenericNetlink.Output.Print
import GenericNetlink.Family.Table
import GenericNetlink.Sample.Payload

/-!
# Levels and ways of dumping

What a family shows at a level is a list of lines, and dumping writes these lines and
nothing else (`write_eq_startLines`). The first level shows the first line of the second,
and the third shows what the second does. The hooks of families write the same lines, so
that generic code, the family itself and the printer agree. A dump that is refused has
not written anything.
-/

namespace GenericNetlink

open Text

namespace Dumper

def startLines (d : Dumper) (texts : List String) : Dumper :=
  texts.foldl (fun d text => d.startLine (text ++ "\n")) d

theorem startLines_append (d : Dumper) (first rest : List String) :
    d.startLines (first ++ rest) = (d.startLines first).startLines rest :=
  List.foldl_append

theorem foldl_eq_startLines {α : Type} {write : Dumper → α → Dumper} {line : α → String}
    (h : ∀ d item, write d item = d.startLine (line item ++ "\n")) (d : Dumper)
    (items : List α) : items.foldl write d = d.startLines (items.map line) := by
  induction items generalizing d with
  | nil => rfl
  | cons item rest ih =>
    rw [List.foldl_cons, h, ih]
    rfl

theorem append_startLine (d : Dumper) (text more : String) :
    (d.startLine text).append more = d.startLine (text ++ more) := by
  simp only [startLine, append, String.append_assoc]

theorem toList_startLines (d : Dumper) (texts : List String) :
    (d.startLines texts).text.toList =
      d.text.toList ++
        texts.flatMap fun text => List.replicate d.indent ' ' ++ (text ++ "\n").toList := by
  induction texts generalizing d with
  | nil => exact (List.append_nil _).symm
  | cons text rest ih =>
    refine (ih (d.startLine (text ++ "\n"))).trans ?_
    rw [toList_startLine, List.flatMap_cons]
    simp only [List.append_assoc]
    rfl

end Dumper

namespace Family

def opLine (op : Op) : String :=
  "      op " ++ hexNumeral 2 op.id.toNat ++
    if op.flags.isEmpty then "" else " <" ++ op.flags.names ++ ">"

def groupLine (group : Group) : String :=
  "      grp " ++ group.name ++ " (" ++ hexNumeral 2 group.id.toNat ++ ")"

def sizeLines (f : Family) : List String :=
  match f.sizes with
  | [] => []
  | sizes => ["    " ++ " ".intercalate sizes]

def detailLines (f : Family) : List String :=
  f.sizeLines ++ f.ops.map opLine ++ f.groups.map groupLine

def lines (f : Family) : Verbosity → List String
  | .line => [f.summary]
  | .details | .stats => f.summary :: f.detailLines

theorem writeSizes_eq_startLines (f : Family) (d : Dumper) :
    f.writeSizes d = d.startLines f.sizeLines := by
  unfold writeSizes sizeLines
  cases f.sizes <;> rfl

theorem writeOp_eq_startLine (d : Dumper) (op : Op) :
    writeOp d op = d.startLine (opLine op ++ "\n") := by
  simp only [writeOp, opLine]
  split <;> simp only [Dumper.append_startLine, String.append_empty]

theorem writeGroup_eq_startLine (d : Dumper) (group : Group) :
    writeGroup d group = d.startLine (groupLine group ++ "\n") := by
  simp only [writeGroup, groupLine, String.append_assoc]
  rfl

theorem writeDetails_eq_startLines (f : Family) (d : Dumper) :
    f.writeDetails d = (f.writeLine d).startLines f.detailLines := by
  rw [detailLines, Dumper.startLines_append, Dumper.startLines_append,
    ← f.writeSizes_eq_startLines, ← Dumper.foldl_eq_startLines writeOp_eq_startLine,
    ← Dumper.foldl_eq_startLines writeGroup_eq_startLine]
  rfl

theorem write_eq_startLines (f : Family) (verbosity : Verbosity) (d : Dumper) :
    f.write verbosity d = d.startLines (f.lines verbosity) := by
  cases verbosity with
  | line => rfl
  | details => exact f.writeDetails_eq_startLines d
  | stats => exact f.writeDetails_eq_startLines d

theorem toList_dump (f : Family) (verbosity : Verbosity) :
    (f.dump verbosity).toList = (f.lines verbosity).flatMap fun line => (line ++ "\n").toList := by
  rw [dump, write_eq_startLines, Dumper.toList_startLines]
  rfl

theorem dump_line_prefix (f : Family) : (f.dump .line).toList <+: (f.dump .details).toList := by
  have hl : f.lines .details = f.lines .line ++ f.detailLines := rfl
  rw [toList_dump, toList_dump, hl, List.flatMap_append]
  exact List.prefix_append _ _

theorem dump_stats (f : Family) : f.dump .stats = f.dump .details := by
  refine String.toList_inj.mp ?_
  rw [toList_dump, toList_dump]
  rfl

theorem write_stats (f : Family) : f.write .stats = f.write .details := rfl

end Family

-- ---------------------------------------------------------------------------
-- Hooks
-- ---------------------------------------------------------------------------

/-- The hook that a table has for a level. Details serve for statistics that have none. -/
inductive Table.Serves {P : Type} (t : Table P) : Verbosity → DumpHook P → Prop
  | line {hook : DumpHook P} (h : t.line = some hook) : Serves t .line hook
  | details {hook : DumpHook P} (h : t.details = some hook) : Serves t .details hook
  | stats {hook : DumpHook P} (h : t.stats = some hook) : Serves t .stats hook
  | fallback {hook : DumpHook P} (hn : t.stats = none) (h : t.details = some hook) :
    Serves t .stats hook

section
variable {P : Type} {tables : Catalog P} {o : Object P} {d : Dumper} {hook : DumpHook P}

theorem Table.serves_iff {t : Table P} {verbosity : Verbosity} :
    t.Serves verbosity hook ↔ t.dumpHook verbosity = some hook := by
  constructor
  · rintro (h | h | h | ⟨hn, h⟩)
    · exact h
    · exact h
    · rw [dumpHook, h]
      rfl
    · rw [dumpHook, hn]
      exact h
  · intro h
    cases verbosity with
    | line => exact .line h
    | details => exact .details h
    | stats =>
      rw [dumpHook] at h
      cases hs : t.stats with
      | none =>
        rw [hs] at h
        exact .fallback hs h
      | some own =>
        rw [hs] at h
        exact .stats (hs.trans h)

namespace Object

theorem dump_of_serves (h : (tables o.tag).Serves d.verbosity hook) :
    dump tables o d = hook o d := by
  simp only [dump, Table.serves_iff.mp h]

theorem dump_of_unserved (h : ∀ hook, ¬(tables o.tag).Serves d.verbosity hook) :
    dump tables o d = (.error (missing o.tag d.verbosity.operation), d) := by
  have hn : (tables o.tag).dumpHook d.verbosity = none :=
    Option.eq_none_iff_forall_ne_some.mpr fun hook hs => h hook (Table.serves_iff.mpr hs)
  simp only [dump, hn]

end Object

end

namespace Family

variable {P : Type} [Carries P Record] {tables : Catalog P} {o : Object P} {d : Dumper}

/-- A table with the dump hooks of families. A hook for statistics may be left out. -/
structure RendersFamilies (t : Table P) : Prop where
  line : t.line = some (dumpHook .line)
  details : t.details = some (dumpHook .details)
  stats : t.stats = none ∨ t.stats = some (dumpHook .stats)

theorem RendersFamilies.serves {t : Table P} (h : RendersFamilies t) (verbosity : Verbosity) :
    ∃ level, t.Serves verbosity (dumpHook level) ∧
      ∀ f : Family, f.write level = f.write verbosity := by
  cases verbosity with
  | line => exact ⟨.line, .line h.line, fun _ => rfl⟩
  | details => exact ⟨.details, .details h.details, fun _ => rfl⟩
  | stats =>
    obtain hn | hs := h.stats
    · exact ⟨.details, .fallback hn h.details, fun f => f.write_stats.symm⟩
    · exact ⟨.stats, .stats hs, fun _ => rfl⟩

theorem dumpHook_ok {f : Family} (ho : o.payload Record = .ok f) (level : Verbosity) :
    dumpHook level o d = (.ok (), f.write level d) := by
  simp only [dumpHook, Hook.dumping, ho]

theorem dumpHook_foreign {fault : Fault} (ho : o.payload Record = .error fault)
    (level : Verbosity) : dumpHook level o d = (.error fault, d) := by
  simp only [dumpHook, Hook.dumping, ho]

theorem dump_object {f : Family} (ho : o.payload Record = .ok f)
    (ht : RendersFamilies (tables o.tag)) : o.dump tables d = (.ok (), f.write d.verbosity d) := by
  obtain ⟨level, hs, hw⟩ := ht.serves d.verbosity
  rw [Object.dump_of_serves hs, dumpHook_ok ho, hw]

/-- The line level of a family is the beginning of its details, and statistics show what
details do. Generic code with the hooks of families, the family itself and the printer
produce one text. A dump fails if no hook serves the level that is asked for, which the
fault names, or if the hook of families meets another payload; the dumper is then left as
it was. -/
theorem dump_ways_agree (tables : Catalog P) :
    (∀ f : Family,
      (f.dump .line).toList <+: (f.dump .details).toList ∧
      f.dump .stats = f.dump .details ∧
      (∀ o : Object P, o.payload Record = .ok f → RendersFamilies (tables o.tag) →
        ∀ verbosity, o.dumpText tables verbosity = .ok (f.dump verbosity)) ∧
      ∀ encoder options,
        (Sink.new none).print encoder f .text options =
          ⟨none, f.dump options.verbosity, false⟩ ∧
        ∀ s : Sink, s.print encoder f .text options = s.write (f.dump options.verbosity)) ∧
    ∀ (o : Object P) (d : Dumper),
      ((∀ hook, ¬(tables o.tag).Serves d.verbosity hook) →
        o.dump tables d =
          (.error (.missingOperation o.tag.name d.verbosity.operation), d)) ∧
      ∀ level, (tables o.tag).Serves d.verbosity (dumpHook level) →
        (∀ f : Family, o.payload Record ≠ .ok f) →
        ∃ fault, o.dump tables d = (.error fault, d) ∧
          fault = .payloadMismatch (Carries.kind P Record) o.tag.name ∧
          fault.name = "TypeMismatch" := by
  refine ⟨fun f => ⟨f.dump_line_prefix, f.dump_stats, ?_, ?_⟩, fun o d =>
    ⟨Object.dump_of_unserved, ?_⟩⟩
  · intro o ho ht verbosity
    simp only [Object.dumpText, dump_object ho ht]
    rfl
  · intro encoder options
    exact ⟨rfl, fun _ => rfl⟩
  · intro level hs hn
    obtain ⟨f, hf, -⟩ | hf := o.payload_cases Record
    · exact absurd hf (hn f)
    · exact ⟨_, (Object.dump_of_serves hs).trans (dumpHook_foreign hf level), rfl, rfl⟩

def tableWithoutStats : Table Payload := { table with stats := none }

def pointObject : Object Payload := ⟨⟨0, .point Point.blank⟩, ⟨1, "point"⟩⟩

/-- Details stand in for the statistics of a family. A point with that table is refused,
behind text that the dumper holds already. -/
theorem tableWithoutStats_dumps :
    RendersFamilies tableWithoutStats ∧
    Object.dumpText (fun _ => tableWithoutStats) (empty.setMaxattr 10).toObject .stats =
      .ok ((empty.setMaxattr 10).dump .stats) ∧
    (empty.setMaxattr 10).dump .stats = "\n    maxattr 10\n" ∧
    ∃ fault, Object.dump (fun _ => tableWithoutStats) pointObject ⟨.stats, 2, "  first\n", 1⟩ =
        (.error fault, ⟨.stats, 2, "  first\n", 1⟩) ∧
      fault = .payloadMismatch "family" "point" ∧ fault.name = "TypeMismatch" := by
  have ht : RendersFamilies tableWithoutStats := ⟨rfl, rfl, .inl rfl⟩
  have h := dump_ways_agree (P := Payload) fun _ => tableWithoutStats
  refine ⟨ht, (h.1 _).2.2.1 _ (payload_toObject _) ht .stats, by decide, ?_⟩
  exact (h.2 pointObject _).2 .details (.fallback rfl rfl) fun f hf => by cases hf

end Family

end GenericNetlink
