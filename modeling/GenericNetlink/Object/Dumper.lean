/-!
# Dumping

Rendering for people: a verbosity, and a sink that indents every line it starts
and counts them.
-/

namespace GenericNetlink

/-- How much a dump shows; each level includes what the one before shows. -/
inductive Verbosity
  | line
  | details
  | stats
  deriving DecidableEq

namespace Verbosity

def name : Verbosity → String
  | .line => "Line"
  | .details => "Details"
  | .stats => "Stats"

def operation : Verbosity → String
  | .line => "dump_line"
  | .details => "dump_details"
  | .stats => "dump_stats"

end Verbosity

structure Dumper where
  verbosity : Verbosity
  indent : Nat
  text : String
  lines : Nat
  deriving DecidableEq

namespace Dumper

def new (verbosity : Verbosity) : Dumper := ⟨verbosity, 0, "", 0⟩

def withIndent (d : Dumper) (indent : Nat) : Dumper := { d with indent }

def append (d : Dumper) (text : String) : Dumper := { d with text := d.text ++ text }

def startLine (d : Dumper) (text : String) : Dumper :=
  let d := { d with lines := d.lines + 1 }
  (d.append (String.ofList (List.replicate d.indent ' '))).append text

theorem toList_startLine (d : Dumper) (text : String) :
    (d.startLine text).text.toList =
      d.text.toList ++ List.replicate d.indent ' ' ++ text.toList := by
  simp [startLine, append]

example : ((((new .details).withIndent 2).startLine "a\n").startLine "b").append " c\n" =
    ⟨.details, 2, "  a\n  b c\n", 2⟩ := by decide

end Dumper

end GenericNetlink
