/-!
# Sinks

Where printed text goes. A sink may hold only so many bytes; of a text that does
not fit it takes as many characters as it can, and nothing after that.
-/

namespace GenericNetlink

def fitting (room : Nat) : List Char → List Char
  | [] => []
  | c :: rest => if c.utf8Size ≤ room then c :: fitting (room - c.utf8Size) rest else []

structure Sink where
  room : Option Nat
  text : String
  overflowed : Bool
  deriving DecidableEq

namespace Sink

def new (capacity : Option Nat) : Sink := ⟨capacity, "", false⟩

def overflowMessage : String := "failed to write whole buffer"

def write (s : Sink) (text : String) : Sink :=
  if s.overflowed then s
  else
    match s.room with
    | none => { s with text := s.text ++ text }
    | some room =>
      if text.utf8ByteSize ≤ room then
        { s with room := some (room - text.utf8ByteSize), text := s.text ++ text }
      else ⟨some 0, s.text ++ String.ofList (fitting room text.toList), true⟩

theorem fitting_prefix (room : Nat) (text : List Char) : fitting room text <+: text := by
  induction text generalizing room with
  | nil => exact List.prefix_rfl
  | cons c rest ih =>
    simp only [fitting]
    split
    · exact (List.prefix_cons_inj c).mpr (ih _)
    · exact List.nil_prefix

theorem write_unlimited (text more : String) :
    (Sink.mk none text false).write more = ⟨none, text ++ more, false⟩ := rfl

example : ((new (some 3)).write "ab").write "cd" = ⟨some 0, "abc", true⟩ := by decide

end Sink

end GenericNetlink
