import GenericNetlink.Text.Inspect

/-!
# Faults

Everything that an operation on a byte layout or on an object can refuse. An
absent attribute is never a fault: reading it gives a documented default.
-/

namespace GenericNetlink

open Text

inductive Fault
  | fieldLength (field expected actual : Nat)
  | fieldIndex (index count : Nat)
  | viewLength (expected actual : Nat)
  | viewDeletion
  | indexOutOfRange (index : Int) (len : Nat)
  | invalidRange (start stop : Int) (len : Nat)
  | truncated (expected actual : Nat)
  | missingOperation (object operation : String)
  | typeMismatch (expected actual : String)
  /-- An object of type `actual` does not carry a payload of kind `expected`. -/
  | payloadMismatch (expected actual : String)
  | tokenSpaceExhausted (attempts live : Nat)
  deriving DecidableEq

namespace Fault

def name : Fault → String
  | fieldLength .. => "FieldLength"
  | fieldIndex .. => "FieldIndex"
  | viewLength .. => "ViewLength"
  | viewDeletion => "ViewDeletion"
  | indexOutOfRange .. => "IndexOutOfRange"
  | invalidRange .. => "InvalidRange"
  | truncated .. => "Truncated"
  | missingOperation .. => "MissingOperation"
  | typeMismatch .. | payloadMismatch .. => "TypeMismatch"
  | tokenSpaceExhausted .. => "TokenSpaceExhausted"

private def byteCounts (expected actual : Nat) : String :=
  "expected " ++ decimal expected ++ " bytes, got " ++ decimal actual

def message : Fault → String
  | fieldLength field expected actual =>
    "field " ++ decimal field ++ ": " ++ byteCounts expected actual
  | fieldIndex index count =>
    "field index " ++ decimal index ++ " out of range (" ++ decimal count ++ " fields)"
  | viewLength expected actual =>
    "length of view cannot be changed: " ++ byteCounts expected actual
  | viewDeletion => "bounded view doesn't support item deletion"
  | indexOutOfRange index len =>
    "view index " ++ signedDecimal index ++ " out of range (len " ++ decimal len ++ ")"
  | invalidRange start stop len =>
    "invalid view range " ++ signedDecimal start ++ ".." ++ signedDecimal stop ++
      " over " ++ decimal len ++ " bytes"
  | truncated expected actual => "buffer truncated: " ++ byteCounts expected actual
  | missingOperation object operation =>
    object ++ ": operation " ++ operation ++ " not implemented"
  | typeMismatch expected actual | payloadMismatch expected actual =>
    "object type mismatch: expected " ++ expected ++ ", got " ++ actual
  | tokenSpaceExhausted attempts live =>
    "pointer token space exhausted after " ++ decimal attempts ++ " attempts (" ++
      decimal live ++ " live tokens)"

def isLayoutViolation : Fault → Bool
  | fieldLength .. | fieldIndex .. | truncated .. => true
  | _ => false

def isViewMutation : Fault → Bool
  | viewLength .. | viewDeletion => true
  | _ => false

/-- A broken internal invariant, to be reported rather than handled. -/
def isBug : Fault → Bool
  | tokenSpaceExhausted .. => true
  | _ => false

def classes (f : Fault) : List String :=
  [(f.isLayoutViolation, "layout"), (f.isViewMutation, "view"), (f.isBug, "bug")].filterMap
    fun (holds, label) => if holds then some label else none

def fields : Fault → List (String × Shown)
  | fieldLength field expected actual =>
    [("field", .nat field), ("expected", .nat expected), ("actual", .nat actual)]
  | fieldIndex index count => [("index", .nat index), ("count", .nat count)]
  | viewLength expected actual | truncated expected actual =>
    [("expected", .nat expected), ("actual", .nat actual)]
  | viewDeletion => []
  | indexOutOfRange index len => [("index", .int index), ("len", .nat len)]
  | invalidRange start stop len =>
    [("start", .int start), ("stop", .int stop), ("len", .nat len)]
  | missingOperation object operation =>
    [("object", .quoted object), ("operation", .quoted operation)]
  | typeMismatch expected actual | payloadMismatch expected actual =>
    [("expected", .quoted expected), ("actual", .quoted actual)]
  | tokenSpaceExhausted attempts live => [("attempts", .nat attempts), ("live", .nat live)]

instance : Inspect Fault where
  shown
    | viewDeletion => .bare viewDeletion.name
    | f => .record f.name f.fields true

end Fault

example : inspect (Fault.invalidRange (-1) 2 3) =
    "InvalidRange \x7b start: -1, stop: 2, len: 3 \x7d" := by decide
example : inspect Fault.viewDeletion = "ViewDeletion" := by decide

end GenericNetlink
