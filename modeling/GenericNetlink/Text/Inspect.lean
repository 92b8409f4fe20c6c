import GenericNetlink.Text.Characters
import GenericNetlink.Text.Numeral

/-!
# Inspection text

A value shown for inspection is a tree of bare words, quoted strings, lists,
wrapped values and records, written on one line: `Name { key: value, .. }`,
`Name(value)`, `[1, 2]`. Quoted strings show control characters, marks that
attach to the character before them, and characters without a visible form by
escapes, so that a shown string is always one readable line.
-/

namespace GenericNetlink.Text

/-- What inspection text is made of. A record that is not `complete` ends in `..`. -/
inductive Shown
  | bare (text : String)
  | quoted (text : String)
  | list (items : List Shown)
  | wrapped (name : String) (inner : Shown)
  | record (name : String) (fields : List (String × Shown)) (complete : Bool)

def isHidden (c : Char) : Bool := !isGraphic c || isFiller c || attaches c

/-- A character between quotes. None of the printable ASCII characters is hidden, so that
the tables are not searched for them. -/
def quoteChar (c : Char) : List Char :=
  if c = '"' then ['\\', '"']
  else if c = '\\' then ['\\', '\\']
  else if c = '\n' then ['\\', 'n']
  else if c = '\r' then ['\\', 'r']
  else if c = '\t' then ['\\', 't']
  else if c = '\x00' then ['\\', '0']
  else if ' ' ≤ c ∧ c ≤ '~' then [c]
  else if isHidden c then '\\' :: 'u' :: '\x7b' :: Nat.toDigits 16 c.toNat ++ ['\x7d']
  else [c]

def quote (s : String) : String :=
  String.ofList ('"' :: s.toList.flatMap quoteChar ++ ['"'])

def commaSeparated (items : List String) : String := ", ".intercalate items

mutual

def Shown.render : Shown → String
  | .bare text => text
  | .quoted text => quote text
  | .list items => "[" ++ commaSeparated (Shown.renderItems items) ++ "]"
  | .wrapped name inner => name ++ "(" ++ inner.render ++ ")"
  | .record name fields complete =>
    let rest := if complete then [] else [".."]
    name ++ " \x7b " ++ commaSeparated (Shown.renderFields fields ++ rest) ++ " \x7d"

def Shown.renderItems : List Shown → List String
  | [] => []
  | item :: items => item.render :: Shown.renderItems items

def Shown.renderFields : List (String × Shown) → List String
  | [] => []
  | field :: fields => Shown.renderField field :: Shown.renderFields fields

def Shown.renderField : String × Shown → String
  | (key, value) => key ++ ": " ++ value.render

end

namespace Shown

def nat (n : Nat) : Shown := .bare (decimal n)

def int (n : Int) : Shown := .bare (signedDecimal n)

def bool (b : Bool) : Shown := .bare (if b then "true" else "false")

def bytes (b : List UInt8) : Shown := .list (b.map fun x => nat x.toNat)

def option : Option Shown → Shown
  | none => .bare "None"
  | some inner => .wrapped "Some" inner

end Shown

class Inspect (α : Type) where
  shown : α → Shown

def inspect {α : Type} [Inspect α] (a : α) : String := (Inspect.shown a).render

example : (Shown.record "P" [("x", .int (-1)), ("l", .quoted "a\"b\n")] true).render =
    "P \x7b x: -1, l: \"a\\\"b\\n\" \x7d" := by decide
example : (Shown.option (some (.bytes [1, 2]))).render = "Some([1, 2])" := by decide

end GenericNetlink.Text
