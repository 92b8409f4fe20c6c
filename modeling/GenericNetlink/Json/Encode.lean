import GenericNetlink.Text.Numeral
import GenericNetlink.Json.Value

/-!
# JSON text

Two forms of a value: the compact one on a single line without blanks, and the
pretty one that indents by two spaces. In strings the quote, the backslash and
the control characters are escaped; all else stands as it is.
-/

namespace GenericNetlink.Json

open Text

def escapeChar (c : Char) : List Char :=
  if c = '"' then ['\\', '"']
  else if c = '\\' then ['\\', '\\']
  else if c = '\x08' then ['\\', 'b']
  else if c = '\x0c' then ['\\', 'f']
  else if c = '\n' then ['\\', 'n']
  else if c = '\r' then ['\\', 'r']
  else if c = '\t' then ['\\', 't']
  else if c.toNat < 0x20 then
    ['\\', 'u', '0', '0', Nat.digitChar (c.toNat / 16), Nat.digitChar (c.toNat % 16)]
  else [c]

def encodeString (s : String) : String :=
  String.ofList ('"' :: s.toList.flatMap escapeChar ++ ['"'])

mutual

def compact : Json → String
  | .null => "null"
  | .bool b => if b then "true" else "false"
  | .int n => signedDecimal n
  | .real n => n.text
  | .str s => encodeString s
  | .arr items => "[" ++ ",".intercalate (compactItems items) ++ "]"
  | .obj members => "\x7b" ++ ",".intercalate (compactMembers members) ++ "\x7d"

def compactItems : List Json → List String
  | [] => []
  | item :: items => compact item :: compactItems items

def compactMembers : List (String × Json) → List String
  | [] => []
  | member :: members => compactMember member :: compactMembers members

def compactMember : String × Json → String
  | (key, value) => encodeString key ++ ":" ++ compact value

end

def newLine (depth : Nat) : String :=
  "\n" ++ String.ofList (List.replicate (2 * depth) ' ')

/-- Parts between brackets, each on a line of its own; nothing stands between
the brackets if there are none. -/
def block (depth : Nat) (opening closing : String) (parts : List String) : String :=
  match parts with
  | [] => opening ++ closing
  | parts =>
    opening ++ newLine (depth + 1) ++ ("," ++ newLine (depth + 1)).intercalate parts ++
      newLine depth ++ closing

mutual

def pretty (depth : Nat) : Json → String
  | .null => "null"
  | .bool b => if b then "true" else "false"
  | .int n => signedDecimal n
  | .real n => n.text
  | .str s => encodeString s
  | .arr items => block depth "[" "]" (prettyItems (depth + 1) items)
  | .obj members => block depth "\x7b" "\x7d" (prettyMembers (depth + 1) members)

def prettyItems (depth : Nat) : List Json → List String
  | [] => []
  | item :: items => pretty depth item :: prettyItems depth items

def prettyMembers (depth : Nat) : List (String × Json) → List String
  | [] => []
  | member :: members => prettyMember depth member :: prettyMembers depth members

def prettyMember (depth : Nat) : String × Json → String
  | (key, value) => encodeString key ++ ": " ++ pretty depth value

end

/-- How values become text, on a single line and for people. -/
structure Encoder where
  compact : Json → String
  pretty : Json → String

def Encoder.standard : Encoder := ⟨Json.compact, Json.pretty 0⟩

def Encoder.document (encoder : Encoder) (isPretty : Bool) (value : Json) : String :=
  (if isPretty then encoder.pretty value else encoder.compact value) ++ "\n"

example : compact (ofMembers [("b", .arr []), ("a", .str "x\n\x01")]) =
    "\x7b\"a\":\"x\\n\\u0001\",\"b\":[]\x7d" := by decide
example : Encoder.standard.document true (ofMembers [("a", .arr [.int 1, .null])]) =
    "\x7b\n  \"a\": [\n    1,\n    null\n  ]\n\x7d\n" := by decide

end GenericNetlink.Json
