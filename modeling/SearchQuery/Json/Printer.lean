import SearchQuery.Json.Basic
import SearchQuery.Text.Quoted

/-!
JSON values as indented text: one member a line, two blanks for each level.
Only the quotation mark, the backslash and the controls are escaped.
-/

namespace SearchQuery.Json

def escapeChar (c : Char) : List Char :=
  match c with
  | '"' => ['\\', '"']
  | '\\' => ['\\', '\\']
  | '\x08' => ['\\', 'b']
  | '\x0c' => ['\\', 'f']
  | '\n' => ['\\', 'n']
  | '\r' => ['\\', 'r']
  | '\t' => ['\\', 't']
  | c =>
      if c.toNat < 0x20 then
        ['\\', 'u', '0', '0', (c.toNat / 16).digitChar, (c.toNat % 16).digitChar]
      else [c]

def quote (s : String) : String :=
  "\"" ++ String.ofList (s.toList.flatMap escapeChar) ++ "\""

def indentation (level : Nat) : String := String.ofList (List.replicate (2 * level) ' ')

mutual

def pretty (level : Nat) : Json → String
  | .bool true => "true"
  | .bool false => "false"
  | .string value => quote value
  | .object [] => "\x7b\x7d"
  | .object (member :: rest) =>
      "\x7b\n" ++ prettyMember (level + 1) member ++ prettyMembers (level + 1) rest
        ++ "\n" ++ indentation level ++ "\x7d"

def prettyMember (level : Nat) : String × Json → String
  | (key, value) => indentation level ++ quote key ++ ": " ++ pretty level value

def prettyMembers (level : Nat) : List (String × Json) → String
  | [] => ""
  | member :: rest => ",\n" ++ prettyMember level member ++ prettyMembers level rest

end

end SearchQuery.Json
