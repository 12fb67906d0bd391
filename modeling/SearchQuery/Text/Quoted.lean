import SearchQuery.Text.Combining
import SearchQuery.Text.Printable

/-!
The quoted form of a text in messages. The delimiter and the backslash are
escaped, the common controls have short names, and a character that would not
show, or would show as part of another one, is written by its number.
-/

namespace SearchQuery.Text

def hex (n : Nat) : String := String.ofList (Nat.toDigits 16 n)

def escapeByNumber (c : Char) : String := "\\u\x7b" ++ hex c.toNat ++ "\x7d"

def escape (delimiter : Char) (c : Char) : String :=
  if c = '\x00' then "\\0"
  else if c = '\t' then "\\t"
  else if c = '\r' then "\\r"
  else if c = '\n' then "\\n"
  else if c = '\\' then "\\\\"
  else if c = delimiter then String.ofList ['\\', c]
  else if isCombining c || !isPrintable c then escapeByNumber c
  else c.toString

def quotedBy (delimiter : Char) (cs : List Char) : String :=
  delimiter.toString ++ String.join (cs.map (escape delimiter)) ++ delimiter.toString

def quoted (s : String) : String := quotedBy '"' s.toList

def quotedChar (c : Char) : String := quotedBy '\'' [c]

end SearchQuery.Text
