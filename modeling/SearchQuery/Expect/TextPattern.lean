/-!
Patterns for the text of a value: the whole text, its beginning, its end, or a
part of it.
-/

namespace SearchQuery

inductive TextPattern where
  | exact (text : String)
  | startsWith (text : String)
  | endsWith (text : String)
  | contains (text : String)
  deriving DecidableEq, Repr

namespace TextPattern

def occursIn (part : List Char) : List Char → Bool
  | [] => part.isEmpty
  | c :: cs => part.isPrefixOf (c :: cs) || occursIn part cs

def accepts : TextPattern → String → Bool
  | exact text, actual => actual = text
  | startsWith text, actual => text.toList.isPrefixOf actual.toList
  | endsWith text, actual => text.toList.isSuffixOf actual.toList
  | contains text, actual => occursIn text.toList actual.toList

def describe : TextPattern → String
  | exact text => "be '" ++ text ++ "'"
  | startsWith text => "start with '" ++ text ++ "'"
  | endsWith text => "end with '" ++ text ++ "'"
  | contains text => "contain '" ++ text ++ "'"

theorem occursIn_iff (part cs : List Char) : occursIn part cs = true ↔ part <:+: cs := by
  induction cs with
  | nil => simp [occursIn]
  | cons c cs ih =>
      simp [occursIn, ih, List.infix_cons_iff]

end TextPattern

end SearchQuery
