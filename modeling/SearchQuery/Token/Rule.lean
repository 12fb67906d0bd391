import SearchQuery.Text.Blank
import SearchQuery.Token.Basic

/-!
The lexical rules. A pattern says how many characters it takes at the start of
a text, if it applies there. The rules are tried in order and the first that
applies decides, so each rule stands before the ones that would swallow it.
-/

namespace SearchQuery

def reservedChars : List Char :=
  ['.', '?', '+', '*', '|', '\x7b', '\x7d', '[', ']', '(', ')', '"', '\\', '#', '@', '&',
   '<', '>', '~', ':']

def isIdentifierChar (c : Char) : Bool := !Text.isBlank c && !reservedChars.contains c

abbrev Pattern := List Char → Option Nat

namespace Pattern

/-- The longest run of characters of a class; an empty run does not count. -/
def run (member : Char → Bool) : Pattern := fun cs =>
  match (cs.takeWhile member).length with
  | 0 => none
  | length + 1 => some (length + 1)

def oneOf (members : List Char) : Pattern
  | [] => none
  | c :: _ => if members.contains c then some 1 else none

def literal (text : List Char) : Pattern := fun cs =>
  if text.isPrefixOf cs then some text.length else none

def keyword (text : List Char) : Pattern := fun cs =>
  if text.isPrefixOf cs && !(cs.drop text.length).head?.any isIdentifierChar then
    some text.length
  else none

def delimited (delimiter : Char) : Pattern
  | [] => none
  | c :: cs =>
      if c = delimiter && cs.contains delimiter then
        some ((cs.takeWhile (· != delimiter)).length + 2)
      else none

def comparison : Pattern
  | [] => none
  | c :: cs =>
      if c = '<' || c = '>' then some (if cs.head? = some '=' then 2 else 1) else none

def either (first second : Pattern) : Pattern := fun cs => (first cs).or (second cs)

def Consumes (pattern : Pattern) : Prop := ∀ cs count, pattern cs = some count → 0 < count

theorem run_consumes (member : Char → Bool) : Consumes (run member) := by
  intro cs count found
  unfold run at found
  split at found <;> cases found
  omega

theorem oneOf_consumes (members : List Char) : Consumes (oneOf members) := by
  intro cs count found
  cases cs with
  | nil => cases found
  | cons c cs =>
      simp only [oneOf] at found
      split at found <;> cases found
      omega

theorem literal_consumes (c : Char) (text : List Char) : Consumes (literal (c :: text)) := by
  intro cs count found
  unfold literal at found
  split at found <;> cases found
  simp

theorem keyword_consumes (c : Char) (text : List Char) : Consumes (keyword (c :: text)) := by
  intro cs count found
  unfold keyword at found
  split at found <;> cases found
  simp

theorem delimited_consumes (delimiter : Char) : Consumes (delimited delimiter) := by
  intro cs count found
  cases cs with
  | nil => cases found
  | cons c cs =>
      simp only [delimited] at found
      split at found <;> cases found
      omega

theorem comparison_consumes : Consumes comparison := by
  intro cs count found
  cases cs with
  | nil => cases found
  | cons c cs =>
      simp only [comparison] at found
      split at found <;> cases found
      split <;> omega

theorem either_consumes {first second : Pattern} (left : Consumes first)
    (right : Consumes second) : Consumes (either first second) := by
  intro cs count found
  rcases Option.or_eq_some_iff.mp found with taken | ⟨_, taken⟩
  · exact left cs count taken
  · exact right cs count taken

end Pattern

structure Rule where
  kind : TokenKind
  pattern : Pattern

open Pattern in
def rules : List Rule :=
  [⟨.whitespace, run Text.isBlank⟩,
   ⟨.quotedString, either (delimited '"') (delimited '\'')⟩,
   ⟨.regex, delimited '/'⟩,
   ⟨.logicalAnd, either (keyword ['A', 'N', 'D']) (literal ['&', '&'])⟩,
   ⟨.logicalOr, either (keyword ['O', 'R']) (literal ['|', '|'])⟩,
   ⟨.logicalNot, either (keyword ['N', 'O', 'T']) (literal ['!'])⟩,
   ⟨.prefixOperator, oneOf ['+', '-', '!']⟩,
   ⟨.fieldSeparator, oneOf [':']⟩,
   ⟨.tilde, oneOf ['~']⟩,
   ⟨.groupOpen, oneOf ['(']⟩,
   ⟨.groupClose, oneOf [')']⟩,
   ⟨.rangeOpen, oneOf ['[', '\x7b']⟩,
   ⟨.rangeClose, oneOf [']', '\x7d']⟩,
   ⟨.rangeTo, keyword ['T', 'O']⟩,
   ⟨.relationalOperator, comparison⟩,
   ⟨.identifier, run isIdentifierChar⟩]

def firstMatch (cs : List Char) : Option (TokenKind × Nat) :=
  rules.findSome? fun rule => (rule.pattern cs).map fun length => (rule.kind, length)

open Pattern in
theorem rules_consume : ∀ rule ∈ rules, Consumes rule.pattern := by
  simp [rules, run_consumes, oneOf_consumes, literal_consumes, keyword_consumes,
    delimited_consumes, comparison_consumes, either_consumes]

theorem firstMatch_pos {cs : List Char} {kind : TokenKind} {count : Nat}
    (found : firstMatch cs = some (kind, count)) : 0 < count := by
  obtain ⟨rule, member, taken⟩ := List.exists_of_findSome?_eq_some found
  obtain ⟨length, matched, same⟩ := Option.map_eq_some_iff.mp taken
  cases same
  exact rules_consume rule member cs count matched

end SearchQuery
