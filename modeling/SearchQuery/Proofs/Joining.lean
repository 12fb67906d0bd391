import Mathlib
import SearchQuery.Proofs.Layout
import SearchQuery.Proofs.Supply
import SearchQuery.Token.Spacing

/-!
Joined tokens are cut apart again where they were joined. A blank is left out only
beside a token that nothing runs into, and a delimiter that had no second one in the
text the tokens come from finds none among them either.
-/

namespace SearchQuery

def gap (before after : TokenKind) : List Piece :=
  if before.joinsNext || after.joinsPrevious then [] else [.blank]

def joinedPieces : List Token → List Piece
  | [] => []
  | [token] => [.token token]
  | first :: second :: rest =>
      .token first :: (gap first.kind second.kind ++ joinedPieces (second :: rest))

theorem glue_gap (before after : TokenKind) :
    glue (gap before after) = (separator before after).toList := by
  unfold gap separator
  split <;> rfl

theorem tokensOf_gap (before after : TokenKind) : tokensOf (gap before after) = [] := by
  unfold gap
  split <;> rfl

theorem glue_joinedPieces (tokens : List Token) :
    glue (joinedPieces tokens) = (joinTokens tokens).toList := by
  induction tokens using joinTokens.induct with
  | case1 => simp [joinedPieces, joinTokens]
  | case2 token => simp [joinedPieces, joinTokens, Piece.chars]
  | case3 first second rest ih =>
      simp [joinedPieces, joinTokens, Piece.chars, glue_gap, ih]

theorem tokensOf_joinedPieces (tokens : List Token) : tokensOf (joinedPieces tokens) = tokens := by
  induction tokens using joinTokens.induct with
  | case1 => rfl
  | case2 => rfl
  | case3 first second rest ih => simp [joinedPieces, tokensOf_gap, ih]

theorem joinedPieces_head (token : Token) (rest : List Token) :
    (joinedPieces (token :: rest)).head? = some (.token token) := by
  cases rest <;> rfl

section Spelt

variable {token : Token} (spelt : token.Spelt)

include spelt

theorem opens_of_joinsNext (joins : token.kind.joinsNext = true) : (Piece.token token).Opens := by
  obtain ⟨kind, text⟩ := token
  cases kind with
  | fieldSeparator | groupOpen =>
      have same : text.toList = [_] := spelt
      exact opens_of_symbol (by simp) (by simp [same, keywords]) (by simp [same])
  | prefixOperator | rangeOpen =>
      rcases spelt with same | same <;>
        exact opens_of_symbol (by simp) (by simp [same, keywords]) (by simp [same])
  | _ => cases joins

theorem closes_of_joinsPrevious (joins : token.kind.joinsPrevious = true) :
    (Piece.token token).Closes := by
  obtain ⟨kind, text⟩ := token
  cases kind with
  | fieldSeparator | groupClose | tilde =>
      have same : text.toList = [_] := spelt
      apply closes_of_symbol
      · exact same ▸ boundary_singleton (by decide)
      · simp [same]
  | rangeClose =>
      rcases spelt with same | same <;> apply closes_of_symbol
      · exact same ▸ boundary_singleton (by decide)
      · simp [same]
      · exact same ▸ boundary_singleton (by decide)
      · simp [same]
  | _ => cases joins

end Spelt

theorem fits_joinedPieces {tokens : List Token} (spelt : ∀ token ∈ tokens, token.Spelt) :
    (joinedPieces tokens).IsChain Fits := by
  induction tokens using joinTokens.induct with
  | case1 => exact .nil
  | case2 token => exact .singleton _
  | case3 first second rest ih =>
      rw [List.forall_mem_cons] at spelt
      have later := ih spelt.2
      have next : second.Spelt := spelt.2 second List.mem_cons_self
      rw [joinedPieces, gap]
      split
      · rename_i close
        rw [List.nil_append, List.isChain_cons, joinedPieces_head]
        refine ⟨?_, later⟩
        rintro _ ⟨⟩
        rcases Bool.or_eq_true_iff.mp close with opens | closes
        · exact opens_of_joinsNext spelt.1 opens _
        · exact closes_of_joinsPrevious next closes _
      · rw [List.singleton_append, List.isChain_cons_cons, List.isChain_cons]
        exact ⟨trivial, fun _ _ => trivial, later⟩

theorem lexes_joinTokens {tokens : List Token} (spelt : ∀ token ∈ tokens, token.Spelt)
    (clears : tokens.Pairwise Clears) : Lexes (joinTokens tokens).toList tokens := by
  have same := tokensOf_joinedPieces tokens
  have lexes : Lexes (glue (joinedPieces tokens)) (tokensOf (joinedPieces tokens)) :=
    lexes_row (same.symm ▸ spelt) (same.symm ▸ clears) (fits_joinedPieces spelt)
  rwa [glue_joinedPieces, same] at lexes

/-- The tokens that a text can be cut into are those that are cut apart where they were
joined: each is one of its kind, and no delimiter at the head of a word comes back later. -/
theorem tokenize_joinTokens_iff {tokens : List Token} :
    tokenize (joinTokens tokens) = .ok tokens ↔
      (∀ token ∈ tokens, token.Spelt) ∧ tokens.Pairwise Clears := by
  rw [tokenize_ok_iff]
  exact ⟨fun lexes => ⟨lexes.spelt, lexes.clears⟩, fun ⟨spelt, clears⟩ =>
    lexes_joinTokens spelt clears⟩

theorem tokenize_joinTokens {source : String} {tokens : List Token}
    (accepted : tokenize source = .ok tokens) : tokenize (joinTokens tokens) = .ok tokens := by
  have lexes := tokenize_ok_iff.mp accepted
  exact tokenize_joinTokens_iff.mpr ⟨lexes.spelt, lexes.clears⟩

def denseTokens : List Token :=
  [⟨.identifier, "f"⟩, ⟨.fieldSeparator, ":"⟩, ⟨.relationalOperator, ">="⟩,
   ⟨.prefixOperator, "-"⟩, ⟨.identifier, "2"⟩, ⟨.tilde, "~"⟩, ⟨.groupOpen, "("⟩,
   ⟨.quotedString, "\"a'b\""⟩, ⟨.identifier, "/c"⟩, ⟨.rangeOpen, "\x7b"⟩, ⟨.rangeTo, "TO"⟩,
   ⟨.rangeClose, "\x7d"⟩, ⟨.identifier, "'d"⟩, ⟨.relationalOperator, "<"⟩]

theorem tokenize_joinTokens_dense :
    tokenize "f:>=-2~(\"a'b\"/c\x7bTO\x7d'd<" = .ok denseTokens ∧
      joinTokens denseTokens = "f:>= -2~ (\"a'b\" /c \x7bTO\x7d 'd <" ∧
      tokenize (joinTokens denseTokens) = .ok denseTokens := by
  have accepted : tokenize "f:>=-2~(\"a'b\"/c\x7bTO\x7d'd<" = .ok denseTokens := by cbv
  exact ⟨accepted, by cbv, tokenize_joinTokens accepted⟩

end SearchQuery
