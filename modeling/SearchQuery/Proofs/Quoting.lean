import SearchQuery.Proofs.Lawful
import SearchQuery.Proofs.Lexemes

/-!
Quotation marks put on and taken off. A value that is printed in quotation marks is read back
unless it has both kinds of them, and every quoted string of a text holds a value that has not.
-/

namespace SearchQuery

def Quotes (text value : String) : Prop :=
  ∃ token, tokenize text = .ok [token] ∧ token.kind = .quotedString ∧ unquote token.text = value

theorem Quotes.isQuotable {text value : String} (quotes : Quotes text value) :
    IsQuotable value := by
  obtain ⟨token, cut, kind, rfl⟩ := quotes
  have spelt := (tokenize_ok_iff.mp cut).spelt token List.mem_cons_self
  exact spelt.isQuotable kind

theorem quotes_quoteValue_iff (value : String) :
    Quotes (quoteValue value) value ↔ IsQuotable value := by
  constructor
  · exact Quotes.isQuotable
  · intro quotable
    have spelt := (firm_quoted quotable).1
    have cut := tokenize_one_iff.mpr spelt
    exact ⟨⟨.quotedString, quoteValue value⟩, cut, rfl, unquote_quoteValue value⟩

/-- Of a quoted string only the two marks are taken off. -/
theorem Token.Spelt.unquoted {token : Token} (spelt : token.Spelt)
    (kind : token.kind = .quotedString) :
    ∃ quote, (quote = '"' ∨ quote = '\'') ∧
      token.text.toList = quote :: ((unquote token.text).toList ++ [quote]) := by
  obtain ⟨quote, body, delimiter, -, text, value⟩ := spelt.quoted kind
  refine ⟨quote, delimiter, ?_⟩
  rw [text, value, String.toList_ofList]

/-- Quotation marks and their removal are inverse to each other: from values to texts where
the value can be quoted at all, and from any quoted string of any text, whole or refused. -/
theorem quoteValue_unquote_inverse :
    (∀ value : String,
      Quotes (quoteValue value) value ↔ ¬ ('"' ∈ value.toList ∧ '\'' ∈ value.toList)) ∧
    ∀ source : String, ∀ found ∈ (Tokenizer.ofString source).drain.1, found.kind = .quotedString →
      (∃ first last, found.text.toList = first :: ((unquote found.text).toList ++ [last])) ∧
        Quotes (quoteValue (unquote found.text)) (unquote found.text) := by
  constructor
  · exact quotes_quoteValue_iff
  · intro source found member kind
    have spelt := Tokenizer.drain_spelt (Tokenizer.ofString source) found member
    constructor
    · obtain ⟨quote, -, text⟩ := spelt.unquoted kind
      exact ⟨quote, quote, text⟩
    · exact (quotes_quoteValue_iff _).mpr (spelt.isQuotable kind)

/-- In `f:'é"` and a line end and `'#` the text is refused behind a phrase of two lines. -/
theorem quoteValue_unquote_inverse_twoLines :
    ⟨⟨.quotedString, "'é\"\n'"⟩, 2, 8⟩ ∈ (Tokenizer.ofString "f:'é\"\n'#").drain.1 ∧
      unquote "'é\"\n'" = "é\"\n" ∧ Quotes "'é\"\n'" "é\"\n" := by
  have drained : (Tokenizer.ofString "f:'é\"\n'#").drain =
      ([⟨⟨.identifier, "f"⟩, 0, 1⟩, ⟨⟨.fieldSeparator, ":"⟩, 1, 2⟩,
        ⟨⟨.quotedString, "'é\"\n'"⟩, 2, 8⟩], some ⟨8, '#'⟩) := by
    cbv
  have member : ⟨⟨.quotedString, "'é\"\n'"⟩, 2, 8⟩ ∈
      (Tokenizer.ofString "f:'é\"\n'#").drain.1 := by
    simp [drained]
  have value : unquote "'é\"\n'" = "é\"\n" := by cbv
  have again : Quotes (quoteValue (unquote "'é\"\n'")) (unquote "'é\"\n'") :=
    (quoteValue_unquote_inverse.2 _ _ member rfl).2
  have shown : quoteValue "é\"\n" = "'é\"\n'" := by cbv
  rw [value, shown] at again
  exact ⟨member, value, again⟩

end SearchQuery
