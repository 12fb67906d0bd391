import SearchQuery.Token.Feed

/-!
A feed that keeps every answer it has given, the first answer first.
-/

namespace SearchQuery

abbrev FeedAnswer := Except LexError (Option SpannedToken)

structure Recorded (σ : Type) where
  feed : σ
  answers : List FeedAnswer

namespace Recorded

variable {σ : Type}

def ofFeed (feed : σ) : Recorded σ := ⟨feed, []⟩

variable [TokenFeed σ]

def next (recorded : Recorded σ) : FeedAnswer × Recorded σ :=
  match TokenFeed.next recorded.feed with
  | (answer, feed) => (answer, ⟨feed, recorded.answers ++ [answer]⟩)

instance : TokenFeed (Recorded σ) where
  next recorded := recorded.next
  location recorded := TokenFeed.location recorded.feed
  remaining recorded := TokenFeed.remaining recorded.feed
  remaining_lt recorded token pulled := TokenFeed.remaining_lt recorded.feed token pulled

end Recorded

end SearchQuery
