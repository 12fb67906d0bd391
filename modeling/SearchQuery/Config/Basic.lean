import SearchQuery.Query.Basic

/-!
What a caller may set: the field of clauses that name none, and how deeply
groups, negations and AND chains may nest.
-/

namespace SearchQuery

def defaultMaxDepth : Nat := 128

structure Config where
  defaultField : String := implicitField
  maxDepth : Nat := defaultMaxDepth
  deriving DecidableEq, Repr

instance : Inhabited Config := ⟨{}⟩

end SearchQuery
