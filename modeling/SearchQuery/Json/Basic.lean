/-!
JSON values as far as query trees need them: truth values, strings, and objects
whose members keep their order.
-/

namespace SearchQuery

inductive Json where
  | bool (value : Bool)
  | string (value : String)
  | object (members : List (String × Json))
  deriving Repr

end SearchQuery
