/-! URLs, as far as decisions depend on them. -/

namespace PagePolicy

/-- The parts of a URL: a URL without a host has the empty one. -/
structure Url where
  scheme : String
  host : String
  path : String
  query : Option String
  deriving DecidableEq, Repr

namespace Url

/-- The query after its question mark, or nothing if there is none or an empty one. -/
def search (u : Url) : String :=
  match u.query with
  | some query => if query = "" then "" else "?" ++ query
  | none => ""

def pathAndQuery (u : Url) : String :=
  u.path ++ u.search

/-- The host, the path and the query, with nothing between them. -/
def subject (u : Url) : String :=
  u.host ++ u.path ++ u.search

end Url

end PagePolicy
