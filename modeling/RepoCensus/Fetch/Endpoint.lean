import RepoCensus.Budget.Basic
import RepoCensus.Query
import RepoCensus.Record.Reader
import RepoCensus.Repository
import RepoCensus.Text.Blank

/-!
# Endpoints

Where each category is found: the address, its parameters, the bucket from which the request is paid,
and how the body is read.
-/

namespace RepoCensus

open RepoCensus.Text

/-- How a body is read, given the room for values inside of each other: as a count, or as one page of
records. -/
inductive BodyReader where
  | count (read : Nat → List UInt8 → Reading Tally)
  | page (read : Nat → List UInt8 → Reading (List Record))

structure Endpoint where
  path : Repository → String
  reader : BodyReader
  resource : String
  params : Repository → List (String × String)

namespace Endpoint

/-- Whether the category is a collection that comes in pages. -/
def isPaged (e : Endpoint) : Bool :=
  match e.reader with
  | .page _ => true
  | .count _ => false

def url (e : Endpoint) (baseUrl : String) (r : Repository) : String :=
  dropTrailing '/' baseUrl ++ e.path r

def repositoryPath (r : Repository) : String := "/repos/" ++ r.owner ++ "/" ++ r.name

def searchPath (_ : Repository) : String := "/search/issues"

def field (name : String) : Endpoint where
  path := repositoryPath
  reader := .count (readRepositoryField name)
  resource := coreResource
  params := fun _ => []

/-- The query for the issues of a repository that have some properties. -/
def searchQuery (r : Repository) (properties : List String) : Query :=
  properties.foldl Query.is (Query.empty.repo r.owner r.name)

/-- The number of issues that have some properties. -/
def search (properties : List String) : Endpoint where
  path := searchPath
  reader := .count readTotal
  resource := "search"
  params := fun r => [("q", (searchQuery r properties).text), ("per_page", "1")]

def collection (path : String) (read : Nat → List UInt8 → Reading (List Record))
    (params : List (String × String)) : Endpoint where
  path := fun r => repositoryPath r ++ path
  reader := .page read
  resource := coreResource
  params := fun _ => params

end Endpoint

def Category.endpoint : Category → Endpoint
  | stars => .field "stargazers_count"
  | forks => .field "forks_count"
  | watchers => .field "subscribers_count"
  | openIssues => .search ["issue", "open"]
  | closedIssues => .search ["issue", "closed"]
  | openPulls => .search ["pr", "open"]
  | mergedPulls => .search ["pr", "merged"]
  | contributors => .collection "/contributors" readContributors [("anon", "1")]
  | commits => .collection "/commits" readCommits []
  | commitActivity => .collection "/stats/commit_activity" readWeeks []
  | languages => .collection "/languages" readLanguages []

end RepoCensus
