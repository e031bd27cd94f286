import RepoCensus.Text.Blank
import RepoCensus.Text.Lower

/-!
# Categories

The statistics that can be asked for.
-/

namespace RepoCensus

open RepoCensus.Text

inductive Category where
  | stars
  | forks
  | watchers
  | openIssues
  | closedIssues
  | openPulls
  | mergedPulls
  | contributors
  | commits
  | commitActivity
  | languages
deriving Repr, DecidableEq

namespace Category

/-- All categories, in the order in which they are shown. -/
def all : List Category :=
  [stars, forks, watchers, openIssues, closedIssues, openPulls, mergedPulls, contributors, commits,
   commitActivity, languages]

def name : Category → String
  | stars => "stars"
  | forks => "forks"
  | watchers => "watchers"
  | openIssues => "open_issues"
  | closedIssues => "closed_issues"
  | openPulls => "open_pulls"
  | mergedPulls => "merged_pulls"
  | contributors => "contributors"
  | commits => "commits"
  | commitActivity => "commit_activity"
  | languages => "languages"

def alphabetical : List Category :=
  [closedIssues, commitActivity, commits, contributors, forks, languages, mergedPulls, openIssues,
   openPulls, stars, watchers]

def ofName? (s : String) : Option Category := all.find? fun c => c.name = s

/-- The name that a text spells, whatever its case, with hyphens for underscores and blanks around
it. -/
def spelled (s : String) : String :=
  String.ofList ((lower (strip s)).toList.map fun c => if c = '-' then '_' else c)

def parse? (s : String) : Option Category := ofName? (spelled s)

/-- The categories of a list in their order, each of them at its first place only. -/
def distinct (cs : List Category) : List Category :=
  cs.foldl (fun seen c => if c ∈ seen then seen else seen ++ [c]) []

theorem mem_alphabetical (c : Category) : c ∈ alphabetical := by cases c <;> decide

theorem name_injective : ∀ {c d : Category}, c.name = d.name → c = d := by
  intro c d h
  cases c <;> cases d <;> first | rfl | (exact absurd h (by decide))

end Category

end RepoCensus
