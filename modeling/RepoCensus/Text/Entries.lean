/-!
# Named entries

A list of names with values, in the order in which the names were first given.
-/

namespace RepoCensus.Entries

variable {α : Type}

/-- Sets an entry: a name that is there already keeps its place. -/
def put (name : String) (v : α) : List (String × α) → List (String × α)
  | [] => [(name, v)]
  | (n, w) :: rest => if n = name then (n, v) :: rest else (n, w) :: put name v rest

def putAll (entries : List (String × α)) (more : List (String × α)) : List (String × α) :=
  more.foldl (fun acc (n, v) => put n v acc) entries

/-- The entries that a list of settings leaves: for each name the last value at the first place. -/
def settle (settings : List (String × α)) : List (String × α) := putAll [] settings

def get? (name : String) (entries : List (String × α)) : Option α :=
  (entries.find? fun e => e.1 = name).map Prod.snd

theorem get?_cons (name n : String) (v : α) (rest : List (String × α)) :
    get? name ((n, v) :: rest) = if n = name then some v else get? name rest := by
  unfold get?
  by_cases h : n = name <;> simp [h]

theorem get?_put_ne {name other : String} (h : other ≠ name) (v : α) :
    ∀ entries, get? other (put name v entries) = get? other entries
  | [] => by simp [put, get?_cons, Ne.symm h]
  | (n, w) :: rest => by
      unfold put
      split
      · rename_i hn
        subst hn
        simp [get?_cons, Ne.symm h]
      · simp [get?_cons, get?_put_ne h v rest]

end RepoCensus.Entries
