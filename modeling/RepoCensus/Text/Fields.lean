/-!
# Fields

Cutting a text at every copy of a separator, and putting the pieces together again.
-/

namespace RepoCensus.Text

/-- The pieces of a text between the copies of `sep`: one piece more than there are copies. -/
def fields (sep : Char) : List Char → List (List Char)
  | [] => [[]]
  | c :: cs =>
    if c = sep then [] :: fields sep cs
    else
      match fields sep cs with
      | [] => [[c]]
      | f :: rest => (c :: f) :: rest

def joined (sep : Char) : List (List Char) → List Char
  | [] => []
  | [f] => f
  | f :: rest => f ++ sep :: joined sep rest

theorem fields_ne_nil (sep : Char) (cs : List Char) : fields sep cs ≠ [] := by
  cases cs with
  | nil => simp [fields]
  | cons c cs =>
    unfold fields
    split
    · simp
    · split <;> simp

theorem joined_fields (sep : Char) (cs : List Char) : joined sep (fields sep cs) = cs := by
  induction cs with
  | nil => rfl
  | cons c cs ih =>
    unfold fields
    split
    · rename_i h
      subst h
      cases hf : fields c cs with
      | nil => exact absurd hf (fields_ne_nil _ _)
      | cons f rest => rw [hf] at ih; simp [joined, ih]
    · cases hf : fields sep cs with
      | nil => exact absurd hf (fields_ne_nil _ _)
      | cons f rest =>
        rw [hf] at ih
        cases rest with
        | nil => simpa [joined] using ih
        | cons g rest => simpa [joined] using ih

theorem not_mem_of_mem_fields {sep : Char} {cs f : List Char} (h : f ∈ fields sep cs) : sep ∉ f := by
  induction cs generalizing f with
  | nil => simp_all [fields]
  | cons c cs ih =>
    unfold fields at h
    split at h
    · rcases List.mem_cons.1 h with rfl | h
      · simp
      · exact ih h
    · rename_i hc
      cases hf : fields sep cs with
      | nil => exact absurd hf (fields_ne_nil _ _)
      | cons g rest =>
        rw [hf] at h ih
        rcases List.mem_cons.1 h with rfl | h
        · simp [Ne.symm hc, ih List.mem_cons_self]
        · exact ih (List.mem_cons_of_mem _ h)

end RepoCensus.Text
