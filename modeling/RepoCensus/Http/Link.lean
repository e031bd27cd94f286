import RepoCensus.Text.Blank

/-!
# Links between pages

A header such as `<https://h/x?page=2>; rel="next", <https://h/x?page=9>; rel="last"` tells where the
next page is.
-/

namespace RepoCensus.Link

open RepoCensus.Text

/-- A link: its target and the text of its parameters. -/
structure Target where
  url : List Char
  params : List Char
deriving Repr, DecidableEq

def isParamChar (c : Char) : Bool := c != ';' && c != ','

/-- The parameters at the start of a text, each of them a semicolon and at least one other
character. -/
def paramsAt : List Char → List Char
  | ';' :: c :: rest =>
    if isParamChar c then
      ';' :: c :: rest.takeWhile isParamChar ++ paramsAt (rest.dropWhile isParamChar)
    else []
  | _ => []
termination_by cs => cs.length
decreasing_by
  have := (List.dropWhile_suffix (l := rest) isParamChar).length_le
  simp only [List.length_cons]
  omega

/-- What follows an opening angle bracket: the link, if the bracket is closed, and how many characters
it takes. -/
def targetAt? (cs : List Char) : Option (Target × Nat) :=
  let url := cs.takeWhile (· ≠ '>')
  if url.length < cs.length then
    let rest := cs.drop (url.length + 1)
    let blanks := (rest.takeWhile isBlank).length
    let params := paramsAt (rest.drop blanks)
    some (⟨url, params⟩, url.length + 1 + blanks + params.length)
  else none

def targets : List Char → List Target
  | [] => []
  | c :: rest =>
    if c = '<' then
      match targetAt? rest with
      | some (t, taken) => t :: targets (rest.drop taken)
      | none => targets rest
    else targets rest
termination_by cs => cs.length
decreasing_by all_goals simp only [List.length_drop, List.length_cons]; omega

/-! ## Relations -/

/-- Whether a character belongs to a parameter's value. -/
def isValueChar (c : Char) : Bool := c != '"' && c != ';'

/-- The words of a value after the equals sign, its opening quotation mark optional. A value of blanks
alone has no words; no value at all is none. -/
def valueWords? (cs : List Char) : Option (List (List Char)) :=
  let rest := cs.dropWhile isBlank
  let rest' := if rest.head? = some '"' then rest.drop 1 else rest
  let value := rest'.takeWhile isValueChar
  if value.isEmpty then (if rest.length < cs.length then some [] else none)
  else some (words value)

def relationAt? : List Char → Option (List (List Char))
  | 'r' :: 'e' :: 'l' :: rest =>
    match rest.dropWhile isBlank with
    | '=' :: value => valueWords? value
    | _ => none
  | _ => none

/-- The words of the first relation among parameters. -/
def relation? : List Char → Option (List (List Char))
  | [] => none
  | c :: cs => (relationAt? (c :: cs)).or (relation? cs)

def Target.isNext (t : Target) : Bool :=
  (relation? t.params).any fun ws => ws.contains ['n', 'e', 'x', 't']

def next? (header : Option String) : Option String :=
  header.bind fun h => ((targets h.toList).find? Target.isNext).map fun t => String.ofList t.url

end RepoCensus.Link
