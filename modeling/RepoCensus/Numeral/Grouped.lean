/-!
# Grouped digits

Whole numbers with a comma between groups of three digits.
-/

namespace RepoCensus.Numeral

/-- Puts a comma after every third digit, counted from the last one; the digits come last one first. -/
def groupReversed : List Char → List Char
  | a :: b :: c :: d :: rest => a :: b :: c :: ',' :: groupReversed (d :: rest)
  | cs => cs

def grouped (n : Int) : String :=
  let digits := String.ofList (groupReversed (toString n.natAbs).toList.reverse).reverse
  if n < 0 then "-" ++ digits else digits

end RepoCensus.Numeral
