/-!
# Numbers with grouped digits

`Text.grouped` writes an integer in decimal with a comma before every third digit from the
right.
-/

namespace CodeSurvey

namespace Text

/-- Puts a comma between groups of three, where `digits` lists the digits from the right. -/
def groupedFromRight : List Char → List Char
  | a :: b :: c :: d :: rest => a :: b :: c :: ',' :: groupedFromRight (d :: rest)
  | digits => digits

/-- The decimal text of a natural number with its digits in groups of three. -/
def groupedNat (n : Nat) : String :=
  String.ofList (groupedFromRight (Nat.toDigits 10 n).reverse).reverse

/-- The decimal text of an integer with its digits in groups of three. -/
def grouped : Int → String
  | .ofNat n => groupedNat n
  | .negSucc n => "-" ++ groupedNat (n + 1)

end Text

end CodeSurvey
