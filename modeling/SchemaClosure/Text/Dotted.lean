namespace SchemaClosure.Text

/-- The text before the last dot and the text after it. -/
def splitAtLastDot (name : String) : Option (String × String) :=
  let reversed := name.toList.reverse
  match reversed.dropWhile (· != '.') with
  | [] => none
  | _ :: before => some (String.ofList before.reverse, String.ofList (reversed.takeWhile (· != '.')).reverse)

def lastSegment (name : String) : String :=
  ((splitAtLastDot name).map (·.2)).getD name

/-- What follows `start` at the beginning of a text. -/
def dropStart? : List Char → List Char → Option (List Char)
  | [], text => some text
  | _ :: _, [] => none
  | c :: start, d :: text => if c = d then dropStart? start text else none

theorem dropStart?_eq_some_iff {start text rest : List Char} : dropStart? start text = some rest ↔ text = start ++ rest := by
  induction start generalizing text with
  | nil => simp [dropStart?]
  | cons c start ih =>
    cases text with
    | nil => simp [dropStart?]
    | cons d text =>
      by_cases h : c = d
      · simp [dropStart?, h, ih]
      · simp [dropStart?, h, Ne.symm h]

/-- The part of `name` below the outer name: `Inner.Leaf` for `Outer.Inner.Leaf` below `Outer`. -/
def below? (outer name : String) : Option String :=
  (dropStart? (outer.toList ++ ['.']) name.toList).map String.ofList

end SchemaClosure.Text
