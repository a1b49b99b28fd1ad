namespace TypedRows.Text

def digitsValue (cs : List Char) : Nat :=
  cs.foldl (fun n c => 10 * n + (c.toNat - '0'.toNat)) 0

-- The value of one or more digits.
def numeral? (cs : List Char) : Option Nat :=
  if cs.isEmpty || !cs.all Char.isDigit then none else some (digitsValue cs)

def dropPlus : List Char → List Char
  | '+' :: cs => cs
  | cs => cs

-- A numeral that may have a plus sign and is below `limit`.
def boundedNumeral? (limit : Nat) (cs : List Char) : Option Nat :=
  (numeral? (dropPlus cs)).filter (· < limit)

-- A numeral with an optional sign whose value fits into 64 bits.
def integer64? : List Char → Option Int
  | '-' :: cs => ((numeral? cs).filter (· ≤ Int64.size / 2)).map fun n => -(n : Int)
  | cs => (boundedNumeral? (Int64.size / 2) cs).map fun n => (n : Int)

-- `n` in at least `width` digits.
def padded (width n : Nat) : String :=
  let digits := toString n
  String.ofList (List.replicate (width - digits.length) '0') ++ digits

end TypedRows.Text
