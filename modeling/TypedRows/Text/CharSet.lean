namespace TypedRows.Text

-- What stands before, between and after the marks of a text.
def partsAt (mark : Char) (s : String) : List String :=
  (s.toList.splitOn mark).map String.ofList

-- The words of lines in which one blank stands between two of them.
def lineWords (lines : List String) : List String :=
  lines.flatMap (partsAt ' ')

structure CharSet where
  ranges : List (Nat × Nat)

namespace CharSet

def contains (s : CharSet) (c : Char) : Bool :=
  s.ranges.any fun r => r.1 ≤ c.toNat && c.toNat ≤ r.2

def hexDigit (c : Char) : Nat :=
  if c.isDigit then c.toNat - '0'.toNat else c.toNat - 'a'.toNat + 10

def hexValue (digits : String) : Nat :=
  digits.toList.foldl (fun n c => 16 * n + hexDigit c) 0

-- Reads `first-last`, or one bound that is both.
def rangeOfHex (word : String) : Nat × Nat :=
  match partsAt '-' word with
  | [first, last] => (hexValue first, hexValue last)
  | _ => (hexValue word, hexValue word)

-- Ranges are words of lower-case hexadecimal bounds.
def ofHex (lines : List String) : CharSet :=
  ⟨(lineWords lines).map rangeOfHex⟩

end CharSet
end TypedRows.Text
