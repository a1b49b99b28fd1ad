namespace TypedRows.Text

-- Characters with the Unicode property White_Space.
def isBlank (c : Char) : Bool :=
  let n := c.toNat
  (9 ≤ n && n ≤ 13) || n == 0x20 || n == 0x85 || n == 0xA0 || n == 0x1680 ||
  (0x2000 ≤ n && n ≤ 0x200A) || n == 0x2028 || n == 0x2029 || n == 0x202F || n == 0x205F ||
  n == 0x3000

def trimStart (cs : List Char) : List Char :=
  cs.dropWhile isBlank

def trimEnd (cs : List Char) : List Char :=
  (cs.reverse.dropWhile isBlank).reverse

def trimChars (cs : List Char) : List Char :=
  trimEnd (trimStart cs)

def trim (s : String) : String :=
  String.ofList (trimChars s.toList)

-- The pieces of `cs` between characters of the class `p`, empty ones left out.
def piecesBy (p : Char → Bool) : List Char → List (List Char)
  | [] => []
  | c :: cs =>
    if p c then piecesBy p cs
    else match cs with
      | [] => [[c]]
      | d :: _ =>
        if p d then [c] :: piecesBy p cs
        else match piecesBy p cs with
          | [] => [[c]]
          | w :: ws => (c :: w) :: ws

def words (cs : List Char) : List (List Char) :=
  piecesBy isBlank cs

-- The pieces of `cs` between occurrences of `sep`, empty ones included.
def splitAtChar (sep : Char) : List Char → List (List Char)
  | [] => [[]]
  | c :: cs =>
    if c = sep then [] :: splitAtChar sep cs
    else match splitAtChar sep cs with
      | [] => [[c]]
      | w :: ws => (c :: w) :: ws

theorem splitAtChar_ne_nil (sep : Char) (cs : List Char) : splitAtChar sep cs ≠ [] := by
  cases cs with
  | nil => simp [splitAtChar]
  | cons c cs =>
    unfold splitAtChar
    split
    · simp
    · split <;> simp

end TypedRows.Text
