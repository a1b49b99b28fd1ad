import TypedRows.Text.LetterCase

namespace TypedRows

open Text

inductive Casing
  | snake
  | camel
  | pascal
  | kebab
  | screamingSnake
  deriving DecidableEq, Repr

namespace Casing

-- Drops what follows the last letter or digit.
def dropTrailingMarks (cs : List Char) : List Char :=
  (cs.reverse.dropWhile (!isAlphanumeric ·)).reverse

def lowerAt (whole : List Char) (i : Nat) : Bool :=
  isLowercase (whole[i]?.getD 'A')

-- The rest of a separated name. `fresh` holds until the first letter of a word. A character that
-- has no lower-case ASCII letter starts a word of its own beside a lower-case neighbour; neighbours
-- are looked up in `whole` under the byte offset of the character.
def separated (sep : Char) (letter : Char → Char) (whole : List Char) (fresh : Bool)
    (offset : Nat) : List Char → List Char
  | [] => []
  | c :: cs =>
    if !isAlphanumeric c then
      (if fresh then [] else [sep]) ++ separated sep letter whole true (offset + c.utf8Size) cs
    else if !fresh && c = c.toUpper &&
        (lowerAt whole (offset + 1) || lowerAt whole (offset - 1)) then
      sep :: letter c :: separated sep letter whole false (offset + c.utf8Size) cs
    else
      letter c :: separated sep letter whole false (offset + c.utf8Size) cs

-- The rest of a joined name. `wordStart` asks for a capital, `last` is the latest character inside
-- a word, and `found` holds once a letter or digit was met.
def joined (wordStart : Bool) (last : Char) (found : Bool) : List Char → List Char
  | [] => []
  | c :: cs =>
    if !isAlphanumeric c then joined (wordStart || found) last found cs
    else if isNumeric c then c :: joined true last true cs
    else if wordStart || (isLowercase last && isUppercase c) then
      c.toUpper :: joined false last true cs
    else c.toLower :: joined false c true cs

def applyChars (casing : Casing) (cs : List Char) : List Char :=
  let name := dropTrailingMarks cs
  match casing with
  | snake => separated '_' Char.toLower cs true 0 name
  | kebab => separated '-' Char.toLower cs true 0 name
  | screamingSnake => separated '_' Char.toUpper cs true 0 name
  | camel => joined false ' ' false name
  | pascal => joined true ' ' false name

def apply (casing : Casing) (name : String) : String :=
  String.ofList (casing.applyChars name.toList)

end Casing
end TypedRows
