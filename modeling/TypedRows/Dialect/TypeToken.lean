import TypedRows.Text.Blank
import TypedRows.Text.LetterCase
import TypedRows.Text.Numeral

namespace TypedRows

open Text

structure TypeToken where
  base : String
  arguments : List (List Char)
  unsigned : Bool
  deriving DecidableEq, Repr

namespace TypeToken

-- The text with its first closed parenthesis replaced by a blank, and what stood inside.
def splitList (cs : List Char) : List Char × Option (List Char) :=
  match cs.dropWhile (· ≠ '(') with
  | [] => (cs, none)
  | _ :: inner =>
    match inner.dropWhile (· ≠ ')') with
    | [] => (cs, none)
    | _ :: after => (cs.takeWhile (· ≠ '(') ++ ' ' :: after, some (inner.takeWhile (· ≠ ')')))

def listItems (inner : List Char) : List (List Char) :=
  ((splitAtChar ',' inner).map trimChars).filter (!·.isEmpty)

def unsignedWord : List Char :=
  "UNSIGNED".toList

def isModifier (word : List Char) : Bool :=
  word = unsignedWord || word = "SIGNED".toList || word = "ZEROFILL".toList

def joinWords (ws : List (List Char)) : List Char :=
  [' '].intercalate ws

def ofChars (source : List Char) : TypeToken :=
  let (name, list) := splitList (upperChars (trimChars source))
  let ws := words name
  { base := String.ofList (joinWords (ws.filter (!isModifier ·)))
    arguments := (list.map listItems).getD []
    unsigned := ws.contains unsignedWord }

def ofSource (source : String) : TypeToken :=
  ofChars source.toList

def numberOf? (argument : List Char) : Option Nat :=
  boundedNumeral? UInt64.size argument

-- The argument at `index`, if it is there and is a number.
def number? (t : TypeToken) (index : Nat) : Option Nat :=
  t.arguments[index]?.bind numberOf?

def hasWordArguments (t : TypeToken) : Bool :=
  t.arguments.any fun a => (numberOf? a).isNone

end TypeToken
end TypedRows
