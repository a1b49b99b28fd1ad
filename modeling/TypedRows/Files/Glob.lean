import TypedRows.Text.Blank

namespace TypedRows

-- Some characters, both ends of the range included.
structure CharRange where
  first : Char
  last : Char
  deriving DecidableEq, Repr

inductive GlobPiece
  | char (c : Char)
  | anyChar
  | oneOf (ranges : List CharRange)
  | noneOf (ranges : List CharRange)
  | anyText
  -- Two stars, and the slash after them: any directories down to a name.
  | anyDirectories
  deriving DecidableEq, Repr

abbrev Glob := List GlobPiece

-- Why a text is no pattern.
inductive GlobFlaw
  | starRun
  -- Two stars that are but a part of a name.
  | directories
  -- A bracket that nothing closes.
  | charClass
  deriving DecidableEq, Repr

def GlobFlaw.text : GlobFlaw → String
  | starRun => "wildcards are either regular `*` or recursive `**`"
  | directories => "recursive wildcards must form a single path component"
  | charClass => "invalid range pattern"

structure GlobFault where
  -- How many characters stand before the one that is told of.
  position : Nat
  flaw : GlobFlaw
  deriving DecidableEq, Repr

def GlobFault.message (f : GlobFault) : String :=
  "Pattern syntax error near position " ++ toString f.position ++ ": " ++ f.flaw.text

namespace Glob

def rangesOf : List Char → List CharRange
  | a :: '-' :: b :: cs => ⟨a, b⟩ :: rangesOf cs
  | a :: cs => ⟨a, a⟩ :: rangesOf cs
  | [] => []

-- What stands before the bracket that closes a class of one character or more.
def classBody? : List Char → Option (List Char × List Char)
  | [] => none
  | c :: cs =>
    match cs.dropWhile (· ≠ ']') with
    | [] => none
    | _ :: rest => some (c :: cs.takeWhile (· ≠ ']'), rest)

def charClass? (cs : List Char) : Option (GlobPiece × List Char) :=
  match cs with
  | '!' :: cs => (classBody? cs).map fun (body, rest) => (.noneOf (rangesOf body), rest)
  | cs => (classBody? cs).map fun (body, rest) => (.oneOf (rangesOf body), rest)

section Pieces

-- `atStart` holds where a part of the path begins, and `position` is the place in the whole text.
variable (atStart : Bool) (position : Nat)

-- Two stars are refused where they are but a part of a name.
def directories (rest : List Char) : Except GlobFault (List Char) :=
  if atStart then
    match rest with
    | [] => .ok []
    | c :: rest => if c = '/' then .ok rest else .error ⟨position + 2, .directories⟩
  else .error ⟨position - 1, .directories⟩

def stars (cs : List Char) : Except GlobFault (GlobPiece × List Char) :=
  let rest := cs.dropWhile (· = '*')
  match (cs.takeWhile (· = '*')).length with
  | 0 => .ok (.anyText, rest)
  | 1 => (directories atStart position rest).map (.anyDirectories, ·)
  | _ => .error ⟨position + 2, .starRun⟩

def piece (c : Char) (cs : List Char) : Except GlobFault (GlobPiece × List Char) :=
  match c with
  | '?' => .ok (.anyChar, cs)
  | '*' => stars atStart position cs
  | '[' => (charClass? cs).elim (.error ⟨position, .charClass⟩) .ok
  | c => .ok (.char c, cs)

end Pieces

def endsPart : GlobPiece → Bool
  | .char c => c = '/'
  | .anyDirectories => true
  | _ => false

-- Every piece takes a character or more of a text of that length.
def readWithin (length : Nat) (atStart : Bool) : (fuel : Nat) → List Char → Except GlobFault Glob
  | 0, _ => .ok []
  | _, [] => .ok []
  | fuel + 1, c :: cs => do
    let (p, rest) ← piece atStart (length - (cs.length + 1)) c cs
    return p :: (← readWithin length (endsPart p) fuel rest)

-- The pattern that a text spells, if it spells one.
def ofChars (cs : List Char) : Except GlobFault Glob :=
  readWithin cs.length true cs.length cs

def ofText (text : String) : Except GlobFault Glob :=
  ofChars text.toList

def isIn (c : Char) (ranges : List CharRange) : Bool :=
  ranges.any fun r => r.first ≤ c && c ≤ r.last

def admitsChar (p : GlobPiece) (c : Char) : Bool :=
  match p with
  | .char d => c = d
  | .anyChar => true
  | .oneOf ranges => isIn c ranges
  | .noneOf ranges => !isIn c ranges
  | .anyText | .anyDirectories => false

-- Whether `rest` admits what is left after some text, or after some directories.
def skips (rest : List Char → Bool) (whole : Bool) : List Char → Bool
  | [] => rest []
  | c :: cs => (if whole then c = '/' && rest cs else rest (c :: cs)) || skips rest whole cs

def admits : Glob → List Char → Bool
  | [], cs => cs.isEmpty
  | .anyText :: ps, cs => skips (admits ps) false cs
  | .anyDirectories :: ps, cs => admits ps cs || skips (admits ps) true cs
  | _ :: _, [] => false
  | p :: ps, c :: cs => admitsChar p c && admits ps cs

def matchesName (g : Glob) (name : String) : Bool :=
  g.admits name.toList

end Glob
end TypedRows
