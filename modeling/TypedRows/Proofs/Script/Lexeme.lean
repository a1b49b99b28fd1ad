import TypedRows.Ddl.Script

namespace TypedRows.Ddl.Script

open Text

inductive Lexeme
  | separator
  | blank (c : Char)
  | plain (c : Char)
  | quoted (text : List Char)
  | lineComment (text : List Char)
  | blockComment (text : List Char)
  deriving DecidableEq, Repr

namespace Lexeme

def source : Lexeme → List Char
  | separator => [';']
  | blank c | plain c => [c]
  | quoted text | lineComment text | blockComment text => text

-- What of a lexeme is left in the text of a statement.
def kept : Lexeme → List Char
  | lineComment _ => []
  | l => l.source

def isToken : Lexeme → Bool
  | plain _ | quoted _ => true
  | separator | blank _ | lineComment _ | blockComment _ => false

def newlines : List Lexeme → Nat
  | [] => 0
  | l :: ls => l.source.count '\n' + newlines ls

-- The lexemes between separators, of which the first ones were read already.
def segmentsAfter (read : List Lexeme) : List Lexeme → List (List Lexeme)
  | [] => [read]
  | l :: ls => if l = separator then read :: segmentsAfter [] ls else segmentsAfter (read ++ [l]) ls

def segments (ls : List Lexeme) : List (List Lexeme) :=
  segmentsAfter [] ls

-- The line of the first token of a segment that starts on the given line.
def tokenLine? (line : Nat) : List Lexeme → Option Nat
  | [] => none
  | l :: ls => if l.isToken then some line else tokenLine? (line + l.source.count '\n') ls

-- The statement of a segment that starts on the given line.
def statement? (line : Nat) (segment : List Lexeme) : Option ScriptStatement :=
  (tokenLine? line segment).map fun tokenLine =>
    ⟨String.ofList (trimChars (segment.flatMap kept)), tokenLine⟩

def statementsFrom (line : Nat) : List (List Lexeme) → List ScriptStatement
  | [] => []
  | s :: ss => (statement? line s).toList ++ statementsFrom (line + newlines s) ss

theorem newlines_append (ls : List Lexeme) (l : Lexeme) :
    newlines (ls ++ [l]) = newlines ls + l.source.count '\n' := by
  induction ls
  case nil => simp [newlines]
  case cons m ls hi => simp [newlines, hi, Nat.add_assoc]

theorem tokenLine?_append (line : Nat) (ls : List Lexeme) (l : Lexeme) :
    tokenLine? line (ls ++ [l]) =
      if l.isToken then some ((tokenLine? line ls).getD (line + newlines ls))
      else tokenLine? line ls := by
  induction ls generalizing line
  case nil => simp [tokenLine?, newlines]
  case cons m ls hi =>
    cases hm : m.isToken
    case false => simp [tokenLine?, hm, hi, newlines, Nat.add_assoc]
    case true => simp [tokenLine?, hm]

end Lexeme

-- How quotes and comments are told.
structure Lexicon where
  -- Whether a backslash between such quotes takes the next character with it.
  escapes : Char → Bool
  hashComments : Bool
  dollarQuotes : Bool

namespace Lexicon

-- What a dialect reads.
def ofDialect : Dialect → Lexicon
  | .mysql => ⟨fun q => q = '\x27' || q = '\x22', true, false⟩
  | .postgresql => ⟨fun _ => false, false, true⟩
  | .sqlite => ⟨fun _ => false, false, false⟩

-- What a dialect reads of scripts without dollar quotes, if backslashes in double quotes are plain.
def simple (d : Dialect) : Lexicon :=
  ⟨fun q => d = .mysql && q = '\x27', d = .mysql, false⟩

-- What scripts are split with, whatever their dialect. Only comments after a hash sign depend on it.
def shared (d : Dialect) : Lexicon :=
  ⟨fun q => q = '\x27', d = .mysql, false⟩

variable (x : Lexicon)

-- The size of a quoted text without its first quote. A doubled quote does not end it.
def quotedSize (q : Char) : List Char → Nat
  | [] => 0
  | [_] => 1
  | c :: next :: cs =>
    if c = q then if next = q then quotedSize q cs + 2 else 1
    else if c = '\\' && x.escapes q then quotedSize q cs + 2
    else quotedSize q (next :: cs) + 1

-- The size of what precedes the end of `mark`, or of everything.
def sizeThrough (mark : List Char) : List Char → Nat
  | [] => 0
  | c :: cs => if mark.isPrefixOf (c :: cs) then mark.length else sizeThrough mark cs + 1

def isWordStart (c : Char) : Bool :=
  c.isAlpha || c = '_' || 0x80 ≤ c.toNat

-- The tag between the dollar signs that open a text, the first of which was read already.
def dollarTag? (cs : List Char) : Option (List Char) :=
  let tag := cs.takeWhile (· ≠ '$')
  if cs.contains '$' && tag.all (fun c => isWordStart c || c.isDigit) && !tag.head?.any Char.isDigit
  then some tag else none

-- The size of a text in dollar quotes without its first dollar sign.
def dollarSize? (cs : List Char) : Option Nat :=
  (dollarTag? cs).map fun tag =>
    tag.length + 1 + sizeThrough ('$' :: tag ++ ['$']) (cs.drop (tag.length + 1))

def startsLineComment (c : Char) (cs : List Char) : Bool :=
  (c = '-' && cs.head? = some '-') || (c = '#' && x.hashComments)

-- The first lexeme of `c :: cs`. A dollar sign inside a word opens no quoted text.
def first (inWord : Bool) (c : Char) (cs : List Char) : Lexeme :=
  if c = ';' then .separator
  else if x.startsLineComment c cs then .lineComment (c :: cs.takeWhile (· ≠ '\n'))
  else if c = '/' && cs.head? = some '*' then
    .blockComment (c :: cs.take (sizeThrough ['*', '/'] (cs.drop 1) + 1))
  else if Reader.isQuote c then .quoted (c :: cs.take (x.quotedSize c cs))
  else if x.dollarQuotes && !inWord && c = '$' then
    match dollarSize? cs with
    | some size => .quoted (c :: cs.take size)
    | none => .plain c
  else if isBlank c then .blank c
  else .plain c

def endsInWord (inWord : Bool) : Lexeme → Bool
  | .plain c => isWordStart c || (inWord && (c.isDigit || c = '$'))
  | _ => false

def lexemesFrom (inWord : Bool) : List Char → List Lexeme
  | [] => []
  | c :: cs =>
    let l := x.first inWord c cs
    l :: lexemesFrom (endsInWord inWord l) (cs.drop (l.source.length - 1))
termination_by cs => cs.length
decreasing_by
  simp only [List.length_cons, List.length_drop]
  omega

def lexemes (script : List Char) : List Lexeme :=
  x.lexemesFrom false script

-- The statements of a script that is split at the separators of a lexicon.
def statements (script : List Char) : List ScriptStatement :=
  Lexeme.statementsFrom 1 (Lexeme.segments (x.lexemes script))

end Lexicon
end TypedRows.Ddl.Script
