import TypedRows.Sql.Identifier
import TypedRows.Text.LetterCase

namespace TypedRows.Sql

-- Kinds of string literals.
inductive StringKind
  | single
  | double
  -- `E'…'`, read with backslash escapes.
  | escaped
  -- `U&'…'`, read with code points.
  | unicode
  | national
  | hexadecimal
  | bytes
  | doubleBytes
  -- Between two equal tags, such as `$tag$…$tag$`.
  | dollar (tag : String)
  deriving DecidableEq, Repr

inductive Token
  -- `key` is the spelling of a bare word in capitals; a quoted one has none.
  | word (ident : Ident) (key : String)
  | number (digits : String) (long : Bool)
  | string (kind : StringKind) (value : String)
  | placeholder (text : String)
  | symbol (text : String)
  -- An operator that only its database knows.
  | customOperator (text : String)
  | other (c : Char)
  deriving DecidableEq, Repr

def bareWord (spelling : String) : Token :=
  .word ⟨spelling, none⟩ (Text.upper spelling)

namespace StringKind

def hexDigits (width n : Nat) : List Char :=
  let digits := (Nat.toDigits 16 n).map Char.toUpper
  List.replicate (width - digits.length) '0' ++ digits

def escapedChar : Char → List Char
  | '\x27' => ['\\', '\x27']
  | '\\' => ['\\', '\\']
  | '\n' => ['\\', 'n']
  | '\t' => ['\\', 't']
  | '\r' => ['\\', 'r']
  | c => [c]

def unicodeChar (c : Char) : List Char :=
  if c = '\x27' then [c, c]
  else if c = '\\' then [c, c]
  else if c.toNat < 0x80 then [c]
  else if c.toNat < 0x10000 then '\\' :: hexDigits 4 c.toNat
  else '\\' :: '+' :: hexDigits 6 c.toNat

def render (kind : StringKind) (value : String) : String :=
  match kind with
  | single => literal value
  | double => quoted '\x22' value
  | escaped => "E'" ++ String.ofList (value.toList.flatMap escapedChar) ++ "'"
  | unicode => "U&'" ++ String.ofList (value.toList.flatMap unicodeChar) ++ "'"
  | national => "N'" ++ value ++ "'"
  | hexadecimal => "X'" ++ value ++ "'"
  | bytes => "B'" ++ value ++ "'"
  | doubleBytes => "B\"" ++ value ++ "\""
  | dollar tag => "$" ++ tag ++ "$" ++ value ++ "$" ++ tag ++ "$"

end StringKind

namespace Token

def renderNumber (digits : String) (long : Bool) : String :=
  if long then digits ++ "L" else digits

def render : Token → String
  | word i _ => i.render
  | number digits long => renderNumber digits long
  | string kind value => kind.render value
  | placeholder s => s
  | symbol s => s
  | customOperator s => s
  | other c => String.singleton c

end Token
end TypedRows.Sql
