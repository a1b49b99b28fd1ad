namespace TypedRows.Sql

-- Doubles the quotes of a text. Two quotes in a row count as doubled already, and a quote after a
-- backslash as escaped.
def doubleQuotes (quote : Char) (escaped : Bool) : List Char → List Char
  | [] => []
  | [c] => if c = quote && !escaped then [c, c] else [c]
  | c :: d :: cs =>
    if c ≠ quote then c :: doubleQuotes quote (c = '\\') (d :: cs)
    else if escaped then c :: doubleQuotes quote true (d :: cs)
    else if d = quote then c :: d :: doubleQuotes quote false cs
    else c :: c :: doubleQuotes quote false (d :: cs)

-- Puts a text between quotes.
def quoted (quote : Char) (s : String) : String :=
  String.ofList (quote :: doubleQuotes quote false s.toList ++ [quote])

def literal (s : String) : String :=
  quoted '\x27' s

structure Ident where
  value : String
  quote : Option Char := none
  deriving DecidableEq, Repr

def Ident.render (i : Ident) : String :=
  match i.quote with
  | none => i.value
  | some '[' => "[" ++ i.value ++ "]"
  | some q => quoted q i.value

-- A name with its qualifiers in front.
abbrev ObjectName := List Ident

def ObjectName.render (n : ObjectName) : String :=
  ".".intercalate (n.map Ident.render)

end TypedRows.Sql
