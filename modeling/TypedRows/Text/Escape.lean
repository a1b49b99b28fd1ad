namespace TypedRows.Text.Escape

def quotedChar : Char → List Char
  | '\\' => ['\\', '\\']
  | '\x22' => ['\\', '\x22']
  | '\n' => ['\\', 'n']
  | '\r' => ['\\', 'r']
  | '\t' => ['\\', 't']
  | c => [c]

def quotedChars (cs : List Char) : List Char :=
  cs.flatMap quotedChar

-- Parts a star from a slash after it.
def guardClose : List Char → List Char
  | '*' :: '/' :: cs => '*' :: '\\' :: '/' :: guardClose cs
  | c :: cs => c :: guardClose cs
  | [] => []

-- A comment gets no line feed and nothing that closes a block.
def commentChars (cs : List Char) : List Char :=
  guardClose (quotedChars cs)

def unescapedChar : Char → Char
  | 'n' => '\n'
  | 'r' => '\r'
  | 't' => '\t'
  | c => c

def unescapeChars : List Char → List Char
  | [] => []
  | ['\\'] => ['\\']
  | '\\' :: c :: cs => unescapedChar c :: unescapeChars cs
  | c :: cs => c :: unescapeChars cs

def quoted (s : String) : String :=
  String.ofList (quotedChars s.toList)

def comment (s : String) : String :=
  String.ofList (commentChars s.toList)

def unescape (s : String) : String :=
  String.ofList (unescapeChars s.toList)

-- Puts a backslash before backslashes and single quotes.
def singleQuotedChars (cs : List Char) : List Char :=
  cs.flatMap fun c => if c = '\\' || c = '\x27' then ['\\', c] else [c]

end TypedRows.Text.Escape
