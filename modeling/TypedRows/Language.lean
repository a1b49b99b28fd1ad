import TypedRows.Failure
import TypedRows.Naming.Casing
import TypedRows.Text.Blank
import TypedRows.Text.Escape
import TypedRows.Text.LetterCase

namespace TypedRows

open Text

inductive Language
  | go
  | rust
  | typescript
  | python
  | php
  deriving DecidableEq, Repr

namespace Language

def all : List Language :=
  [go, rust, typescript, python, php]

def id : Language → String
  | go => "go"
  | rust => "rust"
  | typescript => "typescript"
  | python => "python"
  | php => "php"

-- Every name that a request can call the language by.
def aliases : Language → List String
  | go => ["go", "golang"]
  | rust => ["rust", "rs"]
  | typescript => ["typescript", "ts"]
  | python => ["python", "py"]
  | php => ["php"]

def extension : Language → String
  | go => "go"
  | rust => "rs"
  | typescript => "ts"
  | python => "py"
  | php => "php"

def typeCasing (_ : Language) : Casing :=
  .pascal

def fieldCasing : Language → Casing
  | go => .pascal
  | rust | python => .snake
  | typescript | php => .camel

def fileCasing : Language → Casing
  | go | rust | python => .snake
  | typescript => .kebab
  | php => .pascal

def keywords : Language → List String
  | go => [
    "break", "case", "chan", "const", "continue", "default", "defer", "else", "fallthrough", "for",
    "func", "go", "goto", "if", "import", "interface", "map", "package", "range", "return",
    "select", "struct", "switch", "type", "var"]
  | rust => [
    "as", "async", "await", "break", "const", "continue", "crate", "dyn", "else", "enum", "extern",
    "false", "fn", "for", "if", "impl", "in", "let", "loop", "match", "mod", "move", "mut", "pub",
    "ref", "return", "self", "Self", "static", "struct", "super", "trait", "true", "type",
    "unsafe", "use", "where", "while", "abstract", "become", "box", "do", "final", "macro",
    "override", "priv", "typeof", "unsized", "virtual", "yield", "try", "gen"]
  | typescript => [
    "break", "case", "catch", "class", "const", "continue", "debugger", "default", "delete", "do",
    "else", "enum", "export", "extends", "false", "finally", "for", "function", "if", "import",
    "in", "instanceof", "new", "null", "return", "super", "switch", "this", "throw", "true", "try",
    "typeof", "var", "void", "while", "with"]
  | python => [
    "False", "None", "True", "and", "as", "assert", "async", "await", "break", "class", "continue",
    "def", "del", "elif", "else", "except", "finally", "for", "from", "global", "if", "import",
    "in", "is", "lambda", "nonlocal", "not", "or", "pass", "raise", "return", "try", "while",
    "with", "yield"]
  | php => [
    "abstract", "and", "array", "as", "break", "callable", "case", "catch", "class", "clone",
    "const", "continue", "declare", "default", "do", "echo", "else", "elseif", "empty",
    "enddeclare", "endfor", "endforeach", "endif", "endswitch", "endwhile", "enum", "eval", "exit",
    "extends", "final", "finally", "fn", "for", "foreach", "function", "global", "goto", "if",
    "implements", "include", "instanceof", "insteadof", "interface", "isset", "list", "match",
    "namespace", "new", "or", "print", "private", "protected", "public", "readonly", "require",
    "return", "static", "switch", "throw", "trait", "try", "unset", "use", "var", "while", "xor",
    "yield", "int", "float", "bool", "string", "true", "false", "null", "void", "iterable",
    "object", "mixed", "never"]

def asciiLower (s : String) : List Char :=
  s.toList.map Char.toLower

-- Keywords of PHP are keywords in any case.
def isKeyword (l : Language) (name : String) : Bool :=
  match l with
  | php => l.keywords.any fun k => asciiLower k = asciiLower name
  | _ => l.keywords.contains name

-- Reserved words that stay reserved in raw form.
def hasNoRawForm (name : String) : Bool :=
  ["self", "Self", "super", "crate"].contains name

-- Makes an identifier of a reserved word.
def escapeKeyword (l : Language) (name : String) : String :=
  if !l.isKeyword name then name
  else if l = rust && !hasNoRawForm name then "r#" ++ name
  else name ++ "_"

def literalChars (l : Language) (value : List Char) : List Char :=
  match l with
  | php => '\x27' :: Escape.singleQuotedChars value ++ ['\x27']
  | _ => '\x22' :: Escape.quotedChars value ++ ['\x22']

def stringLiteral (l : Language) (value : String) : String :=
  String.ofList (l.literalChars value.toList)

-- The file that lists the generated units.
def indexFileName : Language → String
  | go => "doc.go"
  | rust => "mod.rs"
  | typescript => "index.ts"
  | python => "__init__.py"
  | php => "bootstrap.php"

def ofName (name : String) : Except Failure Language :=
  let key := lower (trim name)
  match all.find? (·.aliases.contains key) with
  | some l => .ok l
  | none => .error (.unsupportedTarget ("Unsupported language: " ++ name))

end Language
end TypedRows
