import TypedRows.Emission
import TypedRows.Proofs.Code.Reading

namespace TypedRows

open Code

namespace Language

-- Words before the name of a type.
def typeKeywords : Language → List String
  | go => ["type"]
  | rust => ["struct", "enum", "union", "trait", "type"]
  | typescript => ["interface", "class", "enum", "type"]
  | python => ["class"]
  | php => ["class", "interface", "trait", "enum"]

def valueKeywords : Language → List String
  | go => ["const", "var"]
  | typescript => ["const", "let", "var", "function"]
  | rust | python | php => []

def hasKeyword (l : Language) (keywords : List String) (word : String) : Bool :=
  keywords.any fun k => if l = php then asciiLower k = asciiLower word else k = word

def declares (l : Language) (word : String) : Bool :=
  l.hasKeyword (l.typeKeywords ++ l.valueKeywords) word

end Language

namespace Code

structure Declaration where
  exported : Bool
  keyword : String
  name : String
  deriving DecidableEq, Repr

-- What a word would be.
inductive Turn
  | other
  -- The first word after `export`, or a modifier after that.
  | exported
  | name (exported : Bool) (keyword : String)
  -- A name was declared, and after a comma another one is.
  | listed (exported : Bool) (keyword : String)
  deriving DecidableEq, Repr

structure Scope where
  turn : Turn := .other
  -- The keyword before the parentheses around several declarations.
  group : Option String := none
  -- The number of open brackets.
  depth : Nat := 0
  deriving DecidableEq, Repr

namespace Scope

variable (l : Language) (s : Scope)

def leave : Scope :=
  { s with turn := .other }

-- The start of a statement, which in a group declares a name.
def nextStatement : Scope :=
  match s.group with
  | some k => { s with turn := if s.depth = 1 then .name false k else .other }
  | none => s.leave

def atWord (w : String) : List Declaration × Scope :=
  match s.turn with
  | .name exported k => ([⟨exported, k, w⟩], { s with turn := .listed exported k })
  | turn =>
    if s.depth ≠ 0 then ([], s.leave)
    else if l = .typescript && w = "export" then ([], { s with turn := .exported })
    else if l.declares w then ([], { s with turn := .name (turn = .exported) w })
    else if turn = .exported then ([], s)
    else ([], s.leave)

-- Only a name or what is exported can stand on the next line.
def atLineEnd : Scope :=
  match s.turn with
  | .exported | .name _ _ => s
  | .other | .listed _ _ => s.nextStatement

def openBracket (c : Char) : Scope :=
  match s.turn with
  | .name _ k =>
    if l = .go && c = '(' then { turn := .name false k, group := some k, depth := s.depth + 1 }
    else { s.leave with depth := s.depth + 1 }
  | _ => { s.leave with depth := s.depth + 1 }

def closeBracket : Scope :=
  { turn := .other, group := if s.depth ≤ 1 then none else s.group, depth := s.depth - 1 }

def atMark (c : Char) : Scope :=
  if c = ';' then s.nextStatement
  else if c = ',' then
    match s.turn with
    | .listed exported k => { s with turn := .name exported k }
    | _ => s.leave
  else if ['(', '[', '{'].contains c then s.openBracket l c
  else if [')', ']', '}'].contains c then s.closeBracket
  else s.leave

def step : Scope → Token → List Declaration × Scope
  | s, .word w => s.atWord l w
  | s, .literal _ => ([], s.leave)
  | s, .mark c => ([], s.atMark l c)
  | s, .lineEnd => ([], s.atLineEnd)

-- A word by itself declares nothing, though it can be a keyword.
theorem scan_word_mark (l : Language) (w : String) {c : Char} {s' : Scope}
    (h : ∀ turn, atMark l { turn := turn } c = s') :
    scan (step l) {} [.word w, .mark c] = ([], s') := by
  obtain ⟨turn, hw⟩ : ∃ turn, atWord l {} w = ([], { turn := turn }) := by
    unfold atWord
    dsimp only
    split_ifs <;> exact ⟨_, rfl⟩
  simp [scan, step, hw, h turn]

end Scope

def declarations (l : Language) (ts : List Token) : List Declaration :=
  (scan (Scope.step l) {} ts).1

end Code

namespace SourceUnit

def tokens (l : Language) (u : SourceUnit) : List Token :=
  l.lexicon.tokens u.content

def declarations (l : Language) (u : SourceUnit) : List Declaration :=
  Code.declarations l (u.tokens l)

def typeNames (l : Language) (u : SourceUnit) : List String :=
  ((u.declarations l).filter fun d => l.hasKeyword l.typeKeywords d.keyword).map Declaration.name

def exportedNames (l : Language) (u : SourceUnit) : List String :=
  ((u.declarations l).filter (·.exported)).map Declaration.name

-- Every name that a unit brings to its package.
def packageNames (l : Language) (u : SourceUnit) : List String :=
  (u.declarations l).map Declaration.name

end SourceUnit
end TypedRows
