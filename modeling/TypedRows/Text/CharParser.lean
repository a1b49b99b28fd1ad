import TypedRows.Text.Blank

namespace TypedRows.Text

abbrev CharParser := StateT (List Char) Option

namespace CharParser

variable {α : Type}

def require (b : Bool) : CharParser Unit :=
  if b then pure () else failure

def peek? : CharParser (Option Char) :=
  return (← get).head?

def atEnd : CharParser Bool :=
  return (← get).isEmpty

def next : CharParser Char := do
  match ← get with
  | [] => failure
  | c :: cs => set cs; return c

def skip (n : Nat) : CharParser Unit :=
  modify (·.drop n)

-- Takes the text if it is next.
def text? (s : String) : CharParser Bool := do
  if s.toList.isPrefixOf (← get) then skip s.length; return true
  else return false

def text (s : String) : CharParser Unit := do
  require (← text? s)

def takeWhile (p : Char → Bool) : CharParser (List Char) := do
  let cs ← get
  set (cs.dropWhile p)
  return cs.takeWhile p

def dropWhile (p : Char → Bool) : CharParser Unit :=
  modify (·.dropWhile p)

-- Repeats a step that takes a character or more, until it gives nothing.
def manyWithin (step : CharParser (Option α)) : (fuel : Nat) → CharParser (List α)
  | 0 => failure
  | fuel + 1 => do
    match ← step with
    | none => return []
    | some a => return a :: (← manyWithin step fuel)

-- No step can take a character more often than there are characters.
def many (step : CharParser (Option α)) : CharParser (List α) := do
  manyWithin step ((← get).length + 1)

-- What a parser reads that takes the whole text.
def whole (p : CharParser α) (cs : List Char) : Option α :=
  match p cs with
  | some (a, []) => some a
  | _ => none

end CharParser
end TypedRows.Text
