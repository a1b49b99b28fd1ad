import TypedRows.Language

namespace TypedRows

open Text

section Scan

variable {σ α β : Type} {step : σ → α → List β × σ} {s t u : σ} {as as' : List α} {bs bs' : List β}

-- What the steps through a list give, and the state after them.
def scan (step : σ → α → List β × σ) (s : σ) : List α → List β × σ
  | [] => ([], s)
  | a :: as => ((step s a).1 ++ (scan step (step s a).2 as).1, (scan step (step s a).2 as).2)

theorem scan_append (h : scan step s as = (bs, t)) (h' : scan step t as' = (bs', u)) :
    scan step s (as ++ as') = (bs ++ bs', u) := by
  induction as generalizing s bs
  case nil =>
    obtain ⟨rfl, rfl⟩ := Prod.mk.inj h
    exact h'
  case cons a as hi =>
    obtain ⟨rfl, hs⟩ := Prod.mk.inj h
    rw [List.cons_append, scan, hi (Prod.ext rfl hs), List.append_assoc]

theorem scan_cons {a : α} (h : step s a = (bs, t)) (h' : scan step t as = (bs', u)) :
    scan step s (a :: as) = (bs ++ bs', u) := by
  rw [scan, h, h']

-- Elements that give nothing and leave the state as it is.
theorem scan_eq_nil (h : ∀ a ∈ as, step s a = ([], s)) : scan step s as = ([], s) := by
  induction as
  case nil => rfl
  case cons a as hi =>
    have ⟨ha, has⟩ := List.forall_mem_cons.mp h
    exact scan_cons ha (hi has)

end Scan

namespace Code

inductive Token
  | word (name : String)
  -- A text in quotes, as it is spelled between them.
  | literal (text : String)
  | mark (c : Char)
  | lineEnd
  deriving DecidableEq, Repr

-- How code is told from comments and literals.
-- Forms that no layout writes are left out, such as comments in comments.
structure Lexicon where
  lineEnds : List Char
  -- What words hold beside letters and digits.
  wordMarks : List Char := ['_']
  hashComments : Bool := false
  slashComments : Bool := true
  -- Between these a backslash escapes the next character.
  quotes : List Char
  rawQuotes : List Char := []
  -- Words can start with `r#`.
  rawWords : Bool := false
  -- Code stands between `<?php` and `?>`. The latter ends it in a line comment too.
  tagged : Bool := false
  lineFeed_mem : '\n' ∈ lineEnds := by decide
  underscore_mem : '_' ∈ wordMarks := by decide

inductive Place
  | code
  -- The characters of the word so far.
  | word (cs : List Char)
  | slash
  | question
  | lineComment (question : Bool)
  | blockComment (star : Bool)
  | quoted (quote : Char) (text : List Char)
  | escaped (quote : Char) (text : List Char)
  | raw (quote : Char) (text : List Char)
  -- Before code, after that many characters of the tag that opens it.
  | untagged (matched : Nat)
  deriving DecidableEq, Repr

-- The token that a text ends with if it ends in this place.
def Place.tokens : Place → List Token
  | word cs => [.word (String.ofList cs)]
  | slash => [.mark '/']
  | question => [.mark '?']
  | _ => []

namespace Lexicon

variable (x : Lexicon)

def isWordChar (c : Char) : Bool :=
  isAlphanumeric c || x.wordMarks.contains c

def continuesWord (cs : List Char) (c : Char) : Bool :=
  x.isWordChar c || x.rawWords && c = '#' && cs = ['r']

def codeStep (c : Char) : List Token × Place :=
  if x.isWordChar c then ([], .word [c])
  else if x.lineEnds.contains c then ([.lineEnd], .code)
  else if c = '/' && x.slashComments then ([], .slash)
  else if c = '#' && x.hashComments then ([], .lineComment false)
  else if x.quotes.contains c then ([], .quoted c [])
  else if x.rawQuotes.contains c then ([], .raw c [])
  else if c = '?' && x.tagged then ([], .question)
  else if isBlank c then ([], .code)
  else ([.mark c], .code)

-- The character after something that was code up to here.
def resume (p : Place) (c : Char) : List Token × Place :=
  (p.tokens ++ (x.codeStep c).1, (x.codeStep c).2)

def openingTag : List Char :=
  "<?php".toList

def untaggedStep (matched : Nat) (c : Char) : Place :=
  if openingTag[matched]? = some c then
    if matched + 1 = openingTag.length then .code else .untagged (matched + 1)
  else if c = '<' then .untagged 1
  else .untagged 0

def step : Place → Char → List Token × Place
  | .code, c => x.codeStep c
  | .word cs, c => if x.continuesWord cs c then ([], .word (cs ++ [c])) else x.resume (.word cs) c
  | .slash, c =>
    if c = '/' then ([], .lineComment false)
    else if c = '*' then ([], .blockComment false)
    else x.resume .slash c
  | .question, c => if c = '>' then ([], .untagged 0) else x.resume .question c
  | .lineComment question, c =>
    if x.lineEnds.contains c then ([.lineEnd], .code)
    else if x.tagged && question && c = '>' then ([], .untagged 0)
    else ([], .lineComment (c = '?'))
  | .blockComment star, c =>
    if star && c = '/' then ([], .code) else ([], .blockComment (c = '*'))
  | .quoted q text, c =>
    if c = '\\' then ([], .escaped q (text ++ [c]))
    else if c = q then ([.literal (String.ofList text)], .code)
    else ([], .quoted q (text ++ [c]))
  | .escaped q text, c => ([], .quoted q (text ++ [c]))
  | .raw q text, c =>
    if c = q then ([.literal (String.ofList text)], .code) else ([], .raw q (text ++ [c]))
  | .untagged matched, c => ([], untaggedStep matched c)

def start : Place :=
  if x.tagged then .untagged 0 else .code

def tokens (text : String) : List Token :=
  let (ts, p) := scan x.step x.start text.toList
  ts ++ p.tokens

end Lexicon
end Code

-- An apostrophe starts a lifetime in Rust, where no layout writes a character literal.
def Language.lexicon : Language → Code.Lexicon
  | go => { lineEnds := ['\n'], quotes := ['\x22', '\x27'], rawQuotes := ['\x60'] }
  | rust => { lineEnds := ['\n'], quotes := ['\x22'], rawWords := true }
  | typescript =>
    { lineEnds := ['\n', '\r', '\u2028', '\u2029'], wordMarks := ['_', '$']
      quotes := ['\x22', '\x27', '\x60'] }
  | python =>
    { lineEnds := ['\n', '\r'], hashComments := true, slashComments := false
      quotes := ['\x22', '\x27'] }
  | php =>
    { lineEnds := ['\n', '\r'], hashComments := true, quotes := ['\x22', '\x27'], tagged := true }

end TypedRows
