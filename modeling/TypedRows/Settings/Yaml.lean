import TypedRows.Settings.Yaml.Flow

namespace TypedRows.Yaml

open Text

-- A line without its indentation.
structure Line where
  indent : Nat
  body : List Char
  deriving DecidableEq, Repr

namespace Line

def ofChars (cs : List Char) : Line :=
  ⟨(cs.takeWhile (· = ' ')).length, cs.dropWhile (· = ' ')⟩

def toChars (l : Line) : List Char :=
  List.replicate l.indent ' ' ++ l.body

def isBlank (l : Line) : Bool :=
  l.body.all isGap

-- Blank, or nothing but a comment.
def isIdle (l : Line) : Bool :=
  match l.body.dropWhile isGap with
  | [] => true
  | c :: _ => c = '#'

def isItem (l : Line) : Bool :=
  match l.body with
  | '-' :: rest => rest.head?.all isGap
  | _ => false

-- Whether the line is a marker between documents.
def isMarker (mark : String) (l : Line) : Bool :=
  l.indent = 0 && mark.toList.isPrefixOf l.body && (l.body.drop mark.length).head?.all isGap

end Line

def withoutReturn (cs : List Char) : List Char :=
  if cs.getLast? = some '\r' then cs.dropLast else cs

def linesOf (cs : List Char) : List Line :=
  (splitAtChar '\n' cs).map fun l => Line.ofChars (withoutReturn l)

def joinLines (ls : List Line) : List Char :=
  ['\n'].intercalate (ls.map Line.toChars)

def dropIdle (ls : List Line) : List Line :=
  ls.dropWhile Line.isIdle

namespace Scalar

-- The text up to a comment, and whether there is one.
def beforeComment : List Char → List Char × Bool
  | [] => ([], false)
  | c :: '#' :: cs =>
    if isGap c then ([], true)
    else
      let (text, found) := beforeComment ('#' :: cs)
      (c :: text, found)
  | c :: cs =>
    let (text, found) := beforeComment cs
    (c :: text, found)

def trimGaps (cs : List Char) : List Char :=
  ((cs.dropWhile isGap).reverse.dropWhile isGap).reverse

-- Whether a colon ends a key somewhere in the text.
def hasColon : List Char → Bool
  | [] => false
  | c :: cs => (c = ':' && cs.head?.all isGap) || hasColon cs

-- Lines that go on with a text: indented far enough, and before any comment.
def moreLines (indent : Nat) : List Line → List Line × List Line
  | [] => ([], [])
  | l :: ls =>
    if l.isBlank then
      match moreLines indent ls with
      | ([], _) => ([], l :: ls)
      | (more, rest) => (l :: more, rest)
    else if l.indent < indent || l.isIdle then ([], l :: ls)
    else if (beforeComment l.body).2 then ([l], ls)
    else
      let (more, rest) := moreLines indent ls
      (l :: more, rest)

-- The text of lines, with their ends folded.
def joinFolded (first : List Char) (gap : Nat) : List Line → List Char
  | [] => first
  | l :: ls =>
    if l.isBlank then joinFolded first (gap + 1) ls
    else first ++ folded (List.replicate (gap + 1) '\n') ++
      joinFolded (trimGaps (beforeComment l.body).1) 0 ls

-- A text without quotes, which holds no key.
def plain? (indent : Nat) (body : List Char) (ls : List Line) : Option (Datum × List Line) :=
  let (first, commented) := beforeComment body
  let (more, rest) := if commented then ([], ls) else moreLines indent ls
  let text := joinFolded (trimGaps first) 0 more
  if Flow.startsPlain body && !hasColon first && !more.any (fun l => hasColon l.body) then
    some (.bare (String.ofList text), rest)
  else none

-- What may follow a value on its line.
def endsLine (cs : List Char) : Bool :=
  match cs with
  | [] => true
  | c :: rest =>
    isGap c && match rest.dropWhile isGap with
      | [] => true
      | d :: _ => d = '#'

-- A quoted text or a collection between brackets, over as many lines as it takes.
def flow? (body : List Char) (ls : List Line) : Option (Datum × List Line) :=
  match Flow.value Flow.maxDepth (joinLines (⟨0, body⟩ :: ls)) with
  | none => none
  | some (d, rest) =>
    match linesOf rest with
    | [] => some (d, [])
    | l :: ls => if endsLine l.toChars then some (d, ls) else none

-- How a block of text ends.
inductive Chomp
  | strip
  | clip
  | keep
  deriving DecidableEq, Repr

structure BlockHeader where
  isFolded : Bool
  chomp : Chomp := .clip
  indent : Option Nat := none

namespace BlockHeader

def read? (h : BlockHeader) : List Char → Option BlockHeader
  | [] => some h
  | c :: cs =>
    if c = '-' then read? { h with chomp := .strip } cs
    else if c = '+' then read? { h with chomp := .keep } cs
    else if '1' ≤ c && c ≤ '9' then read? { h with indent := some (c.toNat - '0'.toNat) } cs
    else if endsLine (c :: cs) then some h
    else none

end BlockHeader

-- Lines of a block: blank ones, and those that are indented far enough.
def isInside (indent : Nat) (l : Line) : Bool :=
  l.body.isEmpty || indent ≤ l.indent

def contentLine (indent : Nat) (l : Line) : List Char :=
  l.toChars.drop indent

-- Joins lines; where the block is folded, a line end between two texts is a blank.
def joinBlock (isFolded : Bool) : List (List Char) → List Char
  | [] => []
  | [l] => l
  | l :: next :: ls =>
    let isText (cs : List Char) : Bool := cs.head?.any (!isGap ·)
    if isFolded && isText l && isText next then l ++ ' ' :: joinBlock isFolded (next :: ls)
    else if isFolded && isText l && next.isEmpty && (ls.dropWhile (·.isEmpty)).head?.any isText then
      l ++ joinBlock isFolded (next :: ls)
    else l ++ '\n' :: joinBlock isFolded (next :: ls)

def block? (parent : Nat) (h : BlockHeader) (ls : List Line) : Option (Datum × List Line) :=
  let found := ((ls.dropWhile fun l => l.body.isEmpty).head?.map Line.indent).getD 0
  let indent := match h.indent with
    | some n => parent + n
    | none => max found (parent + 1)
  let inside := ls.takeWhile (isInside indent)
  let texts := inside.map (contentLine indent)
  let blanks := (texts.reverse.takeWhile (·.isEmpty)).length
  let body := joinBlock h.isFolded (texts.take (texts.length - blanks))
  let ending := match h.chomp with
    | .strip => []
    | .clip => if body.isEmpty then [] else ['\n']
    | .keep => List.replicate (blanks + if body.isEmpty then 0 else 1) '\n'
  some (.text (String.ofList (body ++ ending)), ls.dropWhile (isInside indent))

-- A value that begins with `body`. Further lines need `indent`, one more than the parent's.
def inline? (indent : Nat) (body : List Char) (ls : List Line) : Option (Datum × List Line) :=
  match body with
  | [] => none
  | c :: rest =>
    if ['\x22', '\x27', '[', '\x7b'].contains c then flow? body ls
    else if c = '|' || c = '>' then
      (BlockHeader.read? { isFolded := c = '>' } rest).bind fun h => block? (indent - 1) h ls
    else plain? indent body ls

end Scalar

namespace Block

def colonKey? : List Char → Option (List Char × List Char)
  | [] => none
  | c :: cs =>
    if c = ':' && cs.head?.all isGap then some ([], cs)
    else if isGap c && cs.head? = some '#' then none
    else (colonKey? cs).map fun (key, rest) => (c :: key, rest)

-- The key at the start of a line, and what follows its colon.
def key? (body : List Char) : Option (String × List Char) :=
  match Flow.quoted? body with
  | some (some key, rest) =>
    match rest.dropWhile isGap with
    | ':' :: rest => if rest.head?.all isGap then some (key, rest) else none
    | _ => none
  | some (none, _) =>
    if Flow.startsPlain body then
      (colonKey? body).map fun (key, rest) => (String.ofList (Scalar.trimGaps key), rest)
    else none
  | none => none

-- Readers of blocks, by how deep they may nest.
structure Readers where
  node : (indent : Nat) → List Line → Option (Datum × List Line)

def absent : Readers :=
  ⟨fun _ _ => none⟩

section

variable (r : Readers)

-- The items of a list whose hyphens stand `indent` deep.
def itemsWithin (indent : Nat) : (fuel : Nat) → List Line → Option (List Datum × List Line)
  | 0, _ => none
  | fuel + 1, ls =>
    match dropIdle ls with
    | [] => some ([], [])
    | l :: rest =>
      if l.indent < indent || (l.indent = indent && !l.isItem) then some ([], l :: rest)
      else if indent < l.indent then none
      else
        let body := l.body.drop 1
        let gap := (body.takeWhile (· = ' ')).length
        match r.node (indent + 1) (⟨indent + 1 + gap, body.drop gap⟩ :: rest) with
        | none => none
        | some (d, rest) => (itemsWithin indent fuel rest).map fun (ds, rest) => (d :: ds, rest)

def items? (indent : Nat) (ls : List Line) : Option (Datum × List Line) :=
  (itemsWithin r indent (ls.length + 1) ls).map fun (ds, rest) => (.list true ds, rest)

-- The value of a key that stands `indent` deep. A list may stand as deep as its key.
def valueAfter (indent : Nat) (body : List Char) (ls : List Line) : Option (Datum × List Line) :=
  if Line.isIdle ⟨0, body⟩ then
    match dropIdle ls with
    | [] => some (.bare "", [])
    | l :: rest =>
      if l.indent = indent && l.isItem then items? r indent (l :: rest)
      else if indent < l.indent then r.node (indent + 1) (l :: rest)
      else some (.bare "", l :: rest)
  else Scalar.inline? (indent + 1) (body.dropWhile isGap) ls

def entriesWithin (indent : Nat) :
    (fuel : Nat) → List Line → Option (List (String × Datum) × List Line)
  | 0, _ => none
  | fuel + 1, ls =>
    match dropIdle ls with
    | [] => some ([], [])
    | l :: rest =>
      if l.indent < indent then some ([], l :: rest)
      else if indent < l.indent then none
      else
        match key? l.body with
        | none => none
        | some (key, body) =>
          match valueAfter r indent body rest with
          | none => none
          | some (d, rest) =>
            (entriesWithin indent fuel rest).map fun (es, rest) => ((key, d) :: es, rest)

def entries? (indent : Nat) (ls : List Line) : Option (Datum × List Line) :=
  (entriesWithin r indent (ls.length + 1) ls).map fun (es, rest) => (.table .closed es, rest)

end

-- What stands at least `indent` deep on the next lines.
def node? (r : Readers) (indent : Nat) (ls : List Line) : Option (Datum × List Line) :=
  match dropIdle ls with
  | [] => some (.bare "", [])
  | l :: rest =>
    if l.indent < indent then some (.bare "", l :: rest)
    else if l.isItem then items? r l.indent (l :: rest)
    else if (key? l.body).isSome then entries? r l.indent (l :: rest)
    else Scalar.inline? indent l.body rest

def readers : (depth : Nat) → Readers
  | 0 => absent
  | depth + 1 => ⟨node? (readers depth)⟩

end Block

-- The lines of the only document.
def document? (ls : List Line) : Option (List Line) :=
  let content : List Line := match dropIdle ls with
    | [] => []
    | l :: rest => if l.isMarker "---" then ⟨3, l.body.drop 3⟩ :: rest else l :: rest
  let isEnd (l : Line) : Bool := l.isMarker "---" || l.isMarker "..."
  let after := dropIdle ((content.dropWhile (!isEnd ·)).dropWhile (·.isMarker "..."))
  if after.isEmpty then some (content.takeWhile (!isEnd ·)) else none

def dropByteOrderMark : List Char → List Char
  | '\ufeff' :: cs => cs
  | cs => cs

-- The data of a stream. An empty one is an empty text.
-- A stream holds one document at most.
def read? (cs : List Char) : Option Datum := do
  let ls ← document? (linesOf (dropByteOrderMark cs))
  let (d, rest) ← (Block.readers Flow.maxDepth).node 0 ls
  if (dropIdle rest).isEmpty then return d else none

end TypedRows.Yaml
