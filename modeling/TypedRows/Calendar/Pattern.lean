import TypedRows.Calendar.Date
import TypedRows.Text.Blank

namespace TypedRows.Calendar

open Text

inductive Part
  | year
  | month
  | day
  | hour
  | minute
  | second
  deriving DecidableEq, Repr

namespace Part

def width : Part → Nat
  | year => 4
  | _ => 2

-- A minute may have a leap second. Years and days are judged as a whole date.
def admits (part : Part) (n : Nat) : Bool :=
  match part with
  | hour => n < 24
  | minute => n < 60
  | second => n ≤ 60
  | year | month | day => true

end Part

inductive Item
  -- Blanks, and then at most as many digits as the part is wide; a signed year has any number.
  | loose (part : Part)
  -- As many digits as the part is wide.
  | exact (part : Part)
  | oneOf (marks : List Char)
  -- Blanks, or nothing.
  | blanks
  -- A point and digits, or nothing.
  | fraction
  -- The letter Z, or a sign with hours and minutes.
  | zone
  deriving DecidableEq, Repr

-- The items read a text from left to right. It matches if they use it up and its date exists.
abbrev Pattern := List Item

-- The date that a pattern has read so far.
structure Reading where
  year : Int := 0
  month : Nat := 0
  day : Nat := 0
  deriving DecidableEq, Repr

namespace Reading

def isDate (r : Reading) : Bool :=
  Calendar.isDate r.year r.month r.day

def set (r : Reading) (part : Part) (n : Nat) : Reading :=
  match part with
  | .year => { r with year := n }
  | .month => { r with month := n }
  | .day => { r with day := n }
  | .hour | .minute | .second => r

end Reading

namespace Item

-- One digit or more.
def digits? (cs : List Char) : Option (Nat × List Char) :=
  match cs.takeWhile Char.isDigit with
  | [] => none
  | ds => some (digitsValue ds, cs.dropWhile Char.isDigit)

-- One digit or more, and at most `width` of them.
def atMost? (width : Nat) (cs : List Char) : Option (Nat × List Char) :=
  match (cs.take width).takeWhile Char.isDigit with
  | [] => none
  | ds => some (digitsValue ds, cs.drop ds.length)

def exactly? (width : Nat) (cs : List Char) : Option (Nat × List Char) :=
  let ds := cs.take width
  if ds.length = width && ds.all Char.isDigit then some (digitsValue ds, cs.drop width) else none

def setPart? (r : Reading) (part : Part) : Nat × List Char → Option (Reading × List Char)
  | (n, rest) => if part.admits n then some (r.set part n, rest) else none

def loose? (r : Reading) (part : Part) (cs : List Char) : Option (Reading × List Char) :=
  match part, cs with
  | .year, '-' :: cs => (digits? cs).map fun (n, rest) => ({ r with year := -(n : Int) }, rest)
  | .year, '+' :: cs => (digits? cs).map fun (n, rest) => ({ r with year := n }, rest)
  | part, cs => (atMost? part.width cs).bind (setPart? r part)

-- A distance from universal time that is shorter than a day.
def zone? (cs : List Char) : Option (List Char) :=
  match cs with
  | [] => none
  | c :: cs =>
    if c = 'Z' || c = 'z' then some cs
    else if c = '+' || c = '-' || c = '\u2212' then
      match exactly? 2 cs with
      | some (hours, ':' :: cs) =>
        match exactly? 2 cs with
        | some (minutes, rest) => if hours < 24 && minutes < 60 then some rest else none
        | none => none
      | _ => none
    else none

def fraction? : List Char → Option (List Char)
  | '.' :: cs => (digits? cs).map (·.2)
  | cs => some cs

def read? (item : Item) (r : Reading) (cs : List Char) : Option (Reading × List Char) :=
  match item with
  | loose part => loose? r part (trimStart cs)
  | exact part => (exactly? part.width cs).bind (setPart? r part)
  | oneOf marks =>
    match cs with
    | c :: rest => if marks.contains c then some (r, rest) else none
    | [] => none
  | blanks => some (r, trimStart cs)
  | fraction => (fraction? cs).map (r, ·)
  | zone => (zone? cs).map (r, ·)

end Item

namespace Pattern

def read? (r : Reading) (cs : List Char) : Pattern → Option (Reading × List Char)
  | [] => some (r, cs)
  | item :: items =>
    match item.read? r cs with
    | none => none
    | some (r, rest) => read? r rest items

def admits (p : Pattern) (cs : List Char) : Bool :=
  match p.read? {} cs with
  | some (r, []) => r.isDate
  | _ => false

def date (mark : Char) : Pattern :=
  [.loose .year, .oneOf [mark], .loose .month, .oneOf [mark], .loose .day]

def clock : Pattern :=
  [.loose .hour, .oneOf [':'], .loose .minute]

def seconds : Pattern :=
  [.oneOf [':'], .loose .second, .fraction]

-- The profile of ISO 8601 for time stamps on the internet.
def timeStamp : Pattern :=
  [.exact .year, .oneOf ['-'], .exact .month, .oneOf ['-'], .exact .day, .oneOf ['T', 't', ' '],
    .exact .hour, .oneOf [':'], .exact .minute, .oneOf [':'], .exact .second, .fraction, .zone]

def dates : List Pattern :=
  [date '-', date '/']

def dateTimes : List Pattern :=
  [date '-' ++ .blanks :: clock ++ seconds,
    date '-' ++ .oneOf ['T'] :: clock ++ seconds,
    date '/' ++ .blanks :: clock ++ seconds,
    date '-' ++ .blanks :: clock,
    date '-' ++ .oneOf ['T'] :: clock,
    timeStamp]

end Pattern

def isDateText (cs : List Char) : Bool :=
  Pattern.dates.any (·.admits cs)

def isDateTimeText (cs : List Char) : Bool :=
  Pattern.dateTimes.any (·.admits cs)

end TypedRows.Calendar
