import TypedRows.Settings
import TypedRows.Settings.Toml
import TypedRows.Settings.Yaml
import TypedRows.Text.Utf8

namespace TypedRows

open Text

namespace Datum

def text? : Datum → Option String
  | text s | bare s => some s
  | _ => none

def radixNumber? (base : Nat) (cs : List Char) : Option Nat :=
  let isDigit (c : Char) := Toml.Scalar.isHexDigit c && Toml.Scalar.digitValue c < base
  if !cs.isEmpty && cs.all isDigit then some (Toml.Scalar.numberIn base cs) else none

-- A number of more than one digit does not start with a zero.
def decimalNumber? (cs : List Char) : Option Nat :=
  match dropPlus cs with
  | '0' :: _ :: _ => none
  | ds => numeral? ds

def bareNumber? (cs : List Char) : Option Nat :=
  match dropPlus cs with
  | '0' :: 'x' :: ds => radixNumber? 16 ds
  | '0' :: 'o' :: ds => radixNumber? 8 ds
  | '0' :: 'b' :: ds => radixNumber? 2 ds
  | _ => decimalNumber? cs

-- A number that fits into 64 bits.
def number? (d : Datum) : Option Nat :=
  let n := match d with
    | integer n => if 0 ≤ n then some n.toNat else none
    | bare s => bareNumber? s.toList
    | _ => none
  n.filter (· < UInt64.size)

def flag? : Datum → Option Bool
  | boolean b => some b
  | bare s =>
    if ["true", "True", "TRUE"].contains s then some true
    else if ["false", "False", "FALSE"].contains s then some false
    else none
  | _ => none

-- A text of one character.
def char? (d : Datum) : Option Char :=
  match (d.text?).map String.toList with
  | some [c] => some c
  | _ => none

def isNothing : Datum → Bool
  | bare s => ["", "~", "null", "Null", "NULL"].contains s
  | _ => false

-- What may be missing, or said to be nothing.
def optional? {α : Type} (read : Datum → Option α) (d : Datum) : Option (Option α) :=
  if d.isNothing then some none else (read d).map some

end Datum

namespace Settings

-- A setting of a record: its name, and how its value changes the record.
structure Entry (α : Type) where
  name : String
  set : Datum → α → Option α

namespace Entry

variable {α β : Type}

def ofReader (name : String) (read : Datum → Option β) (set : β → α → α) : Entry α :=
  ⟨name, fun d a => (read d).map fun b => set b a⟩

-- Sets entries by their names, each of them once.
def setAll (entries : List (Entry α)) (seen : List String) :
    List (String × Datum) → α → Option α
  | [], a => some a
  | (key, d) :: rest, a =>
    match entries.find? (·.name = key) with
    | none => setAll entries seen rest a
    | some e =>
      if seen.contains key then none
      else (e.set d a).bind (setAll entries (key :: seen) rest)

-- Sets entries in their order. Only a closed list minds further items.
def setInOrder (isClosed : Bool) : List (Entry α) → List Datum → α → Option α
  | e :: entries, d :: ds, a => (e.set d a).bind (setInOrder isClosed entries ds)
  | [], _ :: _, a => if isClosed then none else some a
  | _, [], a => some a

-- Sets what a section says. An empty section says nothing.
-- It may also be a list of its settings in their order.
def setSection (entries : List (Entry α)) (d : Datum) (a : α) : Option α :=
  match d with
  | .table _ items => setAll entries [] items a
  | .list isClosed items => setInOrder isClosed entries items a
  | .tables items => setInOrder false entries items.reverse a
  | .bare "" => some a
  | _ => none

end Entry

open Entry

def limits : List (Entry Settings) :=
  [ofReader "max_input_bytes" Datum.number? fun n s => { s with maxInputBytes := n }]

def csv : List (Entry Settings) :=
  [ofReader "sample_rows" Datum.number? fun n s => { s with sampleRows := n },
    ofReader "delimiter" Datum.char? fun c s => { s with delimiter := c }]

def output : List (Entry Settings) :=
  [ofReader "directory" Datum.text? fun t s => { s with outputDirectory := t },
    ofReader "archive_prefix" Datum.text? fun t s => { s with archiveName := t }]

def emit : List (Entry Settings) :=
  [ofReader "support_files" Datum.flag? fun b s => { s with withIndex := b },
    ofReader "parallel" Datum.flag? fun b s => { s with inParallel := b }]

def loggingEntries : List (Entry Logging) :=
  [ofReader "level" Datum.text? fun t l => { l with level := t },
    ofReader "file" (Datum.optional? Datum.text?) fun t l => { l with file := t },
    ofReader "format" Datum.text? fun t l => { l with format := t },
    ofReader "stdout" Datum.flag? fun b l => { l with toOutput := b }]

def logging? (d : Datum) : Option (Option Logging) :=
  d.optional? fun d => setSection loggingEntries d {}

-- Settings that are not mentioned keep their defaults, and names that mean nothing are passed over.
def sections : List (Entry Settings) :=
  [⟨"limits", setSection limits⟩, ⟨"csv", setSection csv⟩, ⟨"output", setSection output⟩,
    ⟨"emit", setSection emit⟩,
    ofReader "logging" logging? fun l s => { s with logging := l }]

def ofDatum? (d : Datum) : Option Settings :=
  setSection sections d {}

inductive Format
  | toml
  | yaml
  deriving DecidableEq, Repr

namespace Format

-- The format of a file with such an extension.
def ofExtension (extension : Option String) : Format :=
  match extension with
  | some "yaml" | some "yml" => yaml
  | _ => toml

def read? (f : Format) (cs : List Char) : Option Datum :=
  match f with
  | toml => Toml.read? cs
  | yaml => Yaml.read? cs

end Format

def check (s : Settings) : Except Failure Settings :=
  match s.fault? with
  | some fault => .error (.configuration fault)
  | none => .ok s

def unreadable (detail : String) : Failure :=
  .configuration ("Failed to read config file: " ++ detail)

def malformed : Failure :=
  .configuration "Failed to parse config file: "

def ofChars (f : Format) (cs : List Char) : Except Failure Settings :=
  match (f.read? cs).bind ofDatum? with
  | none => .error malformed
  | some s => s.check

def ofBytes (f : Format) (bytes : List UInt8) : Except Failure Settings :=
  match Utf8.decode bytes with
  | .error _ => .error (unreadable "stream did not contain valid UTF-8")
  | .ok cs => ofChars f cs

end Settings
end TypedRows
