namespace TypedRows.Text.Utf8

-- The index is the one of the byte where the faulty character starts.
inductive Fault
  | invalid (length index : Nat)
  | incomplete (index : Nat)
  deriving DecidableEq, Repr

def Fault.index : Fault → Nat
  | .invalid _ i => i
  | .incomplete i => i

def Fault.message : Fault → String
  | .invalid n i => "invalid utf-8 sequence of " ++ toString n ++ " bytes from index " ++ toString i
  | .incomplete i => "incomplete utf-8 byte sequence from index " ++ toString i

-- A character of which `needed` bytes are missing; the next one lies between `low` and `high`.
structure Pending where
  needed : Nat
  low : UInt8
  high : UInt8
  code : Nat
  start : Nat

namespace Pending

-- Leading bytes. The bounds keep out overlong forms, surrogates and what is above U+10FFFF.
def ofLead? (b : UInt8) (start : Nat) : Option Pending :=
  if b < 0xC2 then none
  else if b < 0xE0 then some ⟨1, 0x80, 0xBF, b.toNat - 0xC0, start⟩
  else if b = 0xE0 then some ⟨2, 0xA0, 0xBF, 0, start⟩
  else if b = 0xED then some ⟨2, 0x80, 0x9F, 0xD, start⟩
  else if b < 0xF0 then some ⟨2, 0x80, 0xBF, b.toNat - 0xE0, start⟩
  else if b = 0xF0 then some ⟨3, 0x90, 0xBF, 0, start⟩
  else if b < 0xF4 then some ⟨3, 0x80, 0xBF, b.toNat - 0xF0, start⟩
  else if b = 0xF4 then some ⟨3, 0x80, 0x8F, 4, start⟩
  else none

def admits (p : Pending) (b : UInt8) : Bool :=
  p.low ≤ b && b ≤ p.high

def codeWith (p : Pending) (b : UInt8) : Nat :=
  64 * p.code + (b.toNat - 0x80)

def next (p : Pending) (b : UInt8) : Pending :=
  ⟨p.needed - 1, 0x80, 0xBF, p.codeWith b, p.start⟩

end Pending

-- `read` holds the characters before `index`, last one first.
def decodeFrom (read : List Char) (index : Nat) :
    Option Pending → List UInt8 → Except Fault (List Char)
  | none, [] => .ok read.reverse
  | some p, [] => .error (.incomplete p.start)
  | none, b :: bs =>
    if b < 0x80 then decodeFrom (Char.ofNat b.toNat :: read) (index + 1) none bs
    else match Pending.ofLead? b index with
      | none => .error (.invalid 1 index)
      | some p => decodeFrom read (index + 1) (some p) bs
  | some p, b :: bs =>
    if p.admits b then
      if p.needed ≤ 1 then decodeFrom (Char.ofNat (p.codeWith b) :: read) (index + 1) none bs
      else decodeFrom read (index + 1) (some (p.next b)) bs
    else .error (.invalid (index - p.start) p.start)

def decode (bytes : List UInt8) : Except Fault (List Char) :=
  decodeFrom [] 0 none bytes

-- Takes one byte order mark off the start.
def dropByteOrderMark : List UInt8 → List UInt8
  | 0xEF :: 0xBB :: 0xBF :: bs => bs
  | bs => bs

-- The number of bytes of a text.
def size (cs : List Char) : Nat :=
  cs.foldl (fun n c => n + c.utf8Size) 0

end TypedRows.Text.Utf8
