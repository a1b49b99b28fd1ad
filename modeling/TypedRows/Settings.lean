import TypedRows.Csv.Reader
import TypedRows.Failure
import TypedRows.Logging

namespace TypedRows

open Text

structure Settings where
  maxInputBytes : Nat := 5 * 1024 * 1024
  sampleRows : Nat := 1000
  delimiter : Char := ','
  outputDirectory : String := "output"
  archiveName : String := "codegen"
  withIndex : Bool := false
  inParallel : Bool := true
  logging : Option Logging := none
  deriving DecidableEq, Repr

namespace Settings

-- The first setting with which every request would fail.
def fault? (s : Settings) : Option String :=
  if s.maxInputBytes = 0 then some "limits.max_input_bytes must be greater than 0"
  else if s.sampleRows = 0 then some "csv.sample_rows must be greater than 0"
  else if 0x80 ≤ s.delimiter.toNat then some "csv.delimiter must be an ASCII character"
  else if (trimChars s.archiveName.toList).isEmpty then
    some "output.archive_prefix must not be empty"
  else none

def csvOptions (s : Settings) : Csv.Options :=
  { sampleRows := s.sampleRows, delimiter := s.delimiter.toNat.toUInt8 }

end Settings
end TypedRows
