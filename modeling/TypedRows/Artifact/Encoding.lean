import TypedRows.Artifact.Archive

namespace TypedRows.Archive

abbrev Bytes := List UInt8

-- The lowest `width` bytes of a number, lowest first.
def littleEndian : (width : Nat) → Nat → Bytes
  | 0, _ => []
  | width + 1, n => n.toUInt8 :: littleEndian width (n / 256)

namespace Checksum

def shiftBit (r : UInt32) : UInt32 :=
  if r &&& 1 = 1 then (r >>> 1) ^^^ 0xEDB88320 else r >>> 1

def addByte (r : UInt32) (b : UInt8) : UInt32 :=
  (List.range 8).foldl (fun r _ => shiftBit r) (r ^^^ b.toUInt32)

-- The cyclic redundancy check of 32 bits with the reflected polynomial 0xEDB88320.
def ofBytes (bs : Bytes) : UInt32 :=
  bs.foldl addByte 0xFFFFFFFF ^^^ 0xFFFFFFFF

end Checksum

-- The greatest size of a stored block.
def blockSize : Nat := 65535

-- Contents are deflate streams, but only of stored blocks: nothing is compressed.
def storedBlock (isLast : Bool) (bs : Bytes) : Bytes :=
  (if isLast then 1 else 0) :: littleEndian 2 bs.length ++
    littleEndian 2 (blockSize - bs.length) ++ bs

-- One block, or several when one cannot hold everything.
def storedWithin : (fuel : Nat) → Bytes → Bytes
  | 0, bs => storedBlock true bs
  | fuel + 1, bs =>
    if bs.length ≤ blockSize then storedBlock true bs
    else storedBlock false (bs.take blockSize) ++ storedWithin fuel (bs.drop blockSize)

def stored (bs : Bytes) : Bytes :=
  storedWithin (bs.length / blockSize) bs

-- An entry as it is written, and where.
structure Record where
  name : Bytes
  checksum : Nat
  content : Bytes
  size : Nat
  offset : Nat

namespace Record

def ofUnit (offset : Nat) (u : SourceUnit) : Record :=
  let content := u.content.toUTF8.toList
  ⟨u.fileName.toUTF8.toList, (Checksum.ofBytes content).toNat, stored content, content.length,
    offset⟩

-- Says that names are encoded in UTF-8.
def flags : Nat := 0x0800

def version : Nat := 20

-- Headers of version 2.0 that come from a system with Unix permissions.
def maker : Nat := 3 * 256 + version

def dateNumber (d : Calendar.Date) : Nat :=
  (d.year - 1980).toNat * 512 + d.month * 32 + d.day

-- What the header of an entry and its line in the directory have in common.
def shared (r : Record) : Bytes :=
  littleEndian 2 version ++ littleEndian 2 flags ++ littleEndian 2 entryMethod ++
    littleEndian 2 0 ++ littleEndian 2 (dateNumber entryDate) ++ littleEndian 4 r.checksum ++
    littleEndian 4 r.content.length ++ littleEndian 4 r.size ++ littleEndian 2 r.name.length ++
    littleEndian 2 0

def entryBytes (r : Record) : Bytes :=
  littleEndian 4 0x04034B50 ++ shared r ++ r.name ++ r.content

def directoryBytes (r : Record) : Bytes :=
  littleEndian 4 0x02014B50 ++ littleEndian 2 maker ++ shared r ++ littleEndian 2 0 ++
    littleEndian 2 0 ++ littleEndian 2 0 ++ littleEndian 4 (entryMode * 65536) ++
    littleEndian 4 r.offset ++ r.name

end Record

def recordsFrom (offset : Nat) : List SourceUnit → List Record
  | [] => []
  | u :: us =>
    let r := Record.ofUnit offset u
    r :: recordsFrom (offset + r.entryBytes.length) us

def ending (count size offset : Nat) : Bytes :=
  littleEndian 4 0x06054B50 ++ littleEndian 2 0 ++ littleEndian 2 0 ++ littleEndian 2 count ++
    littleEndian 2 count ++ littleEndian 4 size ++ littleEndian 4 offset ++ littleEndian 2 0

def toBytes (a : Archive) : Bytes :=
  let records := recordsFrom 0 a.entries
  let entries := records.flatMap (·.entryBytes)
  let directory := records.flatMap (·.directoryBytes)
  entries ++ directory ++ ending records.length directory.length entries.length

end TypedRows.Archive
