/-!
# Database images

Whether bytes are a database that something else has written.  The header at the front names the
format, the size of a page and the number of pages, and behind it the first page begins with the
kind of page that can list tables.
-/

namespace PartsList.DatabaseImage

/-- What every database begins with. -/
def magic : List UInt8 :=
  "SQLite format 3\x00".toUTF8.data.toList

/-- The number that `count` bytes from place `start` on write, the highest byte first. -/
def number (bytes : List UInt8) (start count : Nat) : Nat :=
  ((bytes.drop start).take count).foldl (fun number byte => 256 * number + byte.toNat) 0

/-- The sizes that a page can have. -/
def pageSizes : List Nat :=
  [512, 1024, 2048, 4096, 8192, 16384, 32768, 65536]

/-- The size of a page.  The largest one is written as one. -/
def pageSize (bytes : List UInt8) : Nat :=
  let size := number bytes 16 2
  if size = 1 then 65536 else size

/-- The header names a format that is known. -/
def hasFormat (bytes : List UInt8) : Bool :=
  magic.isPrefixOf bytes && number bytes 18 1 ≤ 2 && number bytes 19 1 ≤ 2 &&
    number bytes 21 3 == 0x402020 && number bytes 47 1 ≤ 4

/-- Pages have a size that they can have, and are not mostly set aside. -/
def hasPages (bytes : List UInt8) : Bool :=
  pageSizes.contains (pageSize bytes) && number bytes 20 1 + 480 ≤ pageSize bytes

/-- The bytes are as many pages as the header says, unless what it says is out of date. -/
def isComplete (bytes : List UInt8) : Bool :=
  number bytes 24 4 != number bytes 92 4 ||
    (number bytes 28 4 - 1) * pageSize bytes < bytes.length

/-- The bytes are a database. -/
def isImage (bytes : List UInt8) : Bool :=
  hasFormat bytes && hasPages bytes && isComplete bytes && [5, 13].contains (number bytes 100 1)

end PartsList.DatabaseImage
