/-!
Hashes of texts and of tuples. Both work on words of 64 bits and wrap around.
-/

namespace SlotDispatch.Hash

/-- The hash of bytes mixes in one byte and multiplies by a prime, byte by byte. -/
def bytes (content : List UInt8) : Int64 :=
  (content.foldl (fun hash byte => (hash ^^^ byte.toUInt64) * 0x100000001b3)
    (0xcbf29ce484222325 : UInt64)).toInt64

/-- The hash of a text is the hash of its encoding in UTF-8. -/
def text (content : String) : Int64 :=
  bytes content.toUTF8.toList

/-- These primes mix the hashes of the items of a tuple. -/
def itemPrime : UInt64 := 14029467366897019727

/-- Each mixing step ends with a product by this prime. -/
def stepPrime : UInt64 := 11400714785074694791

/-- The mixing starts with this prime. -/
def startPrime : UInt64 := 2870177450012600261

/-- This is a word turned left by 31 places. -/
def rotate (word : UInt64) : UInt64 :=
  (word <<< 31) ||| (word >>> 33)

/-- One step mixes the hash of one item in. -/
def mix (accumulated : UInt64) (item : Int64) : UInt64 :=
  rotate (accumulated + item.toUInt64 * itemPrime) * stepPrime

/-- The hash of a tuple mixes the hashes of its items and then its length. -/
def tuple (items : List Int64) : Int64 :=
  let mixed := items.foldl mix startPrime
  let finished := mixed + (UInt64.ofNat items.length ^^^ (startPrime ^^^ 3527539))
  if finished.toInt64 = -1 then 1546275796 else finished.toInt64

/-- The hash -1 is reserved, and -2 stands for it. -/
def reserve (hash : Int64) : Int64 :=
  if hash = -1 then -2 else hash

theorem reserve_ne (hash : Int64) : reserve hash ≠ -1 := by
  unfold reserve
  split
  · decide
  · assumption

end SlotDispatch.Hash
