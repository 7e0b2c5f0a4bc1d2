/-!
The limits of a machine.
-/

namespace SlotDispatch

/-- A process has addresses of 47 bits, and it can use no more bytes than these. -/
def isAddressable (bytes : Nat) : Bool :=
  bytes < 0x800000000000

/-- A configuration fixes the limits of a machine. -/
structure Configuration where
  /-- A call site remembers at most this many pairs of types, and none when it is zero. -/
  inlineCacheCapacity : Nat
  /-- A linearization has at most this many types. -/
  maxLinearization : Nat
  /-- A repetition of a sequence has at most this many bytes. -/
  maxSequenceBytes : Nat
  /-- A dispatch may be written to a log, which has no effect on its result. -/
  traceDispatch : Bool
  /-- A number of bytes can be reserved, or it cannot. When no more is known of the memory, everything
  that has an address can be reserved. -/
  hasMemory : Nat → Bool := isAddressable

namespace Configuration

/-- These are the limits of a machine that is not configured. -/
def default : Configuration :=
  { inlineCacheCapacity := 4
    maxLinearization := 256
    maxSequenceBytes := 0x80000000
    traceDispatch := false }

end Configuration

end SlotDispatch
