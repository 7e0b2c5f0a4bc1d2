import SlotDispatch.Configuration
import SlotDispatch.Toml.Document
/-!
The settings of a machine in a TOML document. A setting that is missing has its default, and entries
that are no settings do not count.
-/

namespace SlotDispatch.Configuration

open Toml (Document)

/-- A limit is an integer that fits an unsigned word of 64 bits. -/
def limit? (document : Document) (key : String) (default : Nat) : Option Nat :=
  match document.entries.get? [key] with
  | none => some default
  | some (.scalar (.integer number)) =>
      if 0 ≤ number && number < 0x10000000000000000 then some number.toNat else none
  | some _ => none

/-- A switch is a truth value. -/
def switch? (document : Document) (key : String) (default : Bool) : Option Bool :=
  match document.entries.get? [key] with
  | none => some default
  | some (.scalar (.boolean flag)) => some flag
  | some _ => none

/-- A configuration is read from the outermost table of a document. -/
def ofDocument? (document : Document) : Option Configuration := do
  let inlineCacheCapacity ←
    limit? document "inline_cache_capacity" default.inlineCacheCapacity
  let maxLinearization ← limit? document "max_mro_depth" default.maxLinearization
  let maxSequenceBytes ← limit? document "max_sequence_bytes" default.maxSequenceBytes
  let traceDispatch ← switch? document "trace_dispatch" default.traceDispatch
  return { inlineCacheCapacity, maxLinearization, maxSequenceBytes, traceDispatch }

/-- A text gives a configuration when it is a document with fitting settings. -/
def ofText? (text : String) : Option Configuration := do
  ofDocument? (← Document.ofText? text)

end SlotDispatch.Configuration
