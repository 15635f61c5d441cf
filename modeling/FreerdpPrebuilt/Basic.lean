import Mathlib.Data.List.Basic
import Mathlib.Tactic.Common

/-!
# Pointers, bytes and status codes

What every module of the model shares: raw pointers as addresses, byte strings,
and the FreeRDP status codes the callbacks return.
-/

namespace FreerdpPrebuilt

/-- A raw pointer, as its address. -/
abbrev Ptr := ℕ

/-- The null pointer. -/
abbrev Ptr.null : Ptr := 0

/-- A byte string: `&[u8]` or `Vec<u8>`. -/
abbrev Bytes := List UInt8

/-- The channel status codes the callbacks answer with. -/
inductive ChannelRc
  | ok
  | initializationError
  deriving DecidableEq, Repr

/-- `u32::MAX`. -/
def u32Max : ℕ := 4294967295

end FreerdpPrebuilt
