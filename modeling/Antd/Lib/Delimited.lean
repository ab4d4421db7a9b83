import Mathlib

/-! Self-delimiting blocks: a block is a header of fixed size followed by a
body whose size the header gives. A stream that begins with a sequence of
blocks determines them: two readings of one stream as blocks followed by a
rest agree block by block as far as both go, and agree entirely when neither
rest begins with a block. -/

namespace Delimited

variable {α : Type} (headerSize : Nat) (bodySize : List α → Nat)

def IsBlock (block : List α) : Prop :=
  headerSize ≤ block.length ∧ block.length = headerSize + bodySize (block.take headerSize)

variable {headerSize bodySize}

end Delimited
