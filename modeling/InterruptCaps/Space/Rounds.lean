import InterruptCaps.Space.Resolve

/-! Resolution in machine words: a loop that reads one level in each round. Widths of levels and the
    bits that are left are bytes, pointers and guards are words of 64 bits. An operation on them has
    no result where it would not be exact: a difference below zero, a shift by all bits of a word or
    more, a sum or difference that a saturating operation would bring back into a byte. Nothing
    bounds the loop but the number of rounds that it is given. -/

namespace InterruptCaps

namespace Exact

/-- The difference of two bytes, unless it is below zero. -/
def sub? (a b : UInt8) : Option UInt8 := if b ≤ a then some (a - b) else none

/-- The sum of two bytes, unless it is no byte. -/
def add? (a b : UInt8) : Option UInt8 := if a ≤ 255 - b then some (a + b) else none

/-- The word without its low `n` bits, unless these are all of its bits. -/
def shiftRight? (w : UInt64) (n : UInt8) : Option UInt64 :=
  if n < 64 then some (w >>> n.toUInt64) else none

/-- The word above `n` low zeros, unless these are as many as it has bits. -/
def shiftLeft? (w : UInt64) (n : UInt8) : Option UInt64 :=
  if n < 64 then some (w <<< n.toUInt64) else none

/-- The word whose low `bits` bits are set; all are from 64 on. -/
def mask? (bits : UInt8) : Option UInt64 :=
  if 64 ≤ bits then some 0xffffffffffffffff else (shiftLeft? 1 bits).map (· - 1)

end Exact

/-- The first `width` of the low `remaining` bits, as a word. -/
def CapPtr.bitsAt? (p : CapPtr) (remaining width : UInt8) : Option UInt64 :=
  if width = 0 then some 0
  else do
    let shift ← Exact.sub? remaining width
    let value ← if 64 ≤ shift then some 0 else Exact.shiftRight? p.raw shift
    let mask ← Exact.mask? width
    return value &&& mask

namespace CNode

/-- The width of the node's guard as a byte. -/
def guardByte (node : CNode) : UInt8 := .ofNat node.guard.bits

/-- The width of the node's index as a byte. -/
def radixByte (node : CNode) : UInt8 := .ofNat node.radix

/-- Whether the first of the low `remaining` bits of `p` are the node's guard. -/
def admits? (node : CNode) (p : CapPtr) (remaining : UInt8) : Option Bool :=
  if node.guardByte = 0 then some true
  else if remaining < node.guardByte then some false
  else (p.bitsAt? remaining node.guardByte).map (· == node.guard.value)

/-- Whether the level can still be read; the sum of its widths may take more than a byte. -/
def fits (node : CNode) (remaining : UInt8) : Bool :=
  node.guardByte.toUInt16 + node.radixByte.toUInt16 ≤ remaining.toUInt16

/-- What is left after the level. -/
def consume? (node : CNode) (remaining : UInt8) : Option UInt8 :=
  (Exact.add? node.guardByte node.radixByte).bind (Exact.sub? remaining)

end CNode

/-- What a round of the loop comes to: a result, or another level to be read. -/
inductive Round where
  | done (result : Except SlotError SlotRef)
  | next (node : CNode) (remaining : UInt8)

namespace Space

/-- Reads a level and, unless it is the last one, the slot that it names. -/
def round? (s : Space) (p : CapPtr) (node : CNode) (remaining : UInt8) : Option Round := do
  if !(← node.admits? p remaining) then return .done (.error .guardMismatch)
  if !node.fits remaining then return .done (.error .depthMismatch)
  let below ← Exact.sub? remaining node.guardByte
  let index ← p.bitsAt? below node.radixByte
  let left ← node.consume? remaining
  let ref : SlotRef := ⟨node.id, index.toNat⟩
  if left = 0 then return .done (.ok ref)
  match s.slot ref with
  | .error e => return .done (.error e)
  | .ok ⟨.cnode next, _⟩ => return .next next left
  | .ok _ => return .done (.error .depthMismatch)

/-- The loop, over so many rounds at most. It has no result if it is not over by then. -/
def rounds? (s : Space) (p : CapPtr) :
    Nat → CNode → UInt8 → Option (Except SlotError SlotRef)
  | 0, _, _ => none
  | rounds + 1, node, remaining =>
    match s.round? p node remaining with
    | none => none
    | some (.done result) => some result
    | some (.next node remaining) => s.rounds? p rounds node remaining

/-- The slot that the low `depth` bits of `p` address, from `root` on, if it takes at most so many
    rounds to find it or to find that there is none. -/
def resolve? (s : Space) (rounds : Nat) (root : Cap) (p : CapPtr) (depth : Depth) :
    Option (Except SlotError SlotRef) :=
  match root with
  | .cnode node => s.rounds? p rounds node (.ofNat depth.remaining)
  | _ => some (.error .invalidRoot)

end Space

end InterruptCaps
