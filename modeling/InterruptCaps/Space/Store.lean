import InterruptCaps.Space.Resolve

/-! What the kernel asks of the place where capabilities are kept: find a destination, see that it
    is empty, put a new capability into it. Each may fail, also the last one after the others went
    well; a store that refuses a capability stays as it was. The capability space is such a store.
    -/

namespace InterruptCaps

/-- A place that keeps capabilities. -/
class SlotStore (S : Type) where
  /-- The slot that two words address from a root capability on. -/
  lookup : S → Cap → UInt64 → UInt64 → Except SlotError SlotRef
  /-- Whether a slot can be filled. -/
  ensureEmpty : S → SlotRef → Except SlotError Unit
  /-- The store with a capability, derived from the first slot, in the second. -/
  insert : S → Cap → SlotRef → SlotRef → Except SlotError S

instance : SlotStore Space where
  lookup := Space.lookup
  ensureEmpty := Space.ensureEmpty
  insert := Space.insert

end InterruptCaps
