import InterruptCaps.Text.Hex

/-! Badges: a word that tells apart the copies of a capability and carries no authority. -/

namespace InterruptCaps

/-- The mark of one minted copy; zero is no mark. -/
structure Badge where
  value : UInt64
  deriving DecidableEq

namespace Badge

/-- The mark of an unminted capability. -/
def none : Badge := ⟨0⟩

def isNone (b : Badge) : Bool := b.value == 0

/-- The badge in a message. -/
def text (b : Badge) : String := if b.isNone then "none" else Text.hex b.value.toNat

/-- The badge in a diagnostic dump, at full width. -/
def debugText (b : Badge) : String :=
  if b.isNone then "Badge::NONE" else s!"Badge({Text.hexWide 16 b.value.toNat})"

end Badge

end InterruptCaps
