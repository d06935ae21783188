import Hub75.Driver.Gpdma2d

namespace Hub75
namespace Driver
namespace Gpdma

open Machine Gpdma2d

/-!
# The two GPDMA backends

The features of the crate select one of two descriptor formats, and with it the
builder and the patch loop.  Everything else is shared.  `Backend` names the
choice, so that a statement can be made about both formats at once; each
component is the definition of the corresponding source function.
-/

inductive Backend
  | linear
  | twoD
deriving DecidableEq, Repr

namespace Backend

abbrev Config : Backend -> Type
  | linear => LinearItemConfig
  | twoD => TwoDConfig

abbrev Item : Backend -> Type
  | linear => LinearItem
  | twoD => TwoDItem

instance instDescriptor : (backend : Backend) -> Descriptor backend.Item
  | linear => inferInstanceAs (Descriptor LinearItem)
  | twoD => inferInstanceAs (Descriptor TwoDItem)

abbrev capacity : Backend -> Nat
  | linear => maxDescriptors
  | twoD => maxSegments

def itemSize : Backend -> Nat
  | linear => linearItemSize
  | twoD => twoDItemSize

/-- The message of the base/end assertion. -/
def regionPanic : Backend -> Panic
  | linear => .chainSpansBoundary
  | twoD => .chain2dSpansBoundary

def plan : (backend : Backend) -> backend.Config -> BlockPlan
  | linear => LinearItemConfig.plan
  | twoD => TwoDConfig.plan

def build : (backend : Backend) -> Profile -> ItemApi backend.Config backend.Item -> Addr ->
    Vector backend.Item backend.capacity -> FrameBuffer -> Addr -> WordSize -> Nat ->
    Except Panic (Vector backend.Item backend.capacity × Nat)
  | linear => buildItemChain
  | twoD => buildItemChain2d

def applyDelta : (backend : Backend) -> Vector backend.Item backend.capacity -> Nat -> Addr ->
    Vector backend.Item backend.capacity
  | linear => applyItemDelta
  | twoD => applyItemDelta2d

/-- The patch loop as a sequence of stores. -/
theorem applyDelta_eq (backend : Backend) (items : Vector backend.Item backend.capacity)
    (count : Nat) (delta : Addr) :
    backend.applyDelta items count delta =
      patchItems items delta (min count backend.capacity) := by
  cases backend <;> rfl

end Backend
end Gpdma
end Driver
end Hub75
