import Stepboard.Text.Quoted
import Stepboard.Memory.Word
/-!
# Segments

A labelled range of addresses whose low end is not above its high end.
-/

namespace Stepboard.Memory

/-- The bounds of a segment that came in the wrong order. -/
structure InvertedSegment where
  label : String
  low : Int
  high : Int
  deriving DecidableEq, Repr

def InvertedSegment.message (e : InvertedSegment) : String :=
  "segment " ++ Text.quote e.label ++ " has low 0x" ++ Numeral.hexWord e.low ++ " above high 0x" ++
    Numeral.hexWord e.high

/-- A labelled range of addresses, the high end excluded. -/
structure Segment where
  label : String
  low : Int
  high : Int
  low_le_high : low ≤ high := by omega
  deriving DecidableEq, Repr

namespace Segment

/-- The segment between two bounds, refused if they are in the wrong order. -/
def ofBounds (label : String) (low high : Int) : Except InvertedSegment Segment :=
  if h : low ≤ high then .ok ⟨label, low, high, h⟩ else .error ⟨label, low, high⟩

/-- The line that introduces a segment in a dump. -/
def heading (s : Segment) : String :=
  s.label ++ " [" ++ Numeral.hexWord s.low ++ "]..[" ++ Numeral.hexWord s.high ++ "]"

end Segment

end Stepboard.Memory
