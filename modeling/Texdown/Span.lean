/-!
# Spans

A span is a half-open range of offsets into a text.
-/
namespace Texdown

/-- The offsets from `start` up to, and without, `stop`. -/
structure Span where
  start : Nat
  stop : Nat
  deriving DecidableEq, Repr

namespace Span

def empty (i : Nat) : Span := ⟨i, i⟩

/-- The number of offsets; negative if the span is written the wrong way round. -/
def length (s : Span) : Int := s.stop - s.start

/-- The span without its first and last `n` offsets. -/
def shrink (s : Span) (n : Nat) : Span := ⟨s.start + n, s.stop - n⟩

end Span
end Texdown
