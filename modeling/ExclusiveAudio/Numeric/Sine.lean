import ExclusiveAudio.Numeric.Binary64

/-!
The sine of numbers in double precision, as the platform computes it.

Nothing is known about its values here; statements about what is computed with it take the
sine as an argument.
-/

namespace ExclusiveAudio.Binary64

/-- The full circle, `2 * pi`. -/
def circle : Binary64 := ofBits 0x401921fb54442d18

def sine (x : Binary64) : Binary64 :=
  if x.isNaN then x.quiet
  else if x.isInfinite then nan
  else ofBits (Float.ofBits x.toBits).sin.toBits

end ExclusiveAudio.Binary64
