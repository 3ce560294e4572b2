/-!
# Backoff

The delay before a further attempt doubles with every attempt made, from a base up to a
maximum. A random share of less than a tenth is added, so that many clients do not come back at
one time. Delays are milliseconds in 64-bit words; a result too large for a word is the largest
word.
-/

namespace HttpGateway

/-- The largest word. -/
def largestWord : UInt64 := 18446744073709551615

/-- The product of two words, or the largest word. -/
def saturatingMul (a b : UInt64) : UInt64 :=
  if a.toNat * b.toNat < UInt64.size then a * b else largestWord

/-- The sum of two words, or the largest word. -/
def saturatingAdd (a b : UInt64) : UInt64 :=
  if a.toNat + b.toNat < UInt64.size then a + b else largestWord

/-- A power of two, or the largest word. -/
def saturatingPowerOfTwo (exponent : UInt32) : UInt64 :=
  if exponent < 64 then (1 : UInt64) <<< exponent.toUInt64 else largestWord

/-- A schedule of delays in milliseconds. -/
structure Backoff where
  /-- The delay after the first attempt. -/
  base : UInt64
  /-- The greatest delay. -/
  greatest : UInt64
deriving DecidableEq, Repr

namespace Backoff

/-- The delay after some attempts, at least one, without the random share. -/
def floor (backoff : Backoff) (attempt : UInt32) : UInt64 :=
  min (saturatingMul backoff.base (saturatingPowerOfTwo (attempt - 1))) backoff.greatest

/-- The random share that a draw gives: below a tenth of the delay. -/
def share (delay draw : UInt64) : UInt64 := if delay / 10 = 0 then 0 else draw % (delay / 10)

/-- The delay before the next attempt after some attempts have failed. -/
def delay (backoff : Backoff) (attempt : UInt32) (draw : UInt64) : UInt64 :=
  if attempt = 0 then 0
  else saturatingAdd (backoff.floor attempt) (share (backoff.floor attempt) draw)

end Backoff

end HttpGateway
