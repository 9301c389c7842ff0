/-!
# Sources of random words

A source gives one word of 64 bits after the other. The scripted source gives words that were
chosen beforehand and then goes on with a mixing generator: a counter that moves on by an odd
constant, each of its values mixed by shifts and multiplications.
-/

namespace Reconnect.Sampling

/-- A source of random words. -/
class Source (ρ : Type) where
  /-- The next word, and the source after it. -/
  next : ρ → UInt64 × ρ

/-- Words chosen beforehand, and a mixing generator after them. -/
structure Scripted where
  words : List UInt64
  seed : UInt64
deriving DecidableEq, Repr

namespace Scripted

/-- Spreads the bits of a counter over the whole word. -/
def mix (z : UInt64) : UInt64 :=
  let z := (z ^^^ (z >>> 30)) * 0xbf58476d1ce4e5b9
  let z := (z ^^^ (z >>> 27)) * 0x94d049bb133111eb
  z ^^^ (z >>> 31)

/-- The next word chosen beforehand, or else the next mixed value of the counter. -/
def next (s : Scripted) : UInt64 × Scripted :=
  match s.words with
  | w :: words => (w, { s with words })
  | [] =>
    let seed := s.seed + 0x9e3779b97f4a7c15
    (mix seed, { s with seed })

instance : Source Scripted where
  next := next

end Scripted

end Reconnect.Sampling
