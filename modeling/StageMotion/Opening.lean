import StageMotion.Block
import StageMotion.Settings

/-!
# Opening a stage

A stage opens with a palette, whose random numbers come from a permuted congruential generator: a
64-bit linear congruential generator whose states are scrambled into 32-bit words. Equal seeds give
equal draws; settings without a seed take one from outside.

* `Pcg.ofSeed` : the generator of a seed;
* `Pcg.word`, `Pcg.doubleWord` : one or two 32-bit words;
* `Pcg.unit` : a number below one, from the upper 53 bits of a double word;
* `Palette.ofSeed`, `Palette.ofSettings` : the palette of a stage.
-/

namespace StageMotion

/-! ## The generator -/

/-- A generator: its state, and the odd number that is added in each step. -/
structure Pcg where
  state : UInt64
  increment : UInt64
  deriving DecidableEq, Repr

namespace Pcg

/-- The factor of the congruence. -/
def multiplier : UInt64 := 6364136223846793005

/-- Moves the lowest `n` bits of a word to its upper end, `n` taken modulo 32. -/
def rotateRight (x n : UInt32) : UInt32 := (x >>> n) ||| (x <<< (32 - n))

/-- A word made of the upper bits of a state, rotated by an amount that the five highest give. -/
def scramble (state : UInt64) : UInt32 :=
  rotateRight (((state >>> 18) ^^^ state) >>> 27).toUInt32 (state >>> 59).toUInt32

/-- The generator one step later. -/
def step (g : Pcg) : Pcg := { g with state := g.state * multiplier + g.increment }

/-- The next word and the generator after it. -/
def word (g : Pcg) : UInt32 × Pcg := (scramble g.state, g.step)

/-- The next two words as one number, the lower half first. -/
def doubleWord (g : Pcg) : UInt64 × Pcg :=
  let (low, g) := g.word
  let (high, g) := g.word
  (low.toUInt64 ||| (high.toUInt64 <<< 32), g)

/-- The generator with a given first state and increment; the increment is made odd. -/
def ofParts (start increment : UInt64) : Pcg :=
  let increment := increment ||| 1
  step { state := start + increment, increment }

/-- The generator of a seed. A smaller generator stretches the seed to four words, and these are
the halves of the first state and of the increment. -/
def ofSeed (seed : UInt64) : Pcg :=
  let stretch (s : UInt64) : UInt64 := s * multiplier + 11634580027462260723
  let s₁ := stretch seed
  let s₂ := stretch s₁
  let s₃ := stretch s₂
  let s₄ := stretch s₃
  ofParts ((scramble s₁).toUInt64 ||| ((scramble s₂).toUInt64 <<< 32))
    ((scramble s₃).toUInt64 ||| ((scramble s₄).toUInt64 <<< 32))

/-- The next multiple of `2 ^ -53` below one. -/
def unit (g : Pcg) : Float × Pcg :=
  let (bits, g) := g.doubleWord
  ((bits >>> 11).toFloat / 9007199254740992.0, g)

instance : Draws Pcg Float := ⟨unit⟩

end Pcg

/-! ## The palette -/

namespace Palette

variable {α : Type}

/-- The palette of a playfield and a seed. -/
def ofSeed (field : Playfield α) (seed : UInt64) : Palette Pcg α := ⟨field, .ofSeed seed⟩

/-- The palette of a stage with given settings, and the note that it leaves. The seed `entropy` is
used if the settings have none. -/
def ofSettings (settings : Settings α) (entropy : UInt64) : Palette Pcg α × List (Note α) :=
  let seed := settings.seed.getD entropy
  (ofSeed settings.field seed, [.opened settings.stageWidth settings.stageHeight seed])

end Palette

end StageMotion
