/-!
# Random numbers

A generator is a key of eight words and a position in the stream that the key determines: the words
of the ChaCha blocks with twelve rounds, one block after the other.  A seed of 64 bits is expanded
into a key.  Numbers below a bound are drawn without bias, by passing over the words that would
favour the smaller results.
-/

namespace ScriptHost

/-- The words of one block. -/
abbrev Block := Vector UInt32 16

namespace Block

def rotateLeft (x : UInt32) (n : UInt32) : UInt32 :=
  (x <<< n) ||| (x >>> (32 - n))

/-- One of the eight mixings of a double round, of four words. -/
def quarterRound (b : Block) (i j k l : Fin 16) : Block :=
  let b := b.set i (b[i] + b[j])
  let b := b.set l (rotateLeft (b[l] ^^^ b[i]) 16)
  let b := b.set k (b[k] + b[l])
  let b := b.set j (rotateLeft (b[j] ^^^ b[k]) 12)
  let b := b.set i (b[i] + b[j])
  let b := b.set l (rotateLeft (b[l] ^^^ b[i]) 8)
  let b := b.set k (b[k] + b[l])
  b.set j (rotateLeft (b[j] ^^^ b[k]) 7)

/-- Mixes the columns and then the diagonals. -/
def doubleRound (b : Block) : Block :=
  let b := b.quarterRound 0 4 8 12
  let b := b.quarterRound 1 5 9 13
  let b := b.quarterRound 2 6 10 14
  let b := b.quarterRound 3 7 11 15
  let b := b.quarterRound 0 5 10 15
  let b := b.quarterRound 1 6 11 12
  let b := b.quarterRound 2 7 8 13
  b.quarterRound 3 4 9 14

/-- So many double rounds. -/
def rounds : Nat → Block → Block
  | 0, b => b
  | n + 1, b => rounds n b.doubleRound

end Block

/-- The key of a stream. -/
abbrev StreamKey := Vector UInt32 8

/-- A place in the stream of a key. -/
structure Generator where
  key : StreamKey
  /-- How many words were taken. -/
  position : Nat
  deriving DecidableEq

namespace Generator

/-- The next state of the recurrence that expands a seed. -/
def advanceSeed (s : UInt64) : UInt64 :=
  s * 6364136223846793005 + 11634580027462260723

/-- The word that a state of the recurrence gives. -/
def seedWord (s : UInt64) : UInt32 :=
  let x : UInt32 := (((s >>> 18) ^^^ s) >>> 27).toUInt32
  let n : UInt32 := (s >>> 59).toUInt32
  (x >>> n) ||| (x <<< ((32 - n) % 32))

/-- The state of the recurrence after so many steps. -/
def seedState (seed : UInt64) : Nat → UInt64
  | 0 => seed
  | n + 1 => advanceSeed (seedState seed n)

/-- The stream of a seed, from its start. -/
def ofSeed (seed : UInt64) : Generator :=
  ⟨Vector.ofFn fun i ↦ seedWord (seedState seed (i + 1)), 0⟩

instance : Inhabited Generator := ⟨ofSeed 0⟩

/-- A block before mixing: four constant words, the key, the number of the block in two words, and
two zeros. -/
def input (key : StreamKey) (number : Nat) : Block :=
  #v[0x61707865, 0x3320646e, 0x79622d32, 0x6b206574, key[0], key[1], key[2], key[3], key[4],
    key[5], key[6], key[7], UInt32.ofNat number, UInt32.ofNat (number / UInt32.size), 0, 0]

/-- A block of the stream: the mixed words added to those before mixing. -/
def block (key : StreamKey) (number : Nat) : Block :=
  let start := input key number
  Vector.zipWith (· + ·) (start.rounds 6) start

/-- The next word of the stream. -/
def next (g : Generator) : UInt32 × Generator :=
  let i : Fin 16 := Fin.ofNat 16 (g.position % 16)
  ((block g.key (g.position / 16))[i], { g with position := g.position + 1 })

/-- The number of leading zero bits. -/
def leadingZeros (n : UInt32) : UInt32 :=
  if n = 0 then 32 else 31 - UInt32.ofNat n.toNat.log2

/-- Draws words until the product with `range` does not fall into the part that would favour some
results, at most `attempts` times; its upper half is the result. -/
def drawBelow (range : UInt32) : Nat → Generator → UInt32 × Generator
  | 0, g => (0, g)
  | attempts + 1, g =>
    let zone := (range <<< leadingZeros range) - 1
    let (word, g') := g.next
    let product := word.toNat * range.toNat
    if product % UInt32.size ≤ zone.toNat then (UInt32.ofNat (product / UInt32.size), g')
    else drawBelow range attempts g'

/-- The number of words after which a stream repeats; a search this long has seen every word. -/
def period : Nat := 16 * UInt64.size

/-- A number from zero up to below `max`; zero, without drawing, if `max` is not positive. -/
def below (g : Generator) (max : Int32) : Int32 × Generator :=
  if max ≤ 0 then (0, g)
  else
    let (n, g') := drawBelow max.toUInt32 period g
    (n.toInt32, g')

end Generator

end ScriptHost
