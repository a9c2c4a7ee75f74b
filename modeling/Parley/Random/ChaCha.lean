/-!
# The ChaCha12 word stream

A key of eight words determines an endless stream of 32-bit words, in blocks of sixteen: block `n`
is a fixed mixing of the key and `n`. `expand` stretches a 64-bit seed to a key.
-/

namespace Parley.ChaCha

/-- A key: eight words. -/
abbrev Key : Type := Vector UInt32 8

/-- The state that is mixed: sixteen words. -/
abbrev State : Type := Vector UInt32 16

/-- A word turned left by `n` bits, for `0 < n < 32`. -/
def rotateLeft (x : UInt32) (n : UInt32) : UInt32 := (x <<< n) ||| (x >>> (32 - n))

/-- Mix four words of a state. -/
def quarterRound (s : State) (a b c d : Fin 16) : State :=
  let xa := s[a] + s[b]
  let xd := rotateLeft (s[d] ^^^ xa) 16
  let xc := s[c] + xd
  let xb := rotateLeft (s[b] ^^^ xc) 12
  let ya := xa + xb
  let yd := rotateLeft (xd ^^^ ya) 8
  let yc := xc + yd
  let yb := rotateLeft (xb ^^^ yc) 7
  (((s.set a ya).set b yb).set c yc).set d yd

/-- Mix the columns, then the diagonals. -/
def doubleRound (s : State) : State :=
  let s := quarterRound s 0 4 8 12
  let s := quarterRound s 1 5 9 13
  let s := quarterRound s 2 6 10 14
  let s := quarterRound s 3 7 11 15
  let s := quarterRound s 0 5 10 15
  let s := quarterRound s 1 6 11 12
  let s := quarterRound s 2 7 8 13
  quarterRound s 3 4 9 14

/-- The state from which block `n` is mixed. -/
def start (key : Key) (n : UInt64) : State :=
  #v[0x61707865, 0x3320646e, 0x79622d32, 0x6b206574,
    key[0], key[1], key[2], key[3], key[4], key[5], key[6], key[7],
    n.toUInt32, (n >>> 32).toUInt32, 0, 0]

/-- Block `n` of the stream: the state after six double rounds, added to itself as it was. -/
def block (key : Key) (n : UInt64) : State :=
  let s := start key n
  s.zipWith (· + ·) (doubleRound (doubleRound (doubleRound
    (doubleRound (doubleRound (doubleRound s))))))

/-- The `n`-th pair of words of the stream as one number, its low half first. -/
def draw (key : Key) (n : Nat) : UInt64 :=
  let words := block key (n / 8).toUInt64
  let low : Fin 16 := ⟨2 * (n % 8), by omega⟩
  let high : Fin 16 := ⟨2 * (n % 8) + 1, by omega⟩
  words[low].toUInt64 ||| (words[high].toUInt64 <<< 32)

/-- One step of the sequence that stretches a seed. -/
def advance (x : UInt64) : UInt64 := x * 6364136223846793005 + 11634580027462260723

/-- The word that a member of the sequence gives. -/
def word (x : UInt64) : UInt32 :=
  let mixed := (((x >>> 18) ^^^ x) >>> 27).toUInt32
  let turn := (x >>> 59).toUInt32
  (mixed >>> turn) ||| (mixed <<< ((32 - turn) &&& 31))

/-- The key that a seed stands for. -/
def expand (seed : UInt64) : Key :=
  let x₁ := advance seed
  let x₂ := advance x₁
  let x₃ := advance x₂
  let x₄ := advance x₃
  let x₅ := advance x₄
  let x₆ := advance x₅
  let x₇ := advance x₆
  let x₈ := advance x₇
  #v[word x₁, word x₂, word x₃, word x₄, word x₅, word x₆, word x₇, word x₈]

end Parley.ChaCha
