import TextArt.Failure
import TextArt.Number.Reading

/-!
# Seeded scatter

A stream of numbers in `[0, 1)` that is fixed by a seed. The seed is spread over a pool of four
words by a multiplicative hash; the pool gives eight words, from which a 128-bit linear congruential
generator takes its start and its increment. Each draw advances the generator and folds its state to
64 bits by an exclusive or and a rotation; the upper 53 bits are the number.
-/

namespace TextArt.Scatter

/-! ## Spreading the seed -/

/-- A word and the running multiplier after hashing it in. -/
def hash (v h mult : UInt32) : UInt32 × UInt32 :=
  let v := v ^^^ h
  let h := h * mult
  let v := v * h
  (v ^^^ (v >>> 16), h)

/-- Two words mixed into one. -/
def mix (x y : UInt32) : UInt32 :=
  let r := x * 0xCA01F9DD - y * 0x4973F715
  r ^^^ (r >>> 16)

/-- Four words and the running multiplier. -/
structure Pool where
  /-- The words. -/
  words : Vector UInt32 4
  /-- The running multiplier. -/
  multiplier : UInt32

/-- The multiplier that seeds are hashed with. -/
def spread : UInt32 := 0x931E8875

/-- Hashes a word and puts it in a place. -/
def Pool.load (p : Pool) (i : Fin 4) (word : UInt32) : Pool :=
  let (v, h) := hash word p.multiplier spread
  ⟨p.words.set i v, h⟩

/-- Hashes a word and mixes it into a place. -/
def Pool.stir (p : Pool) (word : UInt32) (i : Fin 4) : Pool :=
  let (v, h) := hash word p.multiplier spread
  ⟨p.words.set i (mix p.words[i] v), h⟩

/-- The places of a pool. -/
def slots : List (Fin 4) := [0, 1, 2, 3]

/-- The pool of a seed: its first four words are loaded, every word of the pool is stirred into the
others, and the further words of the seed into all. -/
def Pool.ofSeed (seed : List UInt32) : Pool :=
  let start : Pool := ⟨Vector.replicate 4 0, 0x43B0D7E5⟩
  let loaded := slots.foldl (fun p i ↦ p.load i ((seed[i.val]?).getD 0)) start
  let stirred := slots.foldl (fun p source ↦
    (slots.filter (· ≠ source)).foldl (fun p i ↦ p.stir p.words[source] i) p) loaded
  (seed.drop 4).foldl (fun p word ↦ slots.foldl (fun p i ↦ p.stir word i) p) stirred

/-- Eight words drawn from a pool. -/
def Pool.output (p : Pool) : List UInt32 :=
  ((slots ++ slots).foldl (fun (out, h) i ↦
    let (v, h) := hash p.words[i] h 0x58F38DED
    (v :: out, h)) (([] : List UInt32), (0x8B51F9DD : UInt32))).1.reverse

/-! ## Drawing -/

/-- A generator between two draws. -/
structure Generator where
  /-- The state, below `2 ^ 128`. -/
  state : Nat
  /-- The increment, odd and below `2 ^ 128`. -/
  increment : Nat

/-- The generator one step further. -/
def Generator.step (g : Generator) : Generator :=
  { g with state := (g.state * 0x2360ED051FC65DA44385DF649FCCF645 + g.increment) % twoPow 128 }

/-- A number of up to four 32-bit words, the high ones first. -/
def joinWords (words : List UInt32) : Nat := words.foldl (fun n w ↦ n * 0x100000000 + w.toNat) 0

/-- The generator of a seed. -/
def Generator.ofSeed (seed : List UInt32) : Generator :=
  match (Pool.ofSeed seed).output with
  | [a, b, c, d, e, f, g, h] =>
    let increment := (joinWords [f, e, h, g] * 2 + 1) % twoPow 128
    let first := (Generator.step ⟨0, increment⟩).state + joinWords [b, a, d, c]
    Generator.step ⟨first % twoPow 128, increment⟩
  | _ => ⟨0, 1⟩

/-- The 64 bits that a state shows: its halves combined and turned right by its top six bits. -/
def Generator.bits (g : Generator) : Nat :=
  let folded := (g.state / twoPow 64) ^^^ (g.state % twoPow 64)
  let turn := g.state / twoPow 122
  folded / twoPow turn + folded * twoPow (64 - turn) % twoPow 64

/-- The next numbers of a generator. -/
def Generator.draws (g : Generator) : Nat → List Float
  | 0 => []
  | n + 1 =>
    let g := g.step
    Binary64.ofRatio false (g.bits / twoPow 11) (twoPow 53) :: g.draws n

/-- The numbers for the cells of a grid, row by row. -/
def field (seed : List UInt32) (width height : Nat) : Array Float :=
  ((Generator.ofSeed seed).draws (width * height)).toArray

/-! ## Seeds -/

/-- The words of a whole number, the low ones first; zero is one word. -/
def wordsOf (n : Nat) : List UInt32 :=
  if n < 0x100000000 then [UInt32.ofNat n]
  else UInt32.ofNat (n % 0x100000000) :: wordsOf (n / 0x100000000)
termination_by n
decreasing_by omega

/-- The words of a seed that has to be a whole number. -/
def seedOfInt (n : Int) : Outcome (List UInt32) :=
  if n < 0 then .error .badValue else .ok (wordsOf n.toNat)

/-- A seed written as text: a whole number that starts with a digit, or hexadecimal digits after
`0x`. -/
def seedText? (s : List CodePoint) : Option Nat :=
  match s with
  | .char '0' :: .char 'x' :: rest =>
    if rest.isEmpty then none
    else rest.foldlM (fun n c ↦ (Text.hexValue? c).map (16 * n + ·)) 0
  | c :: _ =>
    if c.isDigit then
      match readWhole s with
      | .number n => some n.toNat
      | _ => none
    else none
  | [] => none

mutual

/-- The words of a part of a seed: a whole number that is not negative, such a number as text, or a
list of parts. -/
def seedPart : Value → Outcome (List UInt32)
  | .bool b => .ok (wordsOf (if b then 1 else 0))
  | .int n => seedOfInt n
  | .str s =>
    match seedText? s.toList with
    | some n => .ok (wordsOf n)
    | none => .error .badValue
  | .list parts => seedParts parts
  | _ => .error .wrongType

/-- The words of several parts of a seed, one after the other. -/
def seedParts : List Value → Outcome (List UInt32)
  | [] => .ok []
  | v :: rest => do
    let first ← seedPart v
    let more ← seedParts rest
    .ok (first ++ more)

end

/-- The words of a seed: a whole number or a list. -/
def seedOf : Value → Outcome (List UInt32)
  | .str _ => .error .wrongType
  | v => seedPart v

end TextArt.Scatter
