/-!
Digests of messages. A message is filled up to whole blocks, each block is mixed into a few words,
and the words are the digest. The constants of the families are fractional parts of roots of primes
and of sines.
-/

namespace StudyFlow.Shell

namespace Digest

attribute [local instance (high)] instPowNat

/-- The largest number below a power of two whose power is not above a bound. -/
def rootBelow (power : Nat) : Nat → Nat → Nat → Nat
  | 0, _, found => found
  | bits + 1, bound, found =>
    let more := found + 2 ^ bits
    rootBelow power bits bound (if more ^ power ≤ bound then more else found)

/-- The first 64 binary places of the fractional part of a root. -/
def rootPlaces (power p : Nat) : Nat := rootBelow power 74 (p * 2 ^ (64 * power)) 0 % UInt64.size

def primes (count : Nat) : List Nat :=
  ((List.range 420).filter fun n => 2 ≤ n && (List.range n).all fun d => d < 2 ||
    n % d != 0).take count

def turnedLeft (width n x : Nat) : Nat := (x <<< n ||| x >>> (width - n)) % 2 ^ width

def turnedRight (width n x : Nat) : Nat := turnedLeft width (width - n) x

/-- The bits of a word, each one the other way. -/
def flipped (width x : Nat) : Nat := 2 ^ width - 1 - x

/-- The octets of a number, the highest first. -/
def octets (count n : Nat) : List Nat := (List.range count).reverse.map fun i =>
    (n >>> (8 * i)) % 256

/-- The octets of a message with the bit, the zeros and the length that fill it up to whole
blocks. -/
def filled (block lengthSize : Nat) (highFirst : Bool) (message : ByteArray) : Array Nat :=
  let own := message.toList.toArray.map UInt8.toNat
  let used := (own.size + 1 + lengthSize) % block
  let zeros := if used == 0 then 0 else block - used
  let length := octets lengthSize (8 * own.size)
  own ++ #[128] ++ Array.replicate zeros 0 ++ (if highFirst then length else length.reverse).toArray

def wordOf (highFirst : Bool) (bytes : List Nat) : Nat :=
  (if highFirst then bytes else bytes.reverse).foldl (fun n b => n * 256 + b) 0

def wordsAt (highFirst : Bool) (size : Nat) (message : Array Nat) (start count : Nat) : Array Nat :=
  (Array.range count).map fun i =>
    wordOf highFirst (message.extract (start + i * size) (start + (i + 1) * size)).toList

def mixed (block : Nat) (mix : Array Nat → Nat → Array Nat) (first : Array Nat)
    (size : Nat) : Array Nat :=
  (List.range (size / block)).foldl (fun state k => mix state (k * block)) first

/-- The text of octets in hexadecimal digits. -/
def hexText (bytes : List Nat) : String :=
  String.ofList (bytes.flatMap fun b => [Nat.digitChar (b / 16), Nat.digitChar (b % 16)])

/-- A family of digests that differ in the size of their words and in how far these are turned. -/
structure Family where
  width : Nat
  rounds : Nat
  large0 : Nat × Nat × Nat
  large1 : Nat × Nat × Nat
  /-- Two turns and a shift. -/
  small0 : Nat × Nat × Nat
  small1 : Nat × Nat × Nat

def narrow : Family := ⟨32, 64, (2, 13, 22), (6, 11, 25), (7, 18, 3), (17, 19, 10)⟩

def wide : Family := ⟨64, 80, (28, 34, 39), (14, 18, 41), (1, 8, 7), (19, 61, 6)⟩

def Family.constants (f : Family) : Array Nat :=
  ((primes f.rounds).map fun p => rootPlaces 3 p >>> (64 - f.width)).toArray

def Family.mix (f : Family) (constants message : Array Nat) (state : Array Nat)
    (start : Nat) : Array Nat :=
  let w := f.width
  let turned (t : Nat × Nat × Nat) (x : Nat) : Nat :=
    turnedRight w t.1 x ^^^ turnedRight w t.2.1 x ^^^ turnedRight w t.2.2 x
  let shifted (t : Nat × Nat × Nat) (x : Nat) : Nat :=
    turnedRight w t.1 x ^^^ turnedRight w t.2.1 x ^^^ (x >>> t.2.2)
  let schedule := (List.range (f.rounds - 16)).foldl (fun (ws : Array Nat) i =>
    let at_ (k : Nat) : Nat := ws[i + k]?.getD 0
    ws.push ((shifted f.small1 (at_ 14) + at_ 9 + shifted f.small0 (at_ 1) + at_ 0) % 2 ^ w))
    (wordsAt true (w / 8) message start 16)
  let last := (List.range f.rounds).foldl (fun (s : Array Nat) i =>
    match s.toList with
    | [a, b, c, d, e, g, h, k] =>
      let one := k + turned f.large1 e + ((e &&& g) ^^^ (flipped w e &&& h)) +
        constants[i]?.getD 0 +
        schedule[i]?.getD 0
      let two := turned f.large0 a + ((a &&& b) ^^^ (a &&& c) ^^^ (b &&& c))
      #[(one + two) % 2 ^ w, a, b, c, (d + one) % 2 ^ w, e, g, h]
    | _ => s) state
  (state.zip last).map fun x => (x.1 + x.2) % 2 ^ w

def Family.digest (f : Family) (first : List Nat) (keep : Nat) (message : ByteArray) : String :=
  let size := f.width / 8
  let bytes := filled (16 * size) (2 * size) true message
  let state := mixed (16 * size) (f.mix f.constants bytes) first.toArray bytes.size
  hexText ((state.toList.flatMap (octets size)).take keep)

def sha256 : ByteArray → String := narrow.digest ((primes 8).map fun p => rootPlaces 2 p >>> 32) 32

def sha224 : ByteArray → String :=
  narrow.digest (((primes 16).drop 8).map fun p => rootPlaces 2 p % UInt32.size) 28

def sha512 : ByteArray → String := wide.digest ((primes 8).map (rootPlaces 2)) 64

def sha384 : ByteArray → String := wide.digest (((primes 16).drop 8).map (rootPlaces 2)) 48

/-- Mixes a block of the older digest into five words. -/
def mixFive (message : Array Nat) (state : Array Nat) (start : Nat) : Array Nat :=
  let schedule := (List.range 64).foldl (fun (ws : Array Nat) i =>
    let at_ (k : Nat) : Nat := ws[i + k]?.getD 0
    ws.push (turnedLeft 32 1 (at_ 13 ^^^ at_ 8 ^^^ at_ 2 ^^^ at_ 0)))
      (wordsAt true 4 message start 16)
  let last := (List.range 80).foldl (fun (s : Array Nat) i =>
    match s.toList with
    | [a, b, c, d, e] =>
      let (choice, constant) :=
        if i < 20 then ((b &&& c) ||| (flipped 32 b &&& d), 0x5A827999)
        else if i < 40 then (b ^^^ c ^^^ d, 0x6ED9EBA1)
        else if i < 60 then ((b &&& c) ||| (b &&& d) ||| (c &&& d), 0x8F1BBCDC)
        else (b ^^^ c ^^^ d, 0xCA62C1D6)
      #[(turnedLeft 32 5 a + choice + e + constant + schedule[i]?.getD 0) % UInt32.size, a,
      turnedLeft 32 30 b, c, d]
    | _ => s) state
  (state.zip last).map fun x => (x.1 + x.2) % UInt32.size

def sha1 (message : ByteArray) : String :=
  let bytes := filled 64 8 true message
  let state := mixed 64 (mixFive bytes) #[0x67452301, 0xEFCDAB89, 0x98BADCFE, 0x10325476,
    0xC3D2E1F0] bytes.size
  hexText (state.toList.flatMap (octets 4))

/-- The constants of the oldest digest: the first 32 binary places of sines. -/
def sinePlaces : Array Nat :=
  (Array.range 64).map fun i => ((Float.sin (i + 1).toFloat).abs *
    4294967296.0).floor.toUInt64.toNat

/-- How far words are turned in a round of the oldest digest. -/
def turnAt (i : Nat) : Nat :=
  let four := if i < 16 then [7, 12, 17, 22] else if i < 32 then [5, 9, 14, 20]
    else if i < 48 then [4, 11, 16, 23] else [6, 10, 15, 21]
  four.getD (i % 4) 0

/-- Mixes a block of the oldest digest into four words. -/
def mixFour (message : Array Nat) (state : Array Nat) (start : Nat) : Array Nat :=
  let ws := wordsAt false 4 message start 16
  let constants := sinePlaces
  let last := (List.range 64).foldl (fun (s : Array Nat) i =>
    match s.toList with
    | [a, b, c, d] =>
      let (choice, k) :=
        if i < 16 then ((b &&& c) ||| (flipped 32 b &&& d), i)
        else if i < 32 then ((d &&& b) ||| (flipped 32 d &&& c), (5 * i + 1) % 16)
        else if i < 48 then (b ^^^ c ^^^ d, (3 * i + 5) % 16)
        else (c ^^^ (b ||| flipped 32 d), (7 * i) % 16)
      let sum := (a + choice + constants[i]?.getD 0 + ws[k]?.getD 0) % UInt32.size
      #[d, (b + turnedLeft 32 (turnAt i) sum) % UInt32.size, b, c]
    | _ => s) state
  (state.zip last).map fun x => (x.1 + x.2) % UInt32.size

def md5 (message : ByteArray) : String :=
  let bytes := filled 64 8 false message
  let state := mixed 64 (mixFour bytes) #[0x67452301, 0xEFCDAB89, 0x98BADCFE, 0x10325476] bytes.size
  hexText (state.toList.flatMap fun w => (octets 4 w).reverse)

def cyclicStep (check byte : Nat) : Nat :=
  (List.range 8).foldl (fun c _ => if c ≥ 2 ^ (31 : Nat) then
    (c * 2 % UInt32.size) ^^^ 0x04C11DB7 else c * 2)
    (check ^^^ (byte <<< 24))

/-- The cyclic check of a message, which takes in its length too, the lowest octet first and no more
of them than it has. -/
def cyclic (message : ByteArray) : Nat :=
  let rec lengthOctets : Nat → Nat → List Nat
    | 0, _ => []
    | fuel + 1, n => if n == 0 then [] else n % 256 :: lengthOctets fuel (n / 256)
  let body := message.toList.foldl (fun c b => cyclicStep c b.toNat) 0
  flipped 32 ((lengthOctets 8 message.size).foldl cyclicStep body)

/-- The check that is turned by a bit at each octet. -/
def turning (message : ByteArray) : Nat :=
  message.toList.foldl (fun c b => (c / 2 + (c % 2) * 32768 + b.toNat) % 65536) 0

/-- The sum of all octets, folded into 16 bits. -/
def folded (message : ByteArray) : Nat :=
  let s := message.toList.foldl (fun n b => n + b.toNat) 0 % UInt32.size
  let r := s % 65536 + s / 65536
  r % 65536 + r / 65536

end Digest

end StudyFlow.Shell
