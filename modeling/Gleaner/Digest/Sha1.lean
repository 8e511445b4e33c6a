/-!
# SHA-1

The 160-bit digest of a list of bytes: the message is padded to blocks of 64 bytes, each block
is expanded to 80 words, and 80 rounds fold them into five words of state.
-/

set_option autoImplicit false

namespace Gleaner.Digest

structure Sha1State where
  a : UInt32
  b : UInt32
  c : UInt32
  d : UInt32
  e : UInt32

def Sha1State.initial : Sha1State :=
  ⟨0x67452301, 0xEFCDAB89, 0x98BADCFE, 0x10325476, 0xC3D2E1F0⟩

def rotateLeft (count : UInt32) (word : UInt32) : UInt32 :=
  (word <<< count) ||| (word >>> (32 - count))

/-- The `count` low bytes of a number, most significant first. -/
def bigEndian (count n : Nat) : List UInt8 :=
  (List.range count).map fun i => UInt8.ofNat (n >>> (8 * (count - 1 - i)))

/-- A one bit, zeros, and the length in bits, to a whole number of blocks. -/
def padded (message : List UInt8) : List UInt8 :=
  let size := message.length
  let zeros := (119 - size % 64) % 64
  message ++ 0x80 :: List.replicate zeros 0 ++ bigEndian 8 (size * 8)

def wordsOf : List UInt8 → List UInt32
  | a :: b :: c :: d :: rest =>
      ((a.toUInt32 <<< 24) ||| (b.toUInt32 <<< 16) ||| (c.toUInt32 <<< 8) ||| d.toUInt32) ::
        wordsOf rest
  | _ => []

/-- The sixteen words of a block followed by those made from them. -/
def schedule (block : Array UInt32) : Array UInt32 :=
  (List.range 64).foldl (fun words i =>
    let word := words.getD (i + 13) 0 ^^^ words.getD (i + 8) 0 ^^^ words.getD (i + 2) 0 ^^^
      words.getD i 0
    words.push (rotateLeft 1 word)) block

def mix (round : Nat) (s : Sha1State) : UInt32 × UInt32 :=
  if round < 20 then ((s.b &&& s.c) ||| ((~~~ s.b) &&& s.d), 0x5A827999)
  else if round < 40 then (s.b ^^^ s.c ^^^ s.d, 0x6ED9EBA1)
  else if round < 60 then ((s.b &&& s.c) ||| (s.b &&& s.d) ||| (s.c &&& s.d), 0x8F1BBCDC)
  else (s.b ^^^ s.c ^^^ s.d, 0xCA62C1D6)

def sha1Round (words : Array UInt32) (s : Sha1State) (round : Nat) : Sha1State :=
  let (f, k) := mix round s
  let next := rotateLeft 5 s.a + f + s.e + k + words.getD round 0
  ⟨next, s.a, rotateLeft 30 s.b, s.c, s.d⟩

def sha1Block (s : Sha1State) (block : Array UInt32) : Sha1State :=
  let t := (List.range 80).foldl (sha1Round (schedule block)) s
  ⟨s.a + t.a, s.b + t.b, s.c + t.c, s.d + t.d, s.e + t.e⟩

def sha1Blocks : Nat → List UInt32 → Sha1State → Sha1State
  | 0, _, s => s
  | fuel + 1, words, s =>
      if words.isEmpty then s
      else sha1Blocks fuel (words.drop 16) (sha1Block s (words.take 16).toArray)

def sha1 (message : List UInt8) : Sha1State :=
  let words := wordsOf (padded message)
  sha1Blocks words.length words .initial

def Sha1State.hex (s : Sha1State) : String :=
  let word (w : UInt32) : String :=
    let digits := Nat.toDigits 16 w.toNat
    String.ofList (List.replicate (8 - digits.length) '0' ++ digits)
  word s.a ++ word s.b ++ word s.c ++ word s.d ++ word s.e

def sha1Hex (text : String) : String :=
  (sha1 text.toUTF8.toList).hex

end Gleaner.Digest
