/-!
Fingerprints of texts: the 64-bit xxHash with seed zero of their octets, written as sixteen
hexadecimal digits.
-/

set_option autoImplicit false

namespace FlowSpec.Digest

def prime1 : UInt64 := 0x9E3779B185EBCA87
def prime2 : UInt64 := 0xC2B2AE3D27D4EB4F
def prime3 : UInt64 := 0x165667B19E3779F9
def prime4 : UInt64 := 0x85EBCA77C2B2AE63
def prime5 : UInt64 := 0x27D4EB2F165667C5

def rotateLeft (x : UInt64) (bits : UInt64) : UInt64 := (x <<< bits) ||| (x >>> (64 - bits))

/-- A word from octets, the least significant first. -/
def word : List UInt8 → UInt64
  | [] => 0
  | octet :: rest => octet.toUInt64 ||| (word rest <<< 8)

def round (acc input : UInt64) : UInt64 := rotateLeft (acc + input * prime2) 31 * prime1

def mergeRound (acc lane : UInt64) : UInt64 := (acc ^^^ round 0 lane) * prime1 + prime4

/-- Four running values. -/
structure Lanes where
  a : UInt64 := prime1 + prime2
  b : UInt64 := prime2
  c : UInt64 := 0
  d : UInt64 := 0 - prime1

def Lanes.absorb (lanes : Lanes) (block : List UInt8) : Lanes :=
  { a := round lanes.a (word (block.take 8))
    b := round lanes.b (word ((block.drop 8).take 8))
    c := round lanes.c (word ((block.drop 16).take 8))
    d := round lanes.d (word ((block.drop 24).take 8)) }

def Lanes.merge (lanes : Lanes) : UInt64 :=
  let sum :=
    rotateLeft lanes.a 1 + rotateLeft lanes.b 7 + rotateLeft lanes.c 12 + rotateLeft lanes.d 18
  mergeRound (mergeRound (mergeRound (mergeRound sum lanes.a) lanes.b) lanes.c) lanes.d

/-- Absorbs blocks of 32 octets; what is left is shorter. -/
def blocks (octets : List UInt8) (lanes : Lanes) : Lanes × List UInt8 :=
  if octets.length < 32 then (lanes, octets)
  else blocks (octets.drop 32) (lanes.absorb (octets.take 32))
termination_by octets.length
decreasing_by
  simp only [List.length_drop]
  omega

/-- Absorbs the rest: words, then a half word, then single octets. -/
def tail (octets : List UInt8) (acc : UInt64) : UInt64 :=
  if octets.length ≥ 8 then
    tail (octets.drop 8) (rotateLeft (acc ^^^ round 0 (word (octets.take 8))) 27 * prime1 + prime4)
  else if octets.length ≥ 4 then
    tail (octets.drop 4) (rotateLeft (acc ^^^ (word (octets.take 4) * prime1)) 23 * prime2 + prime3)
  else match octets with
    | [] => acc
    | octet :: rest => tail rest (rotateLeft (acc ^^^ (octet.toUInt64 * prime5)) 11 * prime1)
termination_by octets.length
decreasing_by
  all_goals simp only [List.length_drop, List.length_cons]
  all_goals omega

def avalanche (h : UInt64) : UInt64 :=
  let h := (h ^^^ (h >>> 33)) * prime2
  let h := (h ^^^ (h >>> 29)) * prime3
  h ^^^ (h >>> 32)

/-- The hash of a text's octets. -/
def hash (text : String) : UInt64 :=
  let octets := text.toUTF8.toList
  let count := octets.length.toUInt64
  if octets.length < 32 then avalanche (tail octets (prime5 + count))
  else
    let (lanes, rest) := blocks octets {}
    avalanche (tail rest (lanes.merge + count))

/-- The hash in sixteen digits. -/
def hex (text : String) : String :=
  let digits := Nat.toDigits 16 (hash text).toNat
  String.ofList (List.replicate (16 - digits.length) '0' ++ digits)

end FlowSpec.Digest
