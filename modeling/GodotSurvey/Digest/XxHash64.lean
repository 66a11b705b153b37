import GodotSurvey.Text.Number

/-!
# The 64-bit xxHash

Four lanes take the text in stripes of 32 bytes, then they are merged and the last bytes are mixed
in. The seed is 0.
-/

namespace GodotSurvey.XxHash64

def prime1 : UInt64 := 0x9E3779B185EBCA87
def prime2 : UInt64 := 0xC2B2AE3D27D4EB4F
def prime3 : UInt64 := 0x165667B19E3779F9
def prime4 : UInt64 := 0x85EBCA77C2B2AE63
def prime5 : UInt64 := 0x27D4EB2F165667C5

/-- Rotation to the left by `n` bits, where `0 < n < 64`. -/
def rotateLeft (x n : UInt64) : UInt64 := (x <<< n) ||| (x >>> (64 - n))

/-- The number written by bytes, the least significant first. -/
def littleEndian (bytes : List UInt8) : UInt64 :=
  bytes.foldr (fun b n => (n <<< 8) ||| b.toUInt64) 0

/-- One lane takes eight bytes. -/
def round (lane input : UInt64) : UInt64 := rotateLeft (lane + input * prime2) 31 * prime1

structure Lanes where
  a : UInt64 := prime1 + prime2
  b : UInt64 := prime2
  c : UInt64 := 0
  d : UInt64 := 0 - prime1

/-- Each lane takes its part of a stripe of 32 bytes. -/
def Lanes.absorb (l : Lanes) (s : Text) : Lanes where
  a := round l.a (littleEndian (s.take 8))
  b := round l.b (littleEndian ((s.drop 8).take 8))
  c := round l.c (littleEndian ((s.drop 16).take 8))
  d := round l.d (littleEndian ((s.drop 24).take 8))

/-- Absorbs `n` stripes. -/
def absorbStripes : (n : Nat) → Lanes → Text → Lanes
  | 0, l, _ => l
  | n + 1, l, s => absorbStripes n (l.absorb s) (s.drop 32)

def mergeRound (h lane : UInt64) : UInt64 := (h ^^^ round 0 lane) * prime1 + prime4

def Lanes.merge (l : Lanes) : UInt64 :=
  let h := rotateLeft l.a 1 + rotateLeft l.b 7 + rotateLeft l.c 12 + rotateLeft l.d 18
  mergeRound (mergeRound (mergeRound (mergeRound h l.a) l.b) l.c) l.d

/-- Mixes in words of eight bytes, `n` of them. -/
def mixWords : (n : Nat) → UInt64 → Text → UInt64
  | 0, h, _ => h
  | n + 1, h, s =>
    let h := h ^^^ round 0 (littleEndian (s.take 8))
    mixWords n (rotateLeft h 27 * prime1 + prime4) (s.drop 8)

/-- Mixes in the bytes that make no word. -/
def mixBytes (h : UInt64) (s : Text) : UInt64 :=
  s.foldl (fun h b => rotateLeft (h ^^^ (b.toUInt64 * prime5)) 11 * prime1) h

/-- Mixes in the last bytes, fewer than 32. -/
def mixTail (h : UInt64) (s : Text) : UInt64 :=
  let words := s.length / 8
  let h := mixWords words h s
  let s := s.drop (8 * words)
  if 4 ≤ s.length then
    let h := h ^^^ (littleEndian (s.take 4) * prime1)
    mixBytes (rotateLeft h 23 * prime2 + prime3) (s.drop 4)
  else mixBytes h s

/-- The last scrambling of the bits. -/
def avalanche (h : UInt64) : UInt64 :=
  let h := (h ^^^ (h >>> 33)) * prime2
  let h := (h ^^^ (h >>> 29)) * prime3
  h ^^^ (h >>> 32)

/-- The hash of a text. -/
def hash (s : Text) : UInt64 :=
  let n := s.length
  let stripes := n / 32
  let h := if stripes == 0 then prime5 else (absorbStripes stripes {} s).merge
  avalanche (mixTail (h + n.toUInt64) (s.drop (32 * stripes)))

/-- The hash in hexadecimal, without leading zeros. -/
def hex (s : Text) : Text := Text.hexOfNat (hash s).toNat

end GodotSurvey.XxHash64
