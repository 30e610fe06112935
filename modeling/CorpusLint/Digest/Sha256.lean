import CorpusLint.Text.Basic

/-!
# SHA-256 digests

The digest of a text is that of its UTF-8 form. The message is padded and read as words
of four bytes, and every sixteen words are mixed into a state of eight. The schedule of a block is a
window of sixteen words that moves on by one word each round.

Main statements: a digest is written with 64 characters (`length_hex`), and all of them are
hexadecimal digits (`mem_hex`).
-/

namespace CorpusLint

namespace Sha256

/-- The state: eight words, under their usual letters. -/
structure State where
  a : UInt32
  b : UInt32
  c : UInt32
  d : UInt32
  e : UInt32
  f : UInt32
  g : UInt32
  h : UInt32
deriving DecidableEq, Repr

def initial : State :=
  ⟨0x6a09e667, 0xbb67ae85, 0x3c6ef372, 0xa54ff53a, 0x510e527f, 0x9b05688c, 0x1f83d9ab, 0x5be0cd19⟩

def constants : List UInt32 := [
  0x428a2f98, 0x71374491, 0xb5c0fbcf, 0xe9b5dba5, 0x3956c25b, 0x59f111f1, 0x923f82a4,
  0xab1c5ed5, 0xd807aa98, 0x12835b01, 0x243185be, 0x550c7dc3, 0x72be5d74, 0x80deb1fe,
  0x9bdc06a7, 0xc19bf174, 0xe49b69c1, 0xefbe4786, 0x0fc19dc6, 0x240ca1cc, 0x2de92c6f,
  0x4a7484aa, 0x5cb0a9dc, 0x76f988da, 0x983e5152, 0xa831c66d, 0xb00327c8, 0xbf597fc7,
  0xc6e00bf3, 0xd5a79147, 0x06ca6351, 0x14292967, 0x27b70a85, 0x2e1b2138, 0x4d2c6dfc,
  0x53380d13, 0x650a7354, 0x766a0abb, 0x81c2c92e, 0x92722c85, 0xa2bfe8a1, 0xa81a664b,
  0xc24b8b70, 0xc76c51a3, 0xd192e819, 0xd6990624, 0xf40e3585, 0x106aa070, 0x19a4c116,
  0x1e376c08, 0x2748774c, 0x34b0bcb5, 0x391c0cb3, 0x4ed8aa4a, 0x5b9cca4f, 0x682e6ff3,
  0x748f82ee, 0x78a5636f, 0x84c87814, 0x8cc70208, 0x90befffa, 0xa4506ceb, 0xbef9a3f7,
  0xc67178f2]

def rotate (n : UInt32) (w : UInt32) : UInt32 :=
  (w >>> n) ||| (w <<< (32 - n))

/-- One round: the state after a word of the schedule and its constant. -/
def State.round (s : State) (constant word : UInt32) : State :=
  let sum1 := rotate 6 s.e ^^^ rotate 11 s.e ^^^ rotate 25 s.e
  let choice := (s.e &&& s.f) ^^^ (~~~s.e &&& s.g)
  let first := s.h + sum1 + choice + constant + word
  let sum0 := rotate 2 s.a ^^^ rotate 13 s.a ^^^ rotate 22 s.a
  let majority := (s.a &&& s.b) ^^^ (s.a &&& s.c) ^^^ (s.b &&& s.c)
  ⟨first + sum0 + majority, s.a, s.b, s.c, s.d + first, s.e, s.f, s.g⟩

/-- The word that enters the window after sixteen others. -/
def nextWord (window : List UInt32) : UInt32 :=
  let w (i : Nat) := window.getD i 0
  let sigma0 := rotate 7 (w 1) ^^^ rotate 18 (w 1) ^^^ (w 1 >>> 3)
  let sigma1 := rotate 17 (w 14) ^^^ rotate 19 (w 14) ^^^ (w 14 >>> 10)
  sigma1 + w 9 + sigma0 + w 0

/-- The rounds of a block, one for each constant. -/
def rounds : List UInt32 → List UInt32 → State → State
  | [], _, s => s
  | constant :: rest, window, s =>
    rounds rest (window.tail ++ [nextWord window]) (s.round constant (window.headD 0))

/-- The state after a block of sixteen words. -/
def State.absorb (s : State) (block : List UInt32) : State :=
  let t := rounds constants block s
  ⟨s.a + t.a, s.b + t.b, s.c + t.c, s.d + t.d, s.e + t.e, s.f + t.f, s.g + t.g, s.h + t.h⟩

/-- The words of four bytes each, the first byte the highest. -/
def words : List UInt8 → List UInt32
  | a :: b :: c :: d :: rest =>
    (a.toUInt32 <<< 24 ||| b.toUInt32 <<< 16 ||| c.toUInt32 <<< 8 ||| d.toUInt32) :: words rest
  | _ => []

/-- A number of `count` bytes, the highest first. -/
def bigEndian : Nat → Nat → List UInt8
  | 0, _ => []
  | count + 1, n => bigEndian count (n / 256) ++ [UInt8.ofNat (n % 256)]

/-- The message brought to whole blocks: a bit, zeros, and the length in bits. -/
def pad (message : List UInt8) : List UInt8 :=
  message ++ 0x80 :: List.replicate ((119 - message.length % 64) % 64) 0 ++
    bigEndian 8 (8 * message.length)

/-- The state after all blocks of these words. -/
def absorbAll (s : State) (ws : List UInt32) : State :=
  if ws = [] then s else absorbAll (s.absorb (ws.take 16)) (ws.drop 16)
termination_by ws.length
decreasing_by
  simp only [List.length_drop]
  have := List.length_pos_iff.mpr (by assumption : ws ≠ [])
  omega

def hexWord (w : UInt32) : Text :=
  [28, 24, 20, 16, 12, 8, 4, 0].map (fun shift => Nat.digitChar ((w.toNat >>> shift) % 16))

def State.words (s : State) : List UInt32 :=
  [s.a, s.b, s.c, s.d, s.e, s.f, s.g, s.h]

/-- The digest of a text, in hexadecimal digits. -/
def hex (t : Text) : Text :=
  (absorbAll initial (words (pad t.utf8))).words.flatMap hexWord

theorem length_hex (t : Text) : (hex t).length = 64 := by
  simp [hex, State.words, hexWord]

theorem mem_hex {t : Text} {c : Char} (h : c ∈ hex t) : c ∈ "0123456789abcdef".toList := by
  have hdigit : ∀ n < 16, Nat.digitChar n ∈ "0123456789abcdef".toList := by decide
  obtain ⟨word, -, hword⟩ := List.mem_flatMap.1 h
  obtain ⟨shift, -, rfl⟩ := List.mem_map.1 hword
  exact hdigit _ (Nat.mod_lt _ (by decide))

end Sha256

end CorpusLint
