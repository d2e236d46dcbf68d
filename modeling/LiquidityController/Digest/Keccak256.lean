import LiquidityController.Bytes.Number

/-!
# Keccak-256

The sponge over twenty-five lanes of 64 bits with a rate of 136 bytes. Its padding starts with a
single one bit, which sets the digest apart from that of SHA3-256.
-/

namespace LiquidityController

namespace Keccak256

/-- The twenty-five lanes; lane `(x, y)` is at place `5 * y + x`. -/
abbrev State : Type := List UInt64

def lane (s : State) (x y : Nat) : UInt64 :=
  s.getD (5 * y + x) 0

def State.ofLanes (f : Nat → Nat → UInt64) : State :=
  (List.range 25).map fun i => f (i % 5) (i / 5)

/-- Rotation to the left; by no bits it changes nothing. -/
def rotateLeft (word n : UInt64) : UInt64 :=
  if n = 0 then word else (word <<< n) ||| (word >>> (64 - n))

/-- How far each lane is rotated, in the order of the state. -/
def rotations : List UInt64 := [
  0, 1, 62, 28, 27,
  36, 44, 6, 55, 20,
  3, 10, 43, 25, 39,
  41, 45, 15, 21, 8,
  18, 2, 61, 56, 14]

def roundConstants : List UInt64 := [
  0x0000000000000001, 0x0000000000008082, 0x800000000000808a, 0x8000000080008000,
  0x000000000000808b, 0x0000000080000001, 0x8000000080008081, 0x8000000000008009,
  0x000000000000008a, 0x0000000000000088, 0x0000000080008009, 0x000000008000000a,
  0x000000008000808b, 0x800000000000008b, 0x8000000000008089, 0x8000000000008003,
  0x8000000000008002, 0x8000000000000080, 0x000000000000800a, 0x800000008000000a,
  0x8000000080008081, 0x8000000000008080, 0x0000000080000001, 0x8000000080008008]

/-- Each lane takes in the parities of two neighbouring columns. -/
def theta (s : State) : State :=
  let parity := (List.range 5).map fun x =>
    lane s x 0 ^^^ lane s x 1 ^^^ lane s x 2 ^^^ lane s x 3 ^^^ lane s x 4
  let effect := (List.range 5).map fun x =>
    parity.getD ((x + 4) % 5) 0 ^^^ rotateLeft (parity.getD ((x + 1) % 5) 0) 1
  State.ofLanes fun x y => lane s x y ^^^ effect.getD x 0

/-- The lanes are rotated and moved to new places. -/
def rhoPi (s : State) : State :=
  State.ofLanes fun x y =>
    let source := (x + 3 * y) % 5
    rotateLeft (lane s source x) (lane rotations source x)

/-- Each lane takes in a product of the two lanes to its right. -/
def chi (s : State) : State :=
  State.ofLanes fun x y =>
    lane s x y ^^^ (~~~lane s ((x + 1) % 5) y &&& lane s ((x + 2) % 5) y)

/-- The first lane takes in the constant of the round. -/
def iota (constant : UInt64) : State → State
  | [] => []
  | first :: rest => (first ^^^ constant) :: rest

def permute (s : State) : State :=
  roundConstants.foldl (fun s constant => iota constant (chi (rhoPi (theta s)))) s

/-- The number of bytes that one permutation takes in. -/
def rate : Nat := 136

/-- The message with a one bit, zeros and a last one bit, a multiple of the rate. -/
def padded (message : List UInt8) : List UInt8 :=
  let missing := rate - message.length % rate
  -- a single missing byte holds both one bits
  if missing = 1 then message ++ [0x81]
  else message ++ 0x01 :: List.replicate (missing - 2) 0 ++ [0x80]

/-- The first `n` lanes of a byte string, lowest byte first. -/
def lanes : Nat → List UInt8 → List UInt64
  | 0, _ => []
  | n + 1, bytes => UInt64.ofNat (ofLittleEndian (bytes.take 8)) :: lanes n (bytes.drop 8)

def absorb (s : State) (block : List UInt8) : State :=
  let input := lanes (rate / 8) block
  permute (State.ofLanes fun x y => lane s x y ^^^ lane input x y)

/-- The state after the first `n` blocks of a byte string. -/
def absorbBlocks : Nat → State → List UInt8 → State
  | 0, s, _ => s
  | n + 1, s, message => absorbBlocks n (absorb s (message.take rate)) (message.drop rate)

def laneBytes (word : UInt64) : List UInt8 :=
  toLittleEndian 8 word.toNat

end Keccak256

open Keccak256 in
def keccak256 (message : List UInt8) : Block 32 :=
  let text := padded message
  let s := absorbBlocks (text.length / rate) (List.replicate 25 0) text
  ⟨laneBytes (lane s 0 0) ++ laneBytes (lane s 1 0) ++ laneBytes (lane s 2 0) ++
    laneBytes (lane s 3 0), by simp [laneBytes]⟩

end LiquidityController
