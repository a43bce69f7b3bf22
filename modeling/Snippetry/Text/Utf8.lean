import Snippetry.Text.Basic

/-! # UTF-8: the bytes of a text, and the text of bytes -/
namespace Snippetry

abbrev Bytes := List UInt8

namespace Utf8

def encodeChar (c : Char) : Bytes :=
  let n := c.toNat
  let tail (shift : Nat) : UInt8 := (0x80 + n / shift % 64).toUInt8
  if n < 0x80 then [n.toUInt8]
  else if n < 0x800 then [(0xC0 + n / 64).toUInt8, tail 1]
  else if n < 0x10000 then [(0xE0 + n / 4096).toUInt8, tail 64, tail 1]
  else [(0xF0 + n / 262144).toUInt8, tail 4096, tail 64, tail 1]

def encode (t : Text) : Bytes := t.flatMap encodeChar

/-- What a first byte says: its part of the number, how many bytes follow, and the bounds of the
one right after it. -/
structure Lead where
  value : Nat
  following : Nat
  low : UInt8
  high : UInt8

def lead? (b : UInt8) : Option Lead :=
  let n := b.toNat
  if n < 0x80 then some ⟨n, 0, 0x80, 0xBF⟩
  else if n < 0xC2 then none
  else if n < 0xE0 then some ⟨n - 0xC0, 1, 0x80, 0xBF⟩
  else if n = 0xE0 then some ⟨0, 2, 0xA0, 0xBF⟩
  else if n = 0xED then some ⟨0xD, 2, 0x80, 0x9F⟩
  else if n < 0xF0 then some ⟨n - 0xE0, 2, 0x80, 0xBF⟩
  else if n = 0xF0 then some ⟨0, 3, 0x90, 0xBF⟩
  else if n < 0xF4 then some ⟨n - 0xF0, 3, 0x80, 0xBF⟩
  else if n = 0xF4 then some ⟨4, 3, 0x80, 0x8F⟩
  else none

/-- Read the following bytes, as far as they fit; what does not fit stays. -/
def follow : Nat → Nat → UInt8 → UInt8 → Bytes → Option Nat × Bytes
  | 0, n, _, _, bytes => (some n, bytes)
  | _ + 1, _, _, _, [] => (none, [])
  | k + 1, n, low, high, b :: bytes =>
    if low ≤ b ∧ b ≤ high then follow k (64 * n + (b.toNat - 0x80)) 0x80 0xBF bytes
    else (none, b :: bytes)

/-- One character from the front, or nothing for the bytes that only begin one. -/
def next (b : UInt8) (bytes : Bytes) : Option Char × Bytes :=
  match lead? b with
  | none => (none, bytes)
  | some l =>
    let (n, rest) := follow l.following l.value l.low l.high bytes
    (n.map Char.ofNat, rest)

theorem follow_length_le (k n : Nat) (low high : UInt8) (bytes : Bytes) :
    (follow k n low high bytes).2.length ≤ bytes.length := by
  fun_induction follow k n low high bytes with
  | case1 => exact Nat.le_refl _
  | case2 => exact Nat.le_refl _
  | case3 _ _ _ _ b bytes _ ih => exact Nat.le_succ_of_le ih
  | case4 => exact Nat.le_refl _

theorem next_length_le (b : UInt8) (bytes : Bytes) : (next b bytes).2.length ≤ bytes.length := by
  unfold next
  split
  · exact Nat.le_refl _
  · exact follow_length_le ..

/-- The characters of the bytes; `none` stands for bytes that are no character. -/
def chars : Bytes → List (Option Char)
  | [] => []
  | b :: bytes => (next b bytes).1 :: chars (next b bytes).2
termination_by bytes => bytes.length
decreasing_by exact Nat.lt_succ_of_le (next_length_le b bytes)

def decode? (bytes : Bytes) : Option Text := (chars bytes).mapM fun c => c

/-- Every run of bytes that is no character becomes one replacement character. -/
def decodeLossy (bytes : Bytes) : Text := (chars bytes).map (·.getD '\ufffd')

end Utf8
end Snippetry
