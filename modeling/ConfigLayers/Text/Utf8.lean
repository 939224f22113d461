/-! The UTF-8 form of characters. Bytes that form no character are found as the longest starts of one. -/
namespace ConfigLayers

abbrev Bytes := List UInt8

namespace Utf8

/-- What a first byte announces: its payload, how many bytes follow, and the span of the second byte. -/
structure Lead where
  payload : Nat
  more : Nat
  low : Nat
  high : Nat

def lead? (b : Nat) : Option Lead :=
  if b < 0x80 then some ⟨b, 0, 0, 0⟩
  else if b < 0xc2 then none
  else if b < 0xe0 then some ⟨b - 0xc0, 1, 0x80, 0xbf⟩
  else if b < 0xf0 then
    some ⟨b - 0xe0, 2, if b = 0xe0 then 0xa0 else 0x80, if b = 0xed then 0x9f else 0xbf⟩
  else if b < 0xf5 then
    some ⟨b - 0xf0, 3, if b = 0xf0 then 0x90 else 0x80, if b = 0xf4 then 0x8f else 0xbf⟩
  else none

/-- Reads `more` bytes into the payload, the first between the bounds; the result is none where one does
not fit, with the bytes from there on. -/
def follow (payload low high : Nat) : Nat → Bytes → Option Nat × Bytes
  | 0, bs => (some payload, bs)
  | _ + 1, [] => (none, [])
  | more + 1, b :: bs =>
    if low ≤ b.toNat && b.toNat ≤ high then follow (payload * 64 + b.toNat % 64) 0x80 0xbf more bs
    else (none, b :: bs)

theorem length_follow_le (payload low high more : Nat) (bs : Bytes) :
    (follow payload low high more bs).2.length ≤ bs.length := by
  induction more generalizing payload low high bs with
  | zero => simp [follow]
  | succ more ih =>
    cases bs with
    | nil => simp [follow]
    | cons b bs =>
      simp only [follow]
      split
      · exact Nat.le_succ_of_le (ih ..)
      · simp

/-- The characters of a text, with none for each longest start of a character that is cut off. -/
def units : Bytes → List (Option Char)
  | [] => []
  | b :: bs => match lead? b.toNat with
    | none => none :: units bs
    | some l =>
      have := length_follow_le l.payload l.low l.high l.more bs
      (follow l.payload l.low l.high l.more bs).1.map Char.ofNat
        :: units (follow l.payload l.low l.high l.more bs).2
termination_by bs => bs.length
decreasing_by all_goals simp_wf <;> omega

/-- The text, if every byte belongs to a character. -/
def decode? (bs : Bytes) : Option (List Char) :=
  (units bs).mapM id

/-- The text with a replacement character for what is no character. -/
def decodeLossy (bs : Bytes) : List Char :=
  (units bs).map fun c => c.getD (Char.ofNat 0xfffd)

def encodeChar (c : Char) : Bytes :=
  String.utf8EncodeChar c

def encode (cs : List Char) : Bytes :=
  cs.flatMap encodeChar

def size (s : String) : Nat :=
  (encode s.toList).length

end Utf8
end ConfigLayers
