/-!
UTF-8 over byte lists. Reading never fails: every maximal invalid part becomes one replacement
character. The reader is a machine that takes one byte at a time, so how the bytes were cut into
chunks cannot matter.
-/

namespace RowFerry.Text.Utf8

/-- The character that stands for an invalid part. -/
def replacement : Char := '\ufffd'

/-- Where the reader stands between bytes: before a character, or inside one that needs `left` more
bytes, the next of them between `low` and `high`. -/
inductive State where
  | start
  | inside (value left low high : Nat)
  deriving Repr, DecidableEq

/-- The first byte of a character: the characters it completes and where it leads. -/
def lead (b : Nat) : List Char × State :=
  if b < 0x80 then ([Char.ofNat b], .start)
  else if b < 0xC2 then ([replacement], .start)
  else if b < 0xE0 then ([], .inside (b - 0xC0) 1 0x80 0xBF)
  else if b = 0xE0 then ([], .inside 0 2 0xA0 0xBF)
  else if b = 0xED then ([], .inside 0xD 2 0x80 0x9F)
  else if b < 0xF0 then ([], .inside (b - 0xE0) 2 0x80 0xBF)
  else if b = 0xF0 then ([], .inside 0 3 0x90 0xBF)
  else if b < 0xF4 then ([], .inside (b - 0xF0) 3 0x80 0xBF)
  else if b = 0xF4 then ([], .inside 4 3 0x80 0x8F)
  else ([replacement], .start)

/-- One byte. A byte that cannot continue the character ends the invalid part before it and is read
as a first byte. -/
def State.step : State → Nat → List Char × State
  | .start, b => lead b
  | .inside value left low high, b =>
    if low ≤ b && b ≤ high then
      let value := value * 64 + (b - 0x80)
      if left = 1 then ([Char.ofNat value], .start) else ([], .inside value (left - 1) 0x80 0xBF)
    else
      let (cs, s) := lead b
      (replacement :: cs, s)

/-- What an unfinished character at the end of the bytes leaves. -/
def State.rest : State → List Char
  | .start => []
  | .inside .. => [replacement]

/-- Reads the bytes on from a state, after the characters in `done` (the last one first). -/
def readOn (s : State) (done : List Char) : List UInt8 → List Char
  | [] => (s.rest ++ done).reverse
  | b :: bs =>
    let (cs, t) := s.step b.toNat
    readOn t (cs.reverse ++ done) bs

/-- The text of a byte list, invalid parts replaced. -/
def read (bytes : List UInt8) : String := String.ofList (readOn .start [] bytes)

/-- The bytes of one character. -/
def charBytes (c : Char) : List UInt8 :=
  let n := c.toNat
  if n < 0x80 then [.ofNat n]
  else if n < 0x800 then [.ofNat (0xC0 + n / 64), .ofNat (0x80 + n % 64)]
  else if n < 0x10000 then
    [.ofNat (0xE0 + n / 4096), .ofNat (0x80 + n / 64 % 64), .ofNat (0x80 + n % 64)]
  else
    [.ofNat (0xF0 + n / 262144), .ofNat (0x80 + n / 4096 % 64), .ofNat (0x80 + n / 64 % 64),
      .ofNat (0x80 + n % 64)]

/-- The bytes of a text. -/
def bytes (text : String) : List UInt8 := text.toList.flatMap charBytes

/-- The number of bytes of a text. -/
def size (text : String) : Nat := text.toList.foldl (fun n c => n + (charBytes c).length) 0

end RowFerry.Text.Utf8
