/-!
# Decoding bytes that may not be UTF-8

A well-formed byte sequence is decoded as it is. In any other, each maximal part that could have
begun a character but does not go on as one is replaced by one U+FFFD, and so is each byte that
begins none.
-/

namespace Testbed.Text.Utf8

/-- Where the decoder stands in a sequence of bytes. -/
inductive State where
  /-- At the first byte of a character. -/
  | start
  /-- Inside a character: how many bytes it lacks, the range of the next one, and the value of the
  bits read so far. -/
  | inside (missing : Nat) (low high : UInt8) (bits : Nat)
  deriving Repr, DecidableEq

/-- The character that stands for undecodable bytes. -/
def replacement : Char := '\ufffd'

/-- What a first byte yields and where it leads. The ranges of second bytes leave out overlong
forms, surrogates and values above U+10FFFF. -/
def lead (b : UInt8) : List Char × State :=
  if b < 0x80 then ([Char.ofNat b.toNat], .start)
  else if b < 0xc2 then ([replacement], .start)
  else if b < 0xe0 then ([], .inside 1 0x80 0xbf (b.toNat % 32))
  else if b == 0xe0 then ([], .inside 2 0xa0 0xbf (b.toNat % 16))
  else if b == 0xed then ([], .inside 2 0x80 0x9f (b.toNat % 16))
  else if b < 0xf0 then ([], .inside 2 0x80 0xbf (b.toNat % 16))
  else if b == 0xf0 then ([], .inside 3 0x90 0xbf (b.toNat % 8))
  else if b < 0xf4 then ([], .inside 3 0x80 0xbf (b.toNat % 8))
  else if b == 0xf4 then ([], .inside 3 0x80 0x8f (b.toNat % 8))
  else ([replacement], .start)

/-- One byte: the characters it completes, and the state after it. -/
def step : State → UInt8 → List Char × State
  | .start, b => lead b
  | .inside missing low high bits, b =>
    if low ≤ b && b ≤ high then
      let bits := bits * 64 + b.toNat % 64
      if missing ≤ 1 then ([Char.ofNat bits], .start)
      else ([], .inside (missing - 1) 0x80 0xbf bits)
    else
      let (out, next) := lead b
      (replacement :: out, next)

/-- Decodes the bytes from a state on; a character that the end cuts short is replaced. -/
def decodeFrom : State → List UInt8 → List Char
  | .start, [] => []
  | .inside .., [] => [replacement]
  | s, b :: bs => (step s b).1 ++ decodeFrom (step s b).2 bs

/-- Decodes bytes, replacing what is not UTF-8. -/
def decodeLossy (bytes : ByteArray) : String :=
  match String.fromUTF8? bytes with
  | some s => s
  | none => String.ofList (decodeFrom .start bytes.toList)

end Testbed.Text.Utf8
