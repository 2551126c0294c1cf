import Typeset.Text.Basic

/-!
Text and its bytes in UTF-8.  Decoding is a machine that reads one byte at a time, so that what it
makes of a piece depends on what comes before only through its state.  A sequence that breaks off is
replaced by one U+FFFD, and the byte that broke it is read afresh.
-/

namespace Typeset

abbrev Bytes := List UInt8

namespace Text

def encode (text : Text) : Bytes :=
  text.flatMap String.utf8EncodeChar

end Text

namespace Utf8

def replacement : Char := '\ufffd'

/-- A sequence that still lacks bytes: the bits read so far, the number of missing bytes, and the
bounds of the next one. -/
structure Unfinished where
  bits : Nat
  missing : Nat
  low : UInt8
  high : UInt8
deriving DecidableEq, Repr

/-- The bounds of a continuation byte that no lead byte narrows. -/
def Unfinished.free (bits missing : Nat) : Unfinished where
  bits := bits
  missing := missing
  low := 0x80
  high := 0xbf

def lead (byte : UInt8) : Text × Option Unfinished :=
  if byte < 0x80 then ([Char.ofNat byte.toNat], none)
  else if byte < 0xc2 then ([replacement], none)
  else if byte < 0xe0 then ([], some (.free (byte.toNat % 32) 1))
  else if byte = 0xe0 then ([], some ⟨0, 2, 0xa0, 0xbf⟩)
  else if byte = 0xed then ([], some ⟨13, 2, 0x80, 0x9f⟩)
  else if byte < 0xf0 then ([], some (.free (byte.toNat % 16) 2))
  else if byte = 0xf0 then ([], some ⟨0, 3, 0x90, 0xbf⟩)
  else if byte < 0xf4 then ([], some (.free (byte.toNat % 8) 3))
  else if byte = 0xf4 then ([], some ⟨4, 3, 0x80, 0x8f⟩)
  else ([replacement], none)

def step : Option Unfinished → UInt8 → Text × Option Unfinished
  | none, byte => lead byte
  | some sequence, byte =>
      if sequence.low ≤ byte ∧ byte ≤ sequence.high then
        let bits := sequence.bits * 64 + byte.toNat % 64
        match sequence.missing with
        | 0 | 1 => ([Char.ofNat bits], none)
        | missing + 2 => ([], some (.free bits (missing + 1)))
      else
        let (characters, state) := lead byte
        (replacement :: characters, state)

def finish : Option Unfinished → Text
  | none => []
  | some _ => [replacement]

def decodeFrom : Option Unfinished → Bytes → Text
  | state, [] => finish state
  | state, byte :: rest =>
      let (characters, next) := step state byte
      characters ++ decodeFrom next rest

end Utf8

namespace Text

def decodeLossy (bytes : Bytes) : Text :=
  Utf8.decodeFrom none bytes

def decode? (bytes : Bytes) : Option Text :=
  let text := decodeLossy bytes
  if encode text = bytes then some text else none

@[simp] theorem encode_append (first second : Text) :
    encode (first ++ second) = encode first ++ encode second := by
  simp [encode]

end Text

end Typeset
