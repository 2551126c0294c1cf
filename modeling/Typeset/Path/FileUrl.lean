import Typeset.Path.Basic
import Typeset.Text.Utf8

/-!
The `file` URL of a path.  Each name is percent-encoded byte by byte.
-/

namespace Typeset.Path

def isPlainByte (byte : UInt8) : Bool :=
  0x20 < byte && byte < 0x7f &&
    !(['"', '#', '%', '/', '<', '>', '?', '\\', '`', '{', '}'].any fun c => c.toNat = byte.toNat)

def upperHexDigit (value : Nat) : Char :=
  if value < 10 then Char.ofNat ('0'.toNat + value) else Char.ofNat ('A'.toNat + (value - 10))

def percentByte (byte : UInt8) : Text :=
  if isPlainByte byte then [Char.ofNat byte.toNat]
  else ['%', upperHexDigit (byte.toNat / 16), upperHexDigit (byte.toNat % 16)]

def percentEncode (name : Text) : Text :=
  (Text.encode name).flatMap percentByte

def fileUrl? (path : Path) : Option Text :=
  if isAbsolute path then
    match names path with
    | [] => some "file:///"
    | names => some ("file://" ++ names.flatMap fun name => '/' :: percentEncode name)
  else none

def fileUrl (path : Path) : Text :=
  (fileUrl? path).getD ("file://" ++ path)

end Typeset.Path
