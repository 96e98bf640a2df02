import Courier.Text.Numeral
import Courier.Text.Utf8

/-! Percent encoding.

Each part of an address has characters that it cannot hold as they are. Their bytes are written as
a percent sign and two digits. Characters outside of ASCII and control characters are always
written so. -/
namespace Courier.Url

/-- What a part of an address writes with percent signs. -/
structure EncodeSet where
  holds : Char → Bool

namespace EncodeSet

/-- Control characters, and all outside of ASCII. -/
def controls : EncodeSet := ⟨fun c => c.toNat < 0x20 || 0x7F ≤ c.toNat⟩

def adding (s : EncodeSet) (more : String) : EncodeSet := ⟨fun c => s.holds c || more.toList.contains c⟩

/-- What a fragment cannot hold as it is. -/
def fragment : EncodeSet := controls.adding " \"<>`"
/-- What a query cannot hold as it is. -/
def query : EncodeSet := controls.adding " \"#<>"
/-- What a query cannot hold where the scheme knows hosts. -/
def specialQuery : EncodeSet := query.adding "'"
/-- What a path cannot hold as it is. -/
def path : EncodeSet := fragment.adding "#?\x7b\x7d"
/-- What a user or a password cannot hold as it is. -/
def userInfo : EncodeSet := path.adding "/:;=@[\\]^|"

/-- A segment that is put into a path keeps its slashes and percent signs. -/
def segment : EncodeSet := path.adding "/%"

/-- Where a backslash counts as a slash, a segment keeps those too. -/
def specialSegment : EncodeSet := segment.adding "\\"

end EncodeSet

/-- A byte as a percent sign with two digits. -/
def encodeByte (b : UInt8) : List Char :=
  ['%', Text.hexDigitUpper (b.toNat / 16), Text.hexDigitUpper (b.toNat % 16)]

/-- A character as it is, or its bytes with percent signs. -/
def encodeChar (set : EncodeSet) (c : Char) : List Char :=
  if set.holds c then (Text.utf8 (String.singleton c)).flatMap encodeByte else [c]

/-- A text as it is written where some characters cannot stand. -/
def percentEncode (set : EncodeSet) (cs : List Char) : List Char := cs.flatMap (encodeChar set)

/-- The bytes of a text, those behind percent signs decoded. A percent sign without two digits
stands for itself. -/
def percentDecode : List Char → Bytes
  | '%' :: a :: b :: rest =>
    match Text.hexValue? a, Text.hexValue? b with
    | some high, some low => (high * 16 + low).toUInt8 :: percentDecode rest
    | _, _ => 0x25 :: percentDecode (a :: b :: rest)
  | c :: rest => Text.utf8 (String.singleton c) ++ percentDecode rest
  | [] => []

end Courier.Url
