import CallGuard.Ascii
import CallGuard.Text.Utf8

/-! Percent-encoded text, as in the paths of requests. -/
namespace CallGuard.Text.Percent

/-- Each `%` with two hexadecimal digits stands for one byte, unless that is one to keep; any other
`%` stands for itself. -/
def decodeBytes (keep : Bytes) : Bytes → Bytes
  | Ascii.percent :: a :: b :: rest =>
    match Bytes.hexDigit? a, Bytes.hexDigit? b with
    | some hi, some lo =>
      let byte := UInt8.ofNat (hi * 16 + lo)
      if keep.contains byte then Ascii.percent :: decodeBytes keep (a :: b :: rest)
      else byte :: decodeBytes keep rest
    | _, _ => Ascii.percent :: decodeBytes keep (a :: b :: rest)
  | b :: rest => b :: decodeBytes keep rest
  | [] => []

/-- The text behind the escapes, but for the characters whose escapes are kept. -/
def decode (keep s : String) : String :=
  Utf8.decodeLossy (decodeBytes (Bytes.ofString keep) (Bytes.ofString s))

end CallGuard.Text.Percent
