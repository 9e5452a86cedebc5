import CallGuard.Ascii
import CallGuard.Crypto.Base64
import CallGuard.Text.Blank
import CallGuard.Text.Pieces
import CallGuard.Text.Utf8

/-! Binary data in base64 between a begin and an end line; text around them says nothing. -/
namespace CallGuard.Crypto

/-- What a block of armoured text is labelled as, and what it holds. -/
structure Pem where
  label : String
  content : Bytes
  deriving DecidableEq, Repr

namespace Pem

/-- Cuts at a marker: what stands before it and after it. A mismatch starts over at the marker's
first byte with the byte after, so that a marker is missed behind a beginning of itself.
`seen` counts the marker's bytes that have matched, `before` holds what was passed, last byte
first. -/
def cutGo (marker : Bytes) : Nat → Bytes → Bytes → Option (Bytes × Bytes)
  | _, _, [] => none
  | seen, before, b :: rest =>
    if marker[seen]? = some b then
      if seen + 1 = marker.length then some ((before.drop seen).reverse, rest)
      else cutGo marker (seen + 1) (b :: before) rest
    else cutGo marker 0 (b :: before) rest

def cut (marker : String) (bs : Bytes) : Option (Bytes × Bytes) :=
  cutGo (Bytes.ofString marker) 0 [] bs

/-- The lines of a text, without their ends. -/
def lines (bs : Bytes) : List Bytes :=
  let all := Text.pieces Ascii.lineFeed bs
  let all := if all.getLast? = some [] then all.dropLast else all
  all.map fun line => if line.getLast? = some Ascii.carriageReturn then line.dropLast else line

/-- The headers before an empty line, and the data after it. -/
def splitHeaders (body : Bytes) : Bytes × Bytes :=
  match cut "\n\n" body with
  | some parts => parts
  | none => (cut "\r\n\r\n" body).getD ([], body)

/-- The data without its white space. -/
def symbols? (data : Bytes) : Option Bytes :=
  (Text.Utf8.decode? data).map fun s =>
    Bytes.ofString (String.ofList (s.toList.filter fun c => !Text.isBlank c))

/-- The first block in the text. -/
def parse? (text : Bytes) : Option Pem := do
  let (_, text) ← cut "-----BEGIN " text
  let (label, text) ← cut "-----" text
  let (body, text) ← cut "-----END " (text.dropWhile Ascii.isSpace)
  let (endLabel, _) ← cut "-----" text
  let name ← Text.Utf8.decode? label
  guard (label ≠ [] ∧ label = endLabel)
  let (headers, data) := splitHeaders body
  guard ((lines headers).all (·.contains Ascii.colon) && (Text.Utf8.decode? headers).isSome)
  let content ← (Base64.decode Base64.standard (← symbols? data)).toOption
  return ⟨name, content⟩

end Pem
end CallGuard.Crypto
