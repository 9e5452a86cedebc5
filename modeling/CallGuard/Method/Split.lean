import CallGuard.Bytes
import CallGuard.Method

/-!
Methods as one text and a place in it. The text is kept whole, with the place of its slash among its
bytes; service and method are the slices before and after it.
-/
namespace CallGuard

structure SplitName where
  full : String
  /-- How many bytes of the text are the service's. -/
  split : Nat
  deriving DecidableEq

namespace SplitName

/-- What keeps the characters from being a service. Its own name is what follows the last dot. -/
def serviceFault? (cs : List Char) : Option NameFault :=
  match Method.segmentFault? cs with
  | some fault => some fault
  | none =>
    match Text.cutLast? '.' cs with
    | none => some .noPackage
    | some (package, name) =>
      if package.isEmpty || name.isEmpty || (Text.pieces '.' package).any List.isEmpty then
        some .emptyPart
      else none

/-- The text without a slash in front, split at its first slash. -/
def ofChars (cs : List Char) : Except NameFault SplitName := do
  let trimmed := Method.dropSlash cs
  match Text.cutFirst? '/' trimmed with
  | none => throw .noSlash
  | some (service, name) =>
    (serviceFault? service).elim (.ok ()) .error
    (Method.segmentFault? name).elim (.ok ()) .error
    return ⟨String.ofList trimmed, (Bytes.ofString (String.ofList service)).length⟩

def bytes (n : SplitName) : Bytes := Bytes.ofString n.full

/-- The slice before the slash. -/
def service (n : SplitName) : Bytes := n.bytes.take n.split

/-- The slice after the slash. -/
def method (n : SplitName) : Bytes := n.bytes.drop (n.split + 1)

/-- By the bytes of the texts, and then by the places. -/
def order (a b : SplitName) : Ordering :=
  (compareOfLessAndEq a.bytes b.bytes).then (compare a.split b.split)

/-- A method's name, whole. -/
def ofMethod (m : Method) : SplitName := ⟨m.text, (Bytes.ofString m.service.text).length⟩

end SplitName
end CallGuard
