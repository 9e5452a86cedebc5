import CallGuard.Text.Blank
import CallGuard.Text.Pieces

/-!
Methods, named `package.service/method`. A name is kept as its service and its method, both known to
be well formed, so that no two methods have one text.
-/
namespace CallGuard

/-- Why a text names no method or no service. -/
inductive NameFault where
  | noSlash
  | emptySegment
  | reservedCharacter
  | noPackage
  | emptyPart
  deriving DecidableEq, Repr

def NameFault.reason : NameFault → String
  | noSlash => "expected <package>.<service>/<method>"
  | emptySegment => "empty segment"
  | reservedCharacter => "segment contains whitespace, '/' or '*'"
  | noPackage => "service must be qualified by a package"
  | emptyPart => "empty package or service segment"

namespace Method

/-- White space, slashes and stars stand in no name. -/
def isNameChar (c : Char) : Bool := !Text.isBlank c && c != '/' && c != '*'

/-- What keeps characters from being a name without parts. -/
def segmentFault? (cs : List Char) : Option NameFault :=
  if cs.isEmpty then some .emptySegment
  else if cs.all isNameChar then none
  else some .reservedCharacter

/-- A service is a segment of two or more parts, none of them empty. -/
def serviceFault? (cs : List Char) : Option NameFault :=
  match segmentFault? cs with
  | some fault => some fault
  | none =>
    if !cs.contains '.' then some .noPackage
    else if (Text.pieces '.' cs).any List.isEmpty then some .emptyPart
    else none

end Method

/-- The name of a service in its package. -/
structure ServiceName where
  text : String
  valid : Method.serviceFault? text.toList = none
  deriving DecidableEq

def ServiceName.ofChars (cs : List Char) : Except NameFault ServiceName :=
  match h : Method.serviceFault? cs with
  | none => .ok ⟨String.ofList cs, by simpa using h⟩
  | some fault => .error fault

structure Method where
  service : ServiceName
  name : String
  name_valid : Method.segmentFault? name.toList = none
  deriving DecidableEq

namespace Method

/-- The method's full name. -/
def text (m : Method) : String := m.service.text ++ "/" ++ m.name

/-- Methods are ordered as their full names are, by code points. -/
def le (a b : Method) : Bool := a.text ≤ b.text

/-- The methods in order, each once. -/
def sortUnique (ms : List Method) : List Method := (ms.mergeSort le).eraseReps

/-- Joins a service and a method if both are well formed; a fault of the service counts first. -/
def ofParts (service name : List Char) : Except NameFault Method := do
  let service ← ServiceName.ofChars service
  match h : segmentFault? name with
  | none => .ok ⟨service, String.ofList name, by simpa using h⟩
  | some fault => .error fault

/-- The characters without a slash in front, if there is one. -/
def dropSlash : List Char → List Char
  | '/' :: cs => cs
  | cs => cs

/-- The name split at its first slash, after one in front has been dropped. -/
def ofChars (cs : List Char) : Except NameFault Method :=
  let cs := dropSlash cs
  match cs.dropWhile (· != '/') with
  | [] => .error .noSlash
  | _ :: name => ofParts (cs.takeWhile (· != '/')) name

end Method
end CallGuard
