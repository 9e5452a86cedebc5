import CallGuard.Http
import CallGuard.Proofs.Text.Percent
import CallGuard.Proofs.Text.Pieces
import Mathlib.Data.List.TakeWhile

/-!
The paths of requests. `segments?_pathTo` writes one for every service and method, whatever
characters are in their names: each of the segments with all of its bytes escaped.
-/
namespace CallGuard.Http

open Text

/-- The bytes whose escapes the first step keeps. -/
def keptBytes : Bytes := Bytes.ofString "%/+"

def segment (s : String) : String := Bytes.toAscii (Percent.escaped (Bytes.ofString s))

/-- The path of the two segments. -/
def pathTo (service name : String) : String := "/" ++ segment service ++ "/" ++ segment name

theorem ofString_pathTo (service name : String) :
    Bytes.ofString (pathTo service name) =
      Ascii.slash :: (Percent.escaped (Bytes.ofString service) ++
        Ascii.slash :: Percent.escaped (Bytes.ofString name)) := by
  have slash : Bytes.ofString "/" = [Ascii.slash] := by decide
  simp only [pathTo, segment, Bytes.ofString_append, Percent.ofString_escaped, slash,
    List.append_assoc, List.cons_append, List.nil_append]

/-- There are neither queries nor fragments in segments. -/
theorem char_of_mem_segment {s : String} {c : Char} (h : c ∈ (segment s).toList) :
    c ≠ '?' ∧ c ≠ '#' := by
  have digits : ∀ n < 16, Char.ofNat (Percent.digit n).toNat ≠ '?' ∧
      Char.ofNat (Percent.digit n).toNat ≠ '#' := by decide
  rw [segment, Bytes.toAscii, String.toList_ofList] at h
  obtain ⟨x, hx, rfl⟩ := List.mem_map.mp h
  obtain ⟨b, -, part⟩ := List.mem_flatMap.mp hx
  rcases Percent.mem_escape part with rfl | ⟨n, small, rfl⟩
  · decide
  · exact digits n small

theorem pathOf_pathTo (service name : String) :
    pathOf (pathTo service name) = pathTo service name := by
  have chars : (pathTo service name).toList =
      '/' :: ((segment service).toList ++ '/' :: (segment name).toList) := by
    simp [pathTo]
  have plain : ∀ c ∈ (pathTo service name).toList, (c != '?' && c != '#') = true := by
    intro c hc
    simp only [chars, List.mem_cons, List.mem_append] at hc
    simp only [Bool.and_eq_true, bne_iff_ne]
    rcases hc with rfl | first | rfl | second
    · decide
    · exact char_of_mem_segment first
    · decide
    · exact char_of_mem_segment second
  have whole : afterServer (pathTo service name).toList = (pathTo service name).toList := by
    rw [chars, afterServer]
  rw [pathOf, whole, List.takeWhile_eq_self_iff.mpr plain, String.ofList_toList]

/-- What the first step leaves of a segment, which is no text of its own but for its bytes. -/
structure HalfDecoded (s : String) (cs : List Char) : Prop where
  bytes : Bytes.ofString (String.ofList cs) = Percent.guarded keptBytes (Bytes.ofString s)

theorem exists_halfDecoded (s : String) : ∃ cs, HalfDecoded s cs := by
  have ascii : ∀ b ∈ keptBytes, b < 128 := by decide +kernel
  obtain ⟨cs, h⟩ := Percent.exists_guarded ascii s.toList
  exact ⟨cs, ⟨by rwa [Bytes.ofString, String.toList_ofList]⟩⟩

namespace HalfDecoded

variable {s : String} {cs : List Char}

theorem decode (h : HalfDecoded s cs) : Percent.decode "" (String.ofList cs) = s := by
  have nothing : Bytes.ofString "" = [] := rfl
  rw [Percent.decode, nothing, h.bytes, Percent.decodeBytes_guarded (by decide),
    Utf8.decodeLossy_ofString]

theorem slash_not_mem (h : HalfDecoded s cs) : '/' ∉ cs := by
  have kept : Ascii.slash ∈ keptBytes := by decide
  intro found
  apply Percent.slash_not_mem_guarded kept (Bytes.ofString s)
  rw [← h.bytes, Bytes.ofString, String.toList_ofList]
  exact List.mem_flatMap.mpr ⟨'/', found, by decide⟩

theorem ne_nil (h : HalfDecoded s cs) (nonempty : s ≠ "") : cs ≠ [] := by
  rintro rfl
  exact nonempty (h.decode.symm.trans (by decide))

end HalfDecoded

/-- Every two texts that are not empty are the segments of a path. -/
theorem segments?_pathTo {service name : String} (hs : service ≠ "") (hn : name ≠ "") :
    segments? (pathTo service name) = some (service, name) := by
  obtain ⟨ss, first⟩ := exists_halfDecoded service
  obtain ⟨ns, second⟩ := exists_halfDecoded name
  have bytes : Percent.decodeBytes keptBytes (Bytes.ofString (pathTo service name)) =
      Bytes.ofString (String.ofList ('/' :: (ss ++ '/' :: ns))) := by
    have slash : String.utf8EncodeChar '/' = [Ascii.slash] := by decide
    have last := Percent.decodeBytes_escaped keptBytes (Bytes.ofString name) []
    rw [Percent.decodeBytes_nil, List.append_nil, List.append_nil] at last
    rw [ofString_pathTo, Percent.decodeBytes_of_ne (by decide), Percent.decodeBytes_escaped,
      Percent.decodeBytes_of_ne (by decide), last, ← first.bytes, ← second.bytes]
    simp [Bytes.ofString, slash]
  have half : Percent.decode "%/+" (pathOf (pathTo service name)) =
      String.ofList ('/' :: (ss ++ '/' :: ns)) := by
    rw [pathOf_pathTo, Percent.decode]
    exact (congrArg _ bytes).trans (Utf8.decodeLossy_ofString _)
  have cut : pieces '/' ('/' :: (ss ++ '/' :: ns)) = [[], ss, ns] := by
    have whole := pieces_append_sep '/' [] (ss ++ '/' :: ns)
    rw [List.nil_append] at whole
    rw [whole, pieces_append_sep, pieces_of_clean first.slash_not_mem,
      pieces_of_clean second.slash_not_mem]
    rfl
  obtain ⟨a, as, rfl⟩ := List.exists_cons_of_ne_nil (first.ne_nil hs)
  obtain ⟨b, bs, rfl⟩ := List.exists_cons_of_ne_nil (second.ne_nil hn)
  rw [segments?, half, String.toList_ofList, cut]
  simp only [first.decode, second.decode]

end CallGuard.Http
