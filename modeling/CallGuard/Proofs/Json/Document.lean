import CallGuard.Proofs.Json.Number
import CallGuard.Proofs.Json.Quoted

/-!
Documents are read back from their compact forms, but for those with doubles in them. The scan of a
value stops where its form ends, whatever follows that could not belong to a number; from the values
of a list or an object that is shown for the whole of it.
-/
namespace CallGuard.Json

/-- The document is its compact form and no more: there is no double in it, its integers fit 64
bits, no object of it has a name twice, and at most so many brackets are open at a time. -/
inductive Exact : Nat → Json → Prop
  | null {d : Nat} : Exact d .null
  | bool {d : Nat} (b : Bool) : Exact d (.bool b)
  | int {d : Nat} {n : Int} (low : -2 ^ 63 ≤ n) (high : n < 2 ^ 64) : Exact d (.int n)
  | str {d : Nat} (s : String) : Exact d (.str s)
  | arr {d : Nat} {xs : List Json} (items : ∀ x ∈ xs, Exact d x) : Exact (d + 1) (.arr xs)
  | obj {d : Nat} {ms : List (String × Json)} (names : (ms.map (·.1)).Nodup)
    (values : ∀ m ∈ ms, Exact d m.2) : Exact (d + 1) (.obj ms)

/-! ### The bytes of compact forms -/

def bytes (v : Json) : Bytes := Bytes.ofString v.compact

/-- A name and its value. -/
def memberBytes (m : String × Json) : Bytes :=
  Ascii.quote :: (quotedBytes m.1.toList ++ Ascii.quote :: Ascii.colon :: bytes m.2)

/-- What follows the first item of a list. -/
def moreItems (xs : List Json) : Bytes := xs.flatMap fun x => Ascii.comma :: bytes x

def moreMembers (ms : List (String × Json)) : Bytes :=
  ms.flatMap fun m => Ascii.comma :: memberBytes m

theorem bytes_eq (v : Json) : bytes v = v.print.flatMap String.utf8EncodeChar := by
  simp [bytes, compact, Bytes.ofString]

theorem bytes_int (n : Int) : bytes (.int n) = Bytes.ofString (toString n) := by
  simp [bytes, compact, print]

theorem bytes_str (s : String) :
    bytes (.str s) = Ascii.quote :: (quotedBytes s.toList ++ [Ascii.quote]) :=
  ofString_compact_str s

theorem flatMap_printItems (x : Json) (xs : List Json) :
    (printItems (x :: xs)).flatMap String.utf8EncodeChar = bytes x ++ moreItems xs := by
  have comma : String.utf8EncodeChar ',' = [Ascii.comma] := by decide
  induction xs generalizing x with
  | nil => simp [printItems, moreItems, bytes_eq]
  | cons y ys ih =>
    rw [printItems, List.flatMap_append, List.flatMap_cons, comma, ih, moreItems, bytes_eq x]
    · rfl
    · simp

theorem bytes_arr (xs : List Json) : bytes (.arr xs) = Ascii.openBracket ::
    ((printItems xs).flatMap String.utf8EncodeChar ++ [Ascii.closeBracket]) := by
  have brackets : String.utf8EncodeChar '[' = [Ascii.openBracket] ∧
      String.utf8EncodeChar ']' = [Ascii.closeBracket] := by decide
  simp [bytes_eq, print, brackets]

theorem flatMap_quoteChars (s : String) : (quoteChars s).flatMap String.utf8EncodeChar =
    Ascii.quote :: (quotedBytes s.toList ++ [Ascii.quote]) := by
  have quote : String.utf8EncodeChar '"' = [Ascii.quote] := by decide
  simp [quoteChars, quotedBytes, quote]

theorem flatMap_printMembers (m : String × Json) (ms : List (String × Json)) :
    (printMembers (m :: ms)).flatMap String.utf8EncodeChar = memberBytes m ++ moreMembers ms := by
  have comma : String.utf8EncodeChar ',' = [Ascii.comma] := by decide
  have colon : String.utf8EncodeChar ':' = [Ascii.colon] := by decide
  induction ms generalizing m with
  | nil =>
    obtain ⟨name, v⟩ := m
    simp [printMembers, moreMembers, memberBytes, flatMap_quoteChars, colon, bytes_eq]
  | cons next ms ih =>
    obtain ⟨name, v⟩ := m
    rw [printMembers, List.flatMap_append, List.flatMap_cons, comma, ih]
    · simp [memberBytes, flatMap_quoteChars, colon, bytes_eq, moreMembers]
    · simp

theorem bytes_obj (ms : List (String × Json)) : bytes (.obj ms) = Ascii.openBrace ::
    ((printMembers ms).flatMap String.utf8EncodeChar ++ [Ascii.closeBrace]) := by
  have brackets : String.utf8EncodeChar '\x7b' = [Ascii.openBrace] ∧
      String.utf8EncodeChar '\x7d' = [Ascii.closeBrace] := by decide
  simp [bytes_eq, print, brackets]

/-- A form begins with its first byte, which no space is, nor the end of a list. -/
theorem bytes_front {d : Nat} {v : Json} (exact : Exact d v) :
    ∃ b tail, bytes v = b :: tail ∧ Ascii.isSpace b = false ∧ b ≠ Ascii.closeBracket := by
  cases exact with
  | null => exact ⟨_, _, rfl, by decide, by decide⟩
  | bool b => cases b <;> exact ⟨_, _, rfl, by decide, by decide⟩
  | @int _ n =>
    obtain ⟨b, tail, front, begins⟩ := toString_front n
    exact ⟨b, tail, (bytes_int n).trans front, isSpace_of_beginsNumber begins,
      ne_of_beginsNumber begins (by decide)⟩
  | str s => exact ⟨_, _, bytes_str s, by decide, by decide⟩
  | arr => exact ⟨_, _, bytes_arr _, by decide, by decide⟩
  | obj => exact ⟨_, _, bytes_obj _, by decide, by decide⟩

/-! ### Lists and objects -/

/-- The form of the value is read back in front of all that can follow it, by enough steps. -/
def Scans (d : Nat) (v : Json) : Prop :=
  ∀ (fuel : Nat) (rest : Bytes), 2 * (bytes v).length ≤ fuel → EndsNumber rest →
    scanValue fuel (d + 1) (bytes v ++ rest) = .ok (v, rest)

theorem endsNumber_cons {b : UInt8} (rest : Bytes)
    (h : Ascii.isDigit b = false ∧ b ∉ [Ascii.dot, Ascii.upperE, Ascii.lowerE]) :
    EndsNumber (b :: rest) := by
  intro c hc
  obtain rfl : b = c := by simpa using hc
  exact h

theorem endsNumber_moreItems (xs : List Json) (rest : Bytes) :
    EndsNumber (moreItems xs ++ Ascii.closeBracket :: rest) := by
  cases xs with
  | nil => exact endsNumber_cons _ (by decide)
  | cons x xs => exact endsNumber_cons _ (by decide)

theorem endsNumber_moreMembers (ms : List (String × Json)) (rest : Bytes) :
    EndsNumber (moreMembers ms ++ Ascii.closeBrace :: rest) := by
  cases ms with
  | nil => exact endsNumber_cons _ (by decide)
  | cons m ms => exact endsNumber_cons _ (by decide)

theorem itemAt_bytes {d : Nat} {v : Json} (exact : Exact d v) (rest : Bytes) :
    ItemAt true (bytes v ++ rest) (.member (bytes v ++ rest)) ∧
      ItemAt false (Ascii.comma :: (bytes v ++ rest)) (.member (bytes v ++ rest)) := by
  obtain ⟨b, tail, front, solid, inner⟩ := bytes_front exact
  rw [front, List.cons_append]
  have bare := skipSpace_cons solid (tail ++ rest)
  exact ⟨.first bare inner, .later (skipSpace_cons (by decide) _) bare inner⟩

variable {d fuel : Nat} {rest : Bytes}

theorem scanItems_moreItems {xs : List Json} (exact : ∀ x ∈ xs, Exact d x)
    (scans : ∀ x ∈ xs, Scans d x) (enough : 2 * (moreItems xs).length < fuel) :
    scanItems fuel (d + 1) false (moreItems xs ++ Ascii.closeBracket :: rest) = .ok (xs, rest) := by
  obtain ⟨fuel, rfl⟩ : ∃ k, fuel = k + 1 := ⟨fuel - 1, by omega⟩
  induction xs generalizing fuel with
  | nil => rfl
  | cons x xs ih =>
    have cut : moreItems (x :: xs) = Ascii.comma :: (bytes x ++ moreItems xs) := rfl
    rw [cut, List.length_cons, List.length_append] at enough
    obtain ⟨fuel, rfl⟩ : ∃ k, fuel = k + 1 := ⟨fuel - 1, by omega⟩
    obtain ⟨exact_x, exact_xs⟩ := List.forall_mem_cons.mp exact
    obtain ⟨scans_x, scans_xs⟩ := List.forall_mem_cons.mp scans
    have others := ih exact_xs scans_xs fuel (by omega)
    have scanned := scans_x (fuel + 1) _ (by omega) (endsNumber_moreItems xs rest)
    rw [cut, List.cons_append, List.append_assoc]
    exact scanItems_cons_iff.mpr ⟨_, _, (itemAt_bytes exact_x _).2, scanned, others⟩

theorem scanValue_arr {xs : List Json} (exact : ∀ x ∈ xs, Exact d x)
    (scans : ∀ x ∈ xs, Scans d x) : Scans (d + 1) (.arr xs) := by
  intro fuel rest enough _
  rw [bytes_arr, List.length_cons, List.length_append, List.length_singleton] at enough
  obtain ⟨fuel, rfl⟩ : ∃ k, fuel = k + 2 := ⟨fuel - 2, by omega⟩
  rw [bytes_arr, List.cons_append, List.append_assoc, List.singleton_append]
  refine scanValue_of_step (skipSpace_cons (by decide) _) (.arr (by omega) ?_)
  cases xs with
  | nil => rfl
  | cons x xs =>
    obtain ⟨exact_x, exact_xs⟩ := List.forall_mem_cons.mp exact
    obtain ⟨scans_x, scans_xs⟩ := List.forall_mem_cons.mp scans
    rw [flatMap_printItems, List.length_append] at enough
    have others : scanItems fuel (d + 1) false (moreItems xs ++ Ascii.closeBracket :: rest) =
        .ok (xs, rest) := scanItems_moreItems exact_xs scans_xs (by omega)
    have scanned := scans_x fuel _ (by omega) (endsNumber_moreItems xs rest)
    rw [flatMap_printItems, List.append_assoc]
    exact scanItems_cons_iff.mpr ⟨_, _, (itemAt_bytes exact_x _).1, scanned, others⟩

theorem memberBytes_append (m : String × Json) (rest : Bytes) :
    memberBytes m ++ rest = Ascii.quote ::
      (quotedBytes m.1.toList ++ Ascii.quote :: Ascii.colon :: (bytes m.2 ++ rest)) := by
  simp [memberBytes]

theorem keyAt_quote (bs : Bytes) :
    KeyAt true (Ascii.quote :: bs) (.member bs) ∧
      KeyAt false (Ascii.comma :: Ascii.quote :: bs) (.member bs) :=
  ⟨.first (skipSpace_cons (by decide) _),
    .later (skipSpace_cons (by decide) _) (skipSpace_cons (by decide) _)⟩

/-- A step reads a member if the steps that are left read the others. -/
theorem scanMembers_of_next {first : Bool} {m : String × Json} {ms : List (String × Json)}
    {bs : Bytes}
    (next : KeyAt first bs (.member (quotedBytes m.1.toList ++
      Ascii.quote :: Ascii.colon :: (bytes m.2 ++ (moreMembers ms ++ rest)))))
    (scanned : scanValue fuel d (bytes m.2 ++ (moreMembers ms ++ rest)) =
      .ok (m.2, moreMembers ms ++ rest))
    {left : Bytes} (others : scanMembers fuel d false (moreMembers ms ++ rest) = .ok (ms, left)) :
    scanMembers (fuel + 1) d first bs = .ok (m :: ms, left) := by
  have colon (bs : Bytes) : scanColon (Ascii.colon :: bs) = .ok bs :=
    scanColon_eq_ok_iff.mpr (skipSpace_cons (by decide) bs)
  exact scanMembers_cons_iff.mpr ⟨_, _, _, _,
    ⟨next, scanString_quotedBytes m.1 _, colon _, scanned⟩, others⟩

theorem length_bytes_lt (m : String × Json) : (bytes m.2).length < (memberBytes m).length := by
  rw [memberBytes, List.length_cons, List.length_append, List.length_cons, List.length_cons]
  omega

theorem scanMembers_moreMembers {ms : List (String × Json)} (scans : ∀ m ∈ ms, Scans d m.2)
    (enough : 2 * (moreMembers ms).length < fuel) :
    scanMembers fuel (d + 1) false (moreMembers ms ++ Ascii.closeBrace :: rest) =
      .ok (ms, rest) := by
  obtain ⟨fuel, rfl⟩ : ∃ k, fuel = k + 1 := ⟨fuel - 1, by omega⟩
  induction ms generalizing fuel with
  | nil => rfl
  | cons m ms ih =>
    have cut : moreMembers (m :: ms) = Ascii.comma :: (memberBytes m ++ moreMembers ms) := rfl
    have value := length_bytes_lt m
    rw [cut, List.length_cons, List.length_append] at enough
    obtain ⟨fuel, rfl⟩ : ∃ k, fuel = k + 1 := ⟨fuel - 1, by omega⟩
    obtain ⟨scans_m, scans_ms⟩ := List.forall_mem_cons.mp scans
    have others := ih scans_ms fuel (by omega)
    have scanned := scans_m (fuel + 1) _ (by omega) (endsNumber_moreMembers ms rest)
    rw [cut, List.cons_append, List.append_assoc, memberBytes_append]
    exact scanMembers_of_next (keyAt_quote _).2 scanned others

theorem scanValue_obj {ms : List (String × Json)} (scans : ∀ m ∈ ms, Scans d m.2) :
    Scans (d + 1) (.obj ms) := by
  intro fuel rest enough _
  rw [bytes_obj, List.length_cons, List.length_append, List.length_singleton] at enough
  obtain ⟨fuel, rfl⟩ : ∃ k, fuel = k + 2 := ⟨fuel - 2, by omega⟩
  rw [bytes_obj, List.cons_append, List.append_assoc, List.singleton_append]
  refine scanValue_of_step (skipSpace_cons (by decide) _) (.obj (by omega) ?_)
  cases ms with
  | nil => rfl
  | cons m ms =>
    have value := length_bytes_lt m
    obtain ⟨scans_m, scans_ms⟩ := List.forall_mem_cons.mp scans
    rw [flatMap_printMembers, List.length_append] at enough
    have others : scanMembers fuel (d + 1) false (moreMembers ms ++ Ascii.closeBrace :: rest) =
        .ok (ms, rest) := scanMembers_moreMembers scans_ms (by omega)
    have scanned := scans_m fuel _ (by omega) (endsNumber_moreMembers ms rest)
    rw [flatMap_printMembers, List.append_assoc, memberBytes_append]
    exact scanMembers_of_next (keyAt_quote _).1 scanned others

/-! ### Values -/

theorem scanValue_word {v : Json} (word : v = .null ∨ ∃ b, v = .bool b) :
    scanValue (fuel + 1) d (bytes v ++ rest) = .ok (v, rest) := by
  rcases word with rfl | ⟨_ | _, rfl⟩ <;> rfl

theorem scanValue_int {n : Int} (low : -2 ^ 63 ≤ n) (high : n < 2 ^ 64) (ends : EndsNumber rest) :
    scanValue (fuel + 1) d (bytes (.int n) ++ rest) = .ok (.int n, rest) := by
  obtain ⟨b, tail, front, begins⟩ := toString_front n
  have scanned := scanNumber_toString low high ends
  rw [front, List.cons_append] at scanned
  rw [bytes_int, front, List.cons_append]
  exact scanValue_of_step (skipSpace_cons (isSpace_of_beginsNumber begins) _)
    (.number begins scanned rfl)

/-- A form takes a step at least. -/
theorem exists_fuel {v : Json} (exact : Exact d v) (enough : 2 * (bytes v).length ≤ fuel) :
    ∃ k, fuel = k + 1 := by
  obtain ⟨b, tail, front, -⟩ := bytes_front exact
  rw [front, List.length_cons] at enough
  exact ⟨fuel - 1, by omega⟩

/-- Every value is read back where it stands, by induction on what stands in it. -/
theorem scans_of_exact {v : Json} (exact : Exact d v) : Scans d v := by
  induction exact with
  | arr items ih => exact scanValue_arr items ih
  | obj _ _ ih => exact scanValue_obj ih
  | null =>
    intro fuel rest enough _
    obtain ⟨fuel, rfl⟩ := exists_fuel (.null (d := 0)) enough
    exact scanValue_word (.inl rfl)
  | bool b =>
    intro fuel rest enough _
    obtain ⟨fuel, rfl⟩ := exists_fuel (.bool (d := 0) b) enough
    exact scanValue_word (.inr ⟨b, rfl⟩)
  | int low high =>
    intro fuel rest enough ends
    obtain ⟨fuel, rfl⟩ := exists_fuel (.int (d := 0) low high) enough
    exact scanValue_int low high ends
  | str s =>
    intro fuel rest enough _
    obtain ⟨fuel, rfl⟩ := exists_fuel (.str (d := 0) s) enough
    rw [bytes_str, List.cons_append, List.append_assoc, List.singleton_append]
    exact scanValue_of_step (skipSpace_cons (by decide) _) (.str (scanString_quotedBytes s rest))

/-! ### Names that stand once -/

theorem put_of_new {name : String} (v : Json) {ms : List (String × Json)}
    (new : name ∉ ms.map (·.1)) : put name v ms = ms ++ [(name, v)] := by
  induction ms with
  | nil => rfl
  | cons m ms ih =>
    rw [List.map_cons, List.mem_cons, not_or] at new
    rw [put, if_neg (Ne.symm new.1), ih new.2, List.cons_append]

theorem foldl_put_of_nodup {seen ms : List (String × Json)}
    (names : ((seen ++ ms).map (·.1)).Nodup) :
    ms.foldl (fun acc (n, v) => put n v acc) seen = seen ++ ms := by
  induction ms generalizing seen with
  | nil => simp
  | cons m ms ih =>
    have new : m.1 ∉ seen.map (·.1) := by
      rw [List.map_append, List.nodup_append] at names
      exact fun old => names.2.2 _ old _ (by simp) rfl
    have step : (match m with | (n, v) => put n v seen) = seen ++ [m] := put_of_new m.2 new
    rw [List.foldl_cons, step, ih (by simpa using names), List.append_assoc, List.singleton_append]

theorem mergedItems_eq {xs : List Json} (same : ∀ x ∈ xs, x.merged = x) : mergedItems xs = xs := by
  induction xs with
  | nil => rfl
  | cons x xs ih =>
    obtain ⟨same_x, same_xs⟩ := List.forall_mem_cons.mp same
    rw [mergedItems, same_x, ih same_xs]

theorem mergedMembers_eq {ms : List (String × Json)} (same : ∀ m ∈ ms, m.2.merged = m.2) :
    mergedMembers ms = ms := by
  induction ms with
  | nil => rfl
  | cons m ms ih =>
    obtain ⟨same_m, same_ms⟩ := List.forall_mem_cons.mp same
    rw [mergedMembers, same_m, ih same_ms]

/-- Where no object has a name twice, there is nothing to merge. -/
theorem merged_of_exact {v : Json} (exact : Exact d v) : v.merged = v := by
  induction exact with
  | null | bool | int | str => simp [merged]
  | arr _ ih => rw [merged, mergedItems_eq ih]
  | obj names _ ih =>
    have whole : _ = ([] : List (String × Json)) ++ _ := foldl_put_of_nodup names
    rw [List.nil_append] at whole
    rw [merged, mergedMembers_eq ih, ofMembers, whole]

/-! ### Documents -/

theorem runScan_eq_ok_iff {α : Type} {scan : Bytes → Except Fault (α × Bytes)} {bs : Bytes}
    {a : α} :
    runScan scan bs = .ok a ↔ ∃ rest, scan bs = .ok (a, rest) ∧ scanEnd rest = .ok () := by
  unfold runScan
  cases scan bs with
  | error f => simp
  | ok found =>
    obtain ⟨b, rest⟩ := found
    cases ended : scanEnd rest <;> simp [ended]

/-- A document without doubles is read back from its compact form. -/
theorem read_compact {v : Json} (exact : Exact (depthLimit - 1) v) :
    Json.read (Bytes.ofString v.compact) = .ok v := by
  have scanned := scans_of_exact exact (readFuel (bytes v)) [] (Nat.le_add_right _ _) nofun
  rw [List.append_nil] at scanned
  have whole : runScan (scanValue (readFuel (bytes v)) depthLimit) (bytes v) = .ok v :=
    runScan_eq_ok_iff.mpr ⟨[], scanned, rfl⟩
  change (runScan (scanValue (readFuel (bytes v)) depthLimit) (bytes v)).map merged = _
  rw [whole, Except.map, merged_of_exact exact]

/-- Two such documents that are printed alike are one. -/
theorem compact_inj {v w : Json} (exact : Exact (depthLimit - 1) v)
    (exact_w : Exact (depthLimit - 1) w) : v.compact = w.compact ↔ v = w := by
  constructor
  · intro same
    have read := read_compact exact
    rw [same, read_compact exact_w] at read
    exact (Except.ok.inj read).symm
  · rintro rfl
    rfl

/-- A text is read back from its compact form. -/
theorem read_compact_str (s : String) :
    Json.read (Bytes.ofString (Json.str s).compact) = .ok (.str s) :=
  read_compact (.str s)

end CallGuard.Json
