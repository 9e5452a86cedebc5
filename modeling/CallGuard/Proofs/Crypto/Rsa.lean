import CallGuard.Crypto.Rsa
import Mathlib.Data.Nat.Digits.Lemmas

/-!
What RSA signatures are valid: those of which the power by the public exponent, modulo the modulus,
is the filled-up hash of the message. A signature is valid for one hash at most.
-/
namespace CallGuard

namespace Bytes

theorem toNat_eq_ofDigits (bs : Bytes) :
    toNat bs = Nat.ofDigits 256 (bs.reverse.map UInt8.toNat) := by
  rw [toNat, List.foldl_eq_foldr_reverse, Nat.ofDigits_eq_foldr, List.foldr_map]
  simp only [Nat.cast_id, Nat.mul_comm, Nat.add_comm]

/-- Of as many bytes, different ones write different numbers. -/
theorem toNat_inj {bs cs : Bytes} (length : bs.length = cs.length) :
    toNat bs = toNat cs ↔ bs = cs := by
  refine ⟨fun same => ?_, fun same => same ▸ rfl⟩
  have small (ds : Bytes) : ∀ n ∈ ds.reverse.map UInt8.toNat, n < 256 := by
    intro n hn
    obtain ⟨b, -, rfl⟩ := List.mem_map.mp hn
    exact b.toNat_lt
  rw [toNat_eq_ofDigits, toNat_eq_ofDigits] at same
  have digits := Nat.ofDigits_inj_of_len_eq (by decide) (by simpa using length) (small bs)
    (small cs) same
  exact List.reverse_inj.mp (List.map_injective_iff.mpr (fun _ _ => UInt8.toNat_inj.mp) digits)

end Bytes

namespace Crypto

theorem Sha256.length_hash (message : Bytes) : (Sha256.hash message).length = 32 := by
  unfold hash State.bytes
  simp [bigEndian]

namespace Rsa

/-- Each step halves the exponent. -/
theorem powMod_eq {n fuel e : Nat} (base : Nat) (enough : e < 2 ^ fuel) :
    powMod base n fuel e = base ^ e % n := by
  induction fuel generalizing base e with
  | zero =>
    obtain rfl : e = 0 := by simpa using enough
    rfl
  | succ fuel ih =>
    rw [powMod]
    split
    · rename_i zero
      rw [zero, Nat.pow_zero]
    · have half : powMod (base * base % n) n fuel (e / 2) = base ^ (2 * (e / 2)) % n := by
        rw [ih _ (by omega), ← Nat.pow_mod, ← Nat.pow_two, ← Nat.pow_mul]
      dsimp only
      rw [half]
      split
      · rename_i odd
        rw [Nat.mod_mul_mod, ← Nat.pow_succ]
        congr 2
        omega
      · rename_i even
        congr 2
        omega

theorem length_encoded {size : Nat} (message : Bytes) (room : 54 ≤ size) :
    (encoded size message).length = size := by
  have name : sha256Name.length = 19 := rfl
  simp only [encoded, List.length_cons, List.length_append, List.length_replicate,
    Sha256.length_hash, name]
  omega

namespace PublicKey

variable {k : PublicKey} {message signature : Bytes}

theorem ofDer?_eq_some_iff {bs : Bytes} :
    ofDer? bs = some k ↔ Der.positivePair? bs = some (k.modulus, k.exponent) ∧ k.usable = true := by
  unfold ofDer?
  constructor
  · intro h
    obtain ⟨⟨modulus, exponent⟩, read, h⟩ := Option.bind_eq_some_iff.mp h
    obtain ⟨⟨⟩, usable, same⟩ := Option.bind_eq_some_iff.mp h
    cases same
    exact ⟨read, by simpa [guard] using usable⟩
  · rintro ⟨read, usable⟩
    simp [read, usable]

theorem room_of_usable (usable : k.usable = true) : 54 ≤ k.modulus.length := by
  simp only [PublicKey.usable, Bool.and_eq_true, decide_eq_true_eq] at usable
  omega

/-- The signature is as long as the modulus and below it, and its power is the filled-up hash. -/
theorem verify_iff (usable : k.usable = true) :
    k.verify message signature = true ↔ signature.length = k.modulus.length ∧
      Bytes.toNat signature < Bytes.toNat k.modulus ∧
      Bytes.toNat signature ^ Bytes.toNat k.exponent % Bytes.toNat k.modulus =
        Bytes.toNat (encoded k.modulus.length message) := by
  have enough : Bytes.toNat k.exponent < 2 ^ 34 := by
    simp only [PublicKey.usable, Bool.and_eq_true, decide_eq_true_eq] at usable
    omega
  simp only [verify, powMod_eq _ enough, Bool.and_eq_true, beq_iff_eq, decide_eq_true_eq, and_assoc]

/-- A signature is not valid for messages with different hashes. -/
theorem hash_eq_of_verify {other : Bytes} (usable : k.usable = true)
    (valid : k.verify message signature = true) (valid_other : k.verify other signature = true) :
    Sha256.hash message = Sha256.hash other := by
  have room := room_of_usable usable
  obtain ⟨-, -, power⟩ := (verify_iff usable).mp valid
  obtain ⟨-, -, power_other⟩ := (verify_iff usable).mp valid_other
  have same : encoded k.modulus.length message = encoded k.modulus.length other := by
    rw [← Bytes.toNat_inj (by rw [length_encoded _ room, length_encoded _ room]), ← power,
      power_other]
  simpa [encoded, Sha256.length_hash] using same

end PublicKey
end Rsa
end Crypto
end CallGuard
