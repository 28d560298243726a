import PipelineWatch.Digest.Sha256

/-!
The digits of a hash: 64 of them, and different for different hashes.
-/
namespace PipelineWatch.Digest.Sha256

/-- Two different messages with one hash. -/
def Collide (m n : List UInt8) : Prop :=
  m ≠ n ∧ hash m = hash n

theorem length_hash (message : List UInt8) : (hash message).length = 32 := rfl

theorem length_hex (message : List UInt8) : (hex message).toList.length = 64 := by
  have pairs : ∀ bytes : List UInt8, (bytes.flatMap byteDigits).length = 2 * bytes.length := by
    intro bytes
    induction bytes with
    | nil => rfl
    | cons b bytes ih =>
      rw [List.flatMap_cons, List.length_append, ih, List.length_cons]
      show 2 + _ = _
      omega
  rw [hex, String.toList_ofList, pairs, length_hash]

theorem digitChar_injective {m n : Nat} (hm : m < 16) (hn : n < 16)
    (h : Nat.digitChar m = Nat.digitChar n) : m = n := by
  have key : ∀ a b : Fin 16, Nat.digitChar a = Nat.digitChar b → a = b := by decide
  exact Fin.mk.inj (key ⟨m, hm⟩ ⟨n, hn⟩ h)

theorem byteDigits_injective {a b : UInt8} (h : byteDigits a = byteDigits b) : a = b := by
  have ha := a.toNat_lt
  have hb := b.toNat_lt
  simp only [byteDigits, List.cons.injEq, and_true] at h
  have hhigh := digitChar_injective (by omega) (by omega) h.1
  have hlow := digitChar_injective (by omega) (by omega) h.2
  exact UInt8.toNat_inj.mp (by omega)

/-- The digits tell the hash. -/
theorem hash_eq_of_hex_eq {m n : List UInt8} (h : hex m = hex n) : hash m = hash n := by
  have digits : ∀ as bs : List UInt8, as.flatMap byteDigits = bs.flatMap byteDigits → as = bs := by
    intro as
    induction as with
    | nil =>
      intro bs h
      cases bs with
      | nil => rfl
      | cons b bs => cases h
    | cons a as ih =>
      intro bs h
      cases bs with
      | nil => cases h
      | cons b bs =>
        rw [List.flatMap_cons, List.flatMap_cons] at h
        obtain ⟨hhead, hrest⟩ := List.append_inj h rfl
        rw [byteDigits_injective hhead, ih bs hrest]
  exact digits _ _ (String.ofList_injective h)

/-- Of one hash there is one message, or else a collision. -/
theorem eq_or_collide {m n : List UInt8} (h : hex m = hex n) : m = n ∨ Collide m n := by
  by_cases he : m = n
  · exact .inl he
  · exact .inr ⟨he, hash_eq_of_hex_eq h⟩

end PipelineWatch.Digest.Sha256
