import Tether.Nonce
import Tether.Proofs.Bytes.Hex
import Tether.Proofs.Namespace.Reading
import Mathlib.Data.Set.Function

/-! # Nonces that are drawn

A nonce that was drawn is hexadecimal text of a known length. Nonces of this kind and strings of
sixteen bytes are one to one, and nothing but its own text is taken for a nonce.
-/

namespace Tether

open Act

variable {τ : Type} {bs cs : Bytes} {n : Nonce}

namespace Nonce

theorem ofBytes_eq_ok_iff :
    ofBytes bs = .ok n ↔ bs.length = nonceBytes ∧ n = ⟨Hex.encode bs⟩ := by
  rw [ofBytes]
  split
  · rename_i h
    simp [h, eq_comm]
  · rename_i h
    simp [h]

theorem ofBytes_of_length (h : bs.length = nonceBytes) : ofBytes bs = .ok ⟨Hex.encode bs⟩ :=
  ofBytes_eq_ok_iff.mpr ⟨h, rfl⟩

theorem mem_digits_of_ofBytes (h : ofBytes bs = .ok n) {c : Char} (hc : c ∈ n.value.toList) :
    c ∈ Hex.digits := by
  obtain ⟨-, rfl⟩ := ofBytes_eq_ok_iff.mp h
  rw [Hex.encode, String.toList_ofList] at hc
  exact Hex.mem_digits_of_mem_encodeChars hc

theorem isAscii_of_ofBytes (h : ofBytes bs = .ok n) : n.IsAscii :=
  fun _ hc => Hex.lt_of_mem_digits (mem_digits_of_ofBytes h hc)

theorem size_of_ofBytes (h : ofBytes bs = .ok n) : n.size = 2 * nonceBytes := by
  obtain ⟨hbs, rfl⟩ := ofBytes_eq_ok_iff.mp h
  rw [size, Hex.encode, ← String.length_toList, String.toList_ofList, Hex.length_encodeChars, hbs]

/-- Thirty-two lowercase hexadecimal digits. -/
structure IsHexadecimal (n : Nonce) : Prop where
  size : n.size = 32
  digits : ∀ c ∈ n.value.toList, c ∈ Hex.digits

/-- A nonce that is the text of some bytes, and for which nothing else than its own characters, one
byte each, is taken. -/
structure Spells (n : Nonce) (bs : Bytes) : Prop extends n.IsHexadecimal where
  decode : Hex.decode n.value = some bs
  admits : ∀ candidate : Bytes, n.admits candidate =
    .ok (decide (candidate.map UInt8.toNat = n.value.toList.map Char.toNat))

theorem IsAscii.map_bytes (h : n.IsAscii) :
    n.bytes.map UInt8.toNat = n.value.toList.map Char.toNat := by
  rw [bytes, Bytes.ofAscii, List.map_map]
  refine List.map_congr_left fun c hc => ?_
  have hc := h c hc
  exact UInt8.toNat_ofNat_of_lt' (by simp only [UInt8.size]; omega)

theorem IsAscii.admits_eq_decide (h : n.IsAscii) (candidate : Bytes) : n.admits candidate =
    .ok (decide (candidate.map UInt8.toNat = n.value.toList.map Char.toNat)) := by
  have hsame : n.bytes = candidate ↔
      candidate.map UInt8.toNat = n.value.toList.map Char.toNat := by
    rw [← h.map_bytes, List.map_inj_right fun _ _ => UInt8.toNat_inj.mp, eq_comm]
  rw [h.admits, Except.ok.injEq, Bool.eq_iff_iff, beq_iff_eq, decide_eq_true_iff, hsame]

theorem spells_of_ofBytes (h : ofBytes bs = .ok n) : n.Spells bs := by
  refine ⟨⟨size_of_ofBytes h, fun c hc => mem_digits_of_ofBytes h hc⟩, ?_,
    (isAscii_of_ofBytes h).admits_eq_decide⟩
  obtain ⟨-, rfl⟩ := ofBytes_eq_ok_iff.mp h
  exact Hex.decode_encode bs

theorem Spells.unique (h : n.Spells bs) (h' : n.Spells cs) : bs = cs :=
  Option.some.inj (h.decode.symm.trans h'.decode)

theorem IsHexadecimal.exists_ofBytes (h : n.IsHexadecimal) :
    ∃ bs, bs.length = nonceBytes ∧ ofBytes bs = .ok n := by
  have hlength : n.value.toList.length = 2 * nonceBytes := by
    rw [String.length_toList]
    exact h.size
  obtain ⟨bs, hbs, hchars⟩ := Hex.exists_encodeChars_eq hlength h.digits
  refine ⟨bs, hbs, ofBytes_eq_ok_iff.mpr ⟨hbs, ?_⟩⟩
  rw [Hex.encode, hchars, String.ofList_toList]

theorem ofBytes_bijOn :
    Set.BijOn ofBytes {bs | bs.length = nonceBytes} {r | ∃ n, r = .ok n ∧ n.IsHexadecimal} := by
  refine ⟨?_, ?_, ?_⟩
  · intro bs hbs
    have h := ofBytes_of_length hbs
    exact ⟨_, h, (spells_of_ofBytes h).toIsHexadecimal⟩
  · intro bs hbs cs _ heq
    have h := ofBytes_of_length hbs
    exact (spells_of_ofBytes h).unique (spells_of_ofBytes (heq.symm.trans h))
  · rintro _ ⟨n, rfl, hn⟩
    exact hn.exists_ofBytes

/-- What becomes of the answer of a random source. -/
inductive Becomes : Except Failure Bytes → Except Failure Nonce → Prop
  | drawn {bs : Bytes} {n : Nonce} (length : bs.length = 16) (spells : n.Spells bs) :
    Becomes (.ok bs) (.ok n)
  | short {bs : Bytes} (length : bs.length ≠ 16) :
    Becomes (.ok bs) (.error (.random (.short bs.length)))
  | failed {f : Failure} : Becomes (.error f) (.error (.random (.failed f.text)))

theorem becomes_ofBytes (bs : Bytes) : Becomes (.ok bs) (ofBytes bs) := by
  by_cases h : bs.length = nonceBytes
  · have hn := ofBytes_of_length h
    rw [hn]
    exact .drawn h (spells_of_ofBytes hn)
  · rw [ofBytes, if_neg h]
    exact .short h

theorem exec_generate (source : Nat → Act τ Bytes) (s : Surroundings τ) :
    exec (generate source) s = match exec (source nonceBytes) s with
      | (.ok bs, t) => (ofBytes bs, t)
      | (.error f, t) => (.error (.random (.failed f.text)), t) := by
  rw [generate, exec_bind, exec_tryCatch]
  rcases exec (source nonceBytes) s with ⟨_ | _, t⟩
  · rfl
  · exact exec_lift _ t

/-- A random source is asked once, and exactly sixteen bytes become a nonce. Strings of sixteen
bytes and nonces of thirty-two lowercase hexadecimal digits are one to one. -/
theorem generate_bijOn (source : Nat → Act τ Bytes) (s : Surroundings τ) :
    Becomes (exec (source 16) s).1 (exec (generate source) s).1 ∧
      (exec (generate source) s).2 = (exec (source 16) s).2 ∧
      Set.BijOn (fun bs => (exec (generate fun _ => pure bs) s).1) {bs | bs.length = 16}
        {r | ∃ n, r = .ok n ∧ n.IsHexadecimal} := by
  have hpure (bs : Bytes) : (exec (generate fun _ => pure bs) s).1 = ofBytes bs := by
    rw [exec_generate, exec_pure]
  refine ⟨?_, ?_, ?_⟩
  · rw [exec_generate, nonceBytes]
    rcases exec (source 16) s with ⟨f | bs, t⟩
    · exact .failed
    · exact becomes_ofBytes bs
  · rw [exec_generate, nonceBytes]
    rcases exec (source 16) s with ⟨f | bs, t⟩ <;> rfl
  · simp only [hpure]
    exact ofBytes_bijOn

end Nonce

end Tether
