import Tether.Namespace.Tunnel
import Tether.Proofs.Text.Number

/-! # Addresses on the loopback interface

The port of an address is what stands after its last colon, if that consists of
digits. The text of a number reads back as digits, so that the port of an address on
the loopback interface is found again, unless it is negative.
-/

namespace Tether

namespace Text

variable {cs : List Char}

theorem splitLast?_append {c : Char} {host port : List Char} (h : c ∉ port) :
    splitLast? c (host ++ c :: port) = some (host, port) := by
  have htail : ((host ++ c :: port).reverse.takeWhile (· ≠ c)).reverse = port := by
    rw [List.reverse_append, List.reverse_cons, List.append_assoc, List.takeWhile_append_of_pos]
    · simp
    · intro d hd
      simpa using fun e : d = c => h (e ▸ List.mem_reverse.mp hd)
  have hlength : (host ++ c :: port).length = host.length + port.length + 1 := by
    simp only [List.length_append, List.length_cons]
    omega
  have hhost : host.length + port.length + 1 - port.length - 1 = host.length := by omega
  rw [splitLast?, htail, hlength, if_pos (by omega), hhost, List.take_left']
  rfl

theorem splitLast?_of_not_mem {c : Char} (h : c ∉ cs) : splitLast? c cs = none := by
  have hall : cs.reverse.takeWhile (· ≠ c) = cs.reverse := by
    rw [List.takeWhile_eq_self_iff]
    intro d hd
    simpa using fun e : d = c => h (e ▸ List.mem_reverse.mp hd)
  rw [splitLast?, hall, List.reverse_reverse, if_neg (lt_irrefl _)]

theorem splitLast?_eq_some_iff {c : Char} {host port : List Char} :
    splitLast? c cs = some (host, port) ↔ cs = host ++ c :: port ∧ c ∉ port := by
  constructor
  · intro h
    by_cases hmem : c ∈ cs
    · obtain ⟨back, front, hsplit, hback⟩ := List.eq_append_cons_of_mem (List.mem_reverse.mpr hmem)
      have hcs : cs = front.reverse ++ c :: back.reverse := by
        rw [← cs.reverse_reverse, hsplit]
        simp
      have hport : c ∉ back.reverse := fun hc => hback (List.mem_reverse.mp hc)
      rw [hcs, splitLast?_append hport] at h
      cases h
      exact ⟨hcs, hport⟩
    · rw [splitLast?_of_not_mem hmem] at h
      cases h
  · rintro ⟨rfl, hport⟩
    exact splitLast?_append hport

end Text

namespace Tunnel

theorem toList_toString (n : Nat) : (toString n).toList = Nat.toDigits 10 n := by
  rw [Nat.toString_eq_repr, Nat.toList_repr]

theorem isDigit_of_mem_toString {n : Nat} {c : Char} (h : c ∈ (toString n).toList) : c.isDigit :=
  Nat.isDigit_of_mem_toDigits (by decide) (by decide) (toList_toString n ▸ h)

theorem toString_ne_nil (n : Nat) : (toString n).toList ≠ [] := by
  rw [toList_toString]
  exact Nat.toDigits_ne_nil

theorem splitAddress?_of_not_mem (host : String) {port : String} (h : ':' ∉ port.toList) :
    splitAddress? s!"{host}:{port}" =
      if port.toList ≠ [] ∧ port.toList.all Text.isDigit then some (host, port) else none := by
  have htext : (s!"{host}:{port}").toList = host.toList ++ ':' :: port.toList := by
    simp [String.toList_append, toString]
  rw [splitAddress?, htext, Text.splitLast?_append h]
  simp

theorem splitAddress?_nat (host : String) (n : Nat) :
    splitAddress? s!"{host}:{n}" = some (host, toString n) := by
  have hcolon : ':' ∉ (toString n).toList := fun h =>
    absurd (isDigit_of_mem_toString h) (by decide)
  have hall : (toString n).toList.all Text.isDigit := by
    rw [List.all_eq_true]
    intro c hc
    rw [Text.isDigit, Text.isDecimal_of_isDigit (isDigit_of_mem_toString hc), Bool.true_or]
  have hsplit := splitAddress?_of_not_mem host hcolon
  rwa [if_pos ⟨toString_ne_nil n, hall⟩] at hsplit

/-- The port that an address names: the digits after its last colon. -/
structure IsPortOf (address port : String) : Prop where
  after : ∃ host : String, address = s!"{host}:{port}"
  last : ':' ∉ port.toList
  digits : port.toList ≠ [] ∧ port.toList.all Text.isDigit

theorem splitAddress?_of_isPortOf {address host port : String} (hcut : address = s!"{host}:{port}")
    (h : IsPortOf address port) : splitAddress? address = some (host, port) := by
  rw [hcut, splitAddress?_of_not_mem host h.last, if_pos h.digits]

theorem parsePort_eq_ok_iff {address port : String} :
    parsePort address = .ok port ↔ IsPortOf address port := by
  constructor
  · intro h
    rw [parsePort, splitAddress?] at h
    cases hsplit : Text.splitLast? ':' address.toList with
    | none =>
      rw [hsplit] at h
      cases h
    | some parts =>
      obtain ⟨host, digits⟩ := parts
      obtain ⟨htext, hlast⟩ := Text.splitLast?_eq_some_iff.mp hsplit
      simp only [hsplit] at h
      by_cases hdigits : digits ≠ [] ∧ digits.all Text.isDigit
      · rw [if_pos hdigits] at h
        obtain rfl : String.ofList digits = port := Except.ok.inj h
        refine ⟨⟨String.ofList host, ?_⟩, by simpa using hlast, by simpa using hdigits⟩
        rw [← String.toList_inj, htext]
        simp [String.toList_append, toString]
      · rw [if_neg hdigits] at h
        cases h
  · intro h
    obtain ⟨host, hcut⟩ := h.after
    rw [parsePort, splitAddress?_of_isPortOf hcut h]

theorem parsePort_eq_error {address : String} {f : Failure} (h : parsePort address = .error f) :
    f = .tunnel (.noPort address) ∧ ∀ port, ¬ IsPortOf address port := by
  constructor
  · rw [parsePort] at h
    split at h
    · cases h
    · exact (Except.error.inj h).symm
  · intro port hport
    rw [parsePort_eq_ok_iff.mpr hport] at h
    cases h

theorem parsePort_int (host : String) (p : Int) :
    parsePort s!"{host}:{p}" =
      if 0 ≤ p then .ok (toString p) else .error (.tunnel (.noPort s!"{host}:{p}")) := by
  cases p with
  | ofNat n =>
    have hsplit : splitAddress? s!"{host}:{Int.ofNat n}" = some (host, toString n) :=
      splitAddress?_nat host n
    rw [parsePort, hsplit, if_pos (show 0 ≤ Int.ofNat n from Int.natCast_nonneg n)]
    rfl
  | negSucc n =>
    have htext : (toString (Int.negSucc n)).toList = '-' :: (toString (n + 1)).toList := by
      simp [toString, Int.repr, String.toList_append]
    have hcolon : ':' ∉ (toString (Int.negSucc n)).toList := by
      rw [htext, List.mem_cons, not_or]
      exact ⟨by decide, fun h => absurd (isDigit_of_mem_toString h) (by decide)⟩
    have hsplit := splitAddress?_of_not_mem host hcolon
    have hminus : Text.isDigit '-' = false := by decide
    rw [if_neg (by rw [htext, List.all_cons, hminus]; simp)] at hsplit
    have hnone : splitAddress? s!"{host}:{Int.negSucc n}" = none := hsplit
    rw [parsePort, hnone, if_neg (by omega)]

end Tunnel

end Tether
