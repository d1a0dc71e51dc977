import Tether.Proofs.Act.Exec
import Tether.Proofs.Bytes.Wire
import Tether.Remote.Channel
import Mathlib.Data.List.Perm.Subperm

/-! # Requests for a terminal, read back

A request for a terminal is read field by field, and its modes up to the first opcode that is zero.
What was asked for comes back and nothing is left over. If something does not fit its field,
nothing is sent.
-/

namespace Tether

open Act

variable {τ : Type}

namespace Pty

structure Request where
  channel : Int
  kind : String
  wantsReply : Bool
  term : String
  width : Int
  height : Int
  pixelWidth : Int
  pixelHeight : Int
  modes : List (Int × Int)
  deriving DecidableEq

def readModes? : Bytes → Option (List (Int × Int) × Bytes)
  | [] => none
  | op :: r =>
    if op.toNat = endOfModes then some ([], r)
    else match r with
      | a :: b :: c :: d :: r => do
        let (modes, r) ← readModes? r
        return (((op.toNat : Int), (Bytes.toNat [a, b, c, d] : Int)) :: modes, r)
      | _ => none

/-- Reads a request. Nothing may be left over, neither of the message nor of the modes. -/
def read? : Bytes → Option Request
  | [] => none
  | number :: r => do
    let (channel, r) ← Wire.word? r
    let (kind, r) ← Wire.text? r
    let (wantsReply, r) ← Wire.flag? r
    let (term, r) ← Wire.text? r
    let (width, r) ← Wire.word? r
    let (height, r) ← Wire.word? r
    let (pixelWidth, r) ← Wire.word? r
    let (pixelHeight, r) ← Wire.word? r
    let (encoded, r) ← Wire.whole? r
    let (modes, left) ← readModes? encoded
    if number = channelRequest ∧ r = [] ∧ left = [] then
      some { channel, kind, wantsReply, term, width, height, pixelWidth, pixelHeight, modes }
    else none

def Fits (width : Nat) (n : Int) : Prop := 0 ≤ n ∧ n < 2 ^ (8 * width)

instance (width : Nat) (n : Int) : Decidable (Fits width n) :=
  inferInstanceAs (Decidable (_ ∧ _))

structure Sendable (channel : Int) (term : String) (width height : Int)
    (modes : List (Int × Int)) : Prop where
  channel : Fits 4 channel
  term : (Utf8.encode term).length < 2 ^ 32
  width : Fits 4 width
  height : Fits 4 height
  modes : ∀ m ∈ modes, Fits 1 m.1 ∧ Fits 4 m.2

section Encoding

variable {channel w h n : Int} {term : String} {modes : List (Int × Int)} {bs message : Bytes}
  {width : Nat}

theorem field?_eq_some_iff :
    field? width n = some bs ↔ Fits width n ∧ bs = Bytes.ofNat width n.toNat := by
  have hfits : (0 ≤ n ∧ n < (1 <<< (8 * width) : Nat)) ↔ Fits width n := by
    rw [Fits, Nat.one_shiftLeft]
    simp
  by_cases hn : Fits width n
  · rw [field?, if_pos (hfits.mpr hn)]
    simp [hn, eq_comm]
  · rw [field?, if_neg (mt hfits.mp hn)]
    simp [hn]

theorem string?_eq_some_iff {s : Bytes} :
    string? s = some bs ↔ s.length < 2 ^ 32 ∧ bs = Wire.putString s := by
  have hfits : Fits 4 s.length ↔ s.length < 2 ^ 32 := by
    rw [Fits]
    omega
  simp only [string?, Option.bind_eq_bind, Option.bind_eq_some_iff, field?_eq_some_iff, hfits]
  constructor
  · rintro ⟨_, ⟨hlength, rfl⟩, hbs⟩
    exact ⟨hlength, (Option.some.inj hbs).symm⟩
  · rintro ⟨hlength, rfl⟩
    exact ⟨_, ⟨hlength, rfl⟩, rfl⟩

def putModes : List (Int × Int) → Bytes
  | [] => [UInt8.ofNat endOfModes]
  | (op, value) :: r => Bytes.ofNat 1 op.toNat ++ Wire.putWord value.toNat ++ putModes r

theorem encodeModes?_eq_some_iff :
    encodeModes? modes = some bs ↔
      (∀ m ∈ modes, Fits 1 m.1 ∧ Fits 4 m.2) ∧ bs = putModes modes := by
  induction modes generalizing bs with
  | nil => simp [encodeModes?, putModes, eq_comm]
  | cons m r ih =>
    simp only [encodeModes?, Option.bind_eq_bind, Option.bind_eq_some_iff, field?_eq_some_iff, ih,
      List.forall_mem_cons]
    constructor
    · rintro ⟨_, ⟨hop, rfl⟩, _, ⟨hvalue, rfl⟩, _, ⟨hr, rfl⟩, hbs⟩
      exact ⟨⟨⟨hop, hvalue⟩, hr⟩, (Option.some.inj hbs).symm⟩
    · rintro ⟨⟨⟨hop, hvalue⟩, hr⟩, rfl⟩
      exact ⟨_, ⟨hop, rfl⟩, _, ⟨hvalue, rfl⟩, _, ⟨hr, rfl⟩, rfl⟩

theorem length_putModes (modes : List (Int × Int)) :
    (putModes modes).length = 5 * modes.length + 1 := by
  induction modes with
  | nil => rfl
  | cons m r ih =>
    simp only [putModes, Wire.putWord, List.length_append, Bytes.length_ofNat, ih, List.length_cons]
    omega

theorem length_le_of_nodup (hdistinct : (modes.map Prod.fst).Nodup)
    (hmodes : ∀ m ∈ modes, Fits 1 m.1 ∧ Fits 4 m.2) : modes.length ≤ 256 := by
  have hsubset : modes.map Prod.fst ⊆ (List.range 256).map Int.ofNat := by
    intro op hop
    obtain ⟨m, hm, rfl⟩ := List.mem_map.mp hop
    obtain ⟨⟨hlow, hhigh⟩, -⟩ := hmodes m hm
    exact List.mem_map.mpr ⟨m.1.toNat, List.mem_range.mpr (by omega), Int.toNat_of_nonneg hlow⟩
  have hlength := (hdistinct.subperm hsubset).length_le
  rwa [List.length_map, List.length_map, List.length_range] at hlength

theorem length_putModes_lt (hdistinct : (modes.map Prod.fst).Nodup)
    (hmodes : ∀ m ∈ modes, Fits 1 m.1 ∧ Fits 4 m.2) : (putModes modes).length < 2 ^ 32 := by
  have hlength := length_le_of_nodup hdistinct hmodes
  rw [length_putModes]
  omega

def putRequest (channel : Int) (term : String) (w h : Int) (modes : List (Int × Int)) : Bytes :=
  channelRequest :: (Wire.putWord channel.toNat ++ (Wire.putText "pty-req" ++ ([1] ++
    (Wire.putText term ++ (Wire.putWord w.toNat ++ (Wire.putWord h.toNat ++ (Wire.putWord 0 ++
    (Wire.putWord 0 ++ Wire.putString (putModes modes)))))))))

theorem request?_eq_some_iff (hdistinct : (modes.map Prod.fst).Nodup) :
    request? channel term w h modes = some message ↔
      Sendable channel term w h modes ∧ message = putRequest channel term w h modes := by
  have hput : putRequest channel term w h modes = channelRequest ::
      (Bytes.ofNat 4 channel.toNat ++ Wire.putText "pty-req" ++ [1] ++ Wire.putText term ++
        Bytes.ofNat 4 w.toNat ++ Bytes.ofNat 4 h.toNat ++ Wire.putWord 0 ++ Wire.putWord 0 ++
        Wire.putString (putModes modes)) := by
    simp only [putRequest, Wire.putWord, List.append_assoc]
  simp only [request?, Option.bind_eq_bind, Option.bind_eq_some_iff, encodeModes?_eq_some_iff,
    field?_eq_some_iff, string?_eq_some_iff]
  constructor
  · rintro ⟨_, ⟨hmodes, rfl⟩, _, ⟨hchannel, rfl⟩, _, ⟨hterm, rfl⟩, _, ⟨hw, rfl⟩, _, ⟨hh, rfl⟩, _,
      ⟨-, rfl⟩, hmessage⟩
    exact ⟨⟨hchannel, hterm, hw, hh, hmodes⟩, hput ▸ (Option.some.inj hmessage).symm⟩
  · rintro ⟨hfits, rfl⟩
    have hshort := length_putModes_lt hdistinct hfits.modes
    exact ⟨_, ⟨hfits.modes, rfl⟩, _, ⟨hfits.channel, rfl⟩, _, ⟨hfits.term, rfl⟩, _,
      ⟨hfits.width, rfl⟩, _, ⟨hfits.height, rfl⟩, _, ⟨hshort, rfl⟩, congrArg some hput.symm⟩

end Encoding

section Reading

variable {channel w h : Int} {term : String} {modes : List (Int × Int)}

theorem Fits.toNat {width : Nat} {n : Int} (h : Fits width n) : n.toNat < 2 ^ (8 * width) := by
  have hcast : ((2 ^ (8 * width) : Nat) : Int) = 2 ^ (8 * width) := by push_cast; rfl
  have := h.1
  have := h.2
  omega

theorem readModes?_cons {op value : Int} {r : Bytes} (hop : Fits 1 op) (hvalue : Fits 4 value)
    (hopcode : op ≠ endOfModes) :
    readModes? (Bytes.ofNat 1 op.toNat ++ Wire.putWord value.toNat ++ r) =
      (readModes? r).map fun (modes, left) => ((op, value) :: modes, left) := by
  have hopByte : (UInt8.ofNat (op.toNat % 256)).toNat = op.toNat := by
    have hlt : op.toNat < 256 := hop.toNat
    simp [Nat.mod_eq_of_lt hlt]
  have hend : ¬ op.toNat = endOfModes := fun h => hopcode (by have := hop.1; omega)
  have hread := Bytes.toNat_ofNat hvalue.toNat
  rw [show Bytes.ofNat 1 op.toNat = [UInt8.ofNat (op.toNat % 256)] from rfl]
  simp only [Wire.putWord, Bytes.ofNat, List.nil_append, List.cons_append] at hread ⊢
  rw [readModes?, hopByte, if_neg hend]
  dsimp only
  rw [hread, Int.toNat_of_nonneg hop.1, Int.toNat_of_nonneg hvalue.1]
  cases readModes? r <;> rfl

theorem readModes?_putModes (hmodes : ∀ m ∈ modes, Fits 1 m.1 ∧ Fits 4 m.2)
    (hopcodes : ∀ m ∈ modes, m.1 ≠ endOfModes) : readModes? (putModes modes) = some (modes, []) := by
  induction modes with
  | nil => rfl
  | cons m r ih =>
    obtain ⟨⟨hop, hvalue⟩, hr⟩ := List.forall_mem_cons.mp hmodes
    obtain ⟨hopcode, hrest⟩ := List.forall_mem_cons.mp hopcodes
    rw [putModes, readModes?_cons hop hvalue hopcode, ih hr hrest]
    rfl

theorem read?_putRequest (hfits : Sendable channel term w h modes)
    (hdistinct : (modes.map Prod.fst).Nodup) (hopcodes : ∀ m ∈ modes, m.1 ≠ endOfModes) :
    read? (putRequest channel term w h modes) = some {
      channel, kind := "pty-req", wantsReply := true, term, width := w, height := h
      pixelWidth := 0, pixelHeight := 0, modes } := by
  have hkind : (Utf8.encode "pty-req").length < 2 ^ 32 := by decide
  have hflag (r : Bytes) : Wire.flag? ([1] ++ r) = some (true, r) := rfl
  have hlast := Wire.whole?_putString (r := []) (length_putModes_lt hdistinct hfits.modes)
  rw [List.append_nil] at hlast
  simp only [read?, putRequest, Wire.word?_putWord hfits.channel.toNat, Wire.text?_putText hkind,
    hflag, Wire.text?_putText hfits.term, Wire.word?_putWord hfits.width.toNat,
    Wire.word?_putWord hfits.height.toNat, Wire.word?_putWord (n := 0) (by decide), hlast,
    readModes?_putModes hfits.modes hopcodes, Option.bind_eq_bind, Option.bind_some, and_self, if_true,
    Int.toNat_of_nonneg hfits.channel.1, Int.toNat_of_nonneg hfits.width.1,
    Int.toNat_of_nonneg hfits.height.1, Int.natCast_zero]

end Reading

end Pty

namespace Remote

def madeUpTo (s : Surroundings τ) :
    List (Event τ × Option Failure) → Except Failure Unit × Surroundings τ
  | [] => (.ok (), s)
  | (e, failure) :: r =>
    let t : Surroundings τ := { s with events := s.events ++ [e] }
    match failure with
    | some f => (.error f, t)
    | none => madeUpTo t r

/-- What the request for a terminal on a channel comes to. -/
inductive Sending (i : Nat) (term : String) (width height : Int) (modes : List (Int × Int))
    (s : Surroundings τ) (ch : Channel) : Prop
  /-- Nothing is sent, and the channel does not wait for an answer. -/
  | refused (unfit : ¬ Pty.Sendable ch.number term width height modes)
      (fails : exec (sendPtyRequest i term width height modes) s = (.error .outOfField, s))
  | sent (message : Bytes) (fits : Pty.Sendable ch.number term width height modes)
      (read : (∀ m ∈ modes, m.1 ≠ Pty.endOfModes) → Pty.read? message = some {
        channel := ch.number, kind := "pty-req", wantsReply := true, term, width, height
        pixelWidth := 0, pixelHeight := 0, modes })
      (sends : exec (sendPtyRequest i term width height modes) s = madeUpTo s [
        (.channel i .eventPending, ch.faults.eventPending),
        (.userMessage message, ch.faults.userMessage),
        (.channel i .waitForEvent, ch.faults.waitForEvent)])

theorem exec_sendPtyRequest_eq (i : Nat) (term : String) (width height : Int)
    (modes : List (Int × Int)) (s : Surroundings τ) :
    exec (sendPtyRequest i term width height modes) s =
      let ch := s.connection.channels[i]?.getD {}
      match Pty.request? ch.number term width height modes with
      | none => (.error .outOfField, s)
      | some message => madeUpTo s [
        (.channel i .eventPending, ch.faults.eventPending),
        (.userMessage message, ch.faults.userMessage),
        (.channel i .waitForEvent, ch.faults.waitForEvent)] := by
  have hchannel : exec (channel i) s = (.ok (s.connection.channels[i]?.getD {}), s) := rfl
  rw [sendPtyRequest, exec_bind, hchannel]
  generalize s.connection.channels[i]?.getD {} = ch
  dsimp only
  cases Pty.request? ch.number term width height modes with
  | none => rfl
  | some message =>
    simp only [call, exec_bind, exec_emit]
    cases ch.faults.eventPending with
    | some f => rfl
    | none =>
      cases ch.faults.userMessage with
      | some f => rfl
      | none => cases ch.faults.waitForEvent <;> rfl

/-- What fits is sent and can be read back, and nothing else is sent. -/
theorem sendPtyRequest_readBack (i : Nat) (term : String) (width height : Int)
    {modes : List (Int × Int)} (hdistinct : (modes.map Prod.fst).Nodup) (s : Surroundings τ) :
    Sending i term width height modes s (s.connection.channels[i]?.getD {}) := by
  have hexec := exec_sendPtyRequest_eq i term width height modes s
  generalize s.connection.channels[i]?.getD {} = ch at hexec ⊢
  dsimp only at hexec
  cases hrequest : Pty.request? ch.number term width height modes with
  | none =>
    rw [hrequest] at hexec
    refine .refused (fun hfits => ?_) hexec
    have hsome := (Pty.request?_eq_some_iff hdistinct).mpr ⟨hfits, rfl⟩
    rw [hrequest] at hsome
    cases hsome
  | some message =>
    rw [hrequest] at hexec
    obtain ⟨hfits, rfl⟩ := (Pty.request?_eq_some_iff hdistinct).mp hrequest
    exact .sent _ hfits (Pty.read?_putRequest hfits hdistinct) hexec

/-- Values may hold zeros and bytes that look like opcodes. -/
theorem sendPtyRequest_readBack_zeros :
    let modes : List (Int × Int) := [(53, 0), (128, 0x35000080)]
    let s : Surroundings Nat := { clock := 0, connection := { channels := [{ number := 7 }] } }
    (modes.map Prod.fst).Nodup ∧ ∃ message,
      exec (sendPtyRequest 0 "xterm" 80 24 modes) s = (.ok (), { s with events :=
        [.channel 0 .eventPending, .userMessage message, .channel 0 .waitForEvent] }) ∧
      Pty.read? message = some {
        channel := 7, kind := "pty-req", wantsReply := true, term := "xterm", width := 80
        height := 24, pixelWidth := 0, pixelHeight := 0, modes } := by
  intro modes s
  have hdistinct : (modes.map Prod.fst).Nodup := by decide
  have hfits : Pty.Sendable 7 "xterm" 80 24 modes :=
    ⟨by decide, by decide, by decide, by decide, by decide⟩
  refine ⟨hdistinct, ?_⟩
  cases sendPtyRequest_readBack 0 "xterm" 80 24 hdistinct s with
  | refused unfit => exact absurd hfits unfit
  | sent message fits read sends => exact ⟨message, sends, read (by decide)⟩

end Remote

end Tether
