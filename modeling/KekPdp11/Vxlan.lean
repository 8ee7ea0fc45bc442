import KekPdp11.Word
import KekPdp11.Lib.Slices
import Mathlib.Data.List.GetD
import Mathlib.Data.List.TakeDrop
import Mathlib.Tactic.IntervalCases

/-!
# KEK PDP-11: Ethernet over VXLAN

Class eth_transport_vxlan, built for POSIX: transmit puts a header of eight
bytes before a frame and sends both as a datagram, get receives a datagram and
takes the header off.  What the system calls do is a parameter.

The receive buffer holds 1512 bytes and the rest of a datagram is lost, so that
a frame comes back whole up to 1504 bytes.
-/

namespace KekPdp11

open Slices

structure VxlanTransport where
  id : BitVec 32
  pktCntTx : BitVec 64
  pktCntRx : BitVec 64

/-- What poll and recv find in the time that get waits. -/
inductive Reception where
  | nothing
  | failed
  | datagram (bytes : List Byte)

/-- What transmit does. -/
structure Transmission where
  rc : Bool
  sent : List (List Byte)
  transport : VxlanTransport

namespace VxlanTransport

def maxPktSize : Nat := 1512

/-- The new array with the bytes of the header. -/
def header (id : BitVec 32) : Nat → Byte :=
  let wrapped : Nat → Byte := fun _ => 0
  let wrapped := Function.update wrapped 0 0x08
  let wrapped := Function.update wrapped 4 ((id >>> 16).setWidth 8)
  let wrapped := Function.update wrapped 5 ((id >>> 8).setWidth 8)
  Function.update wrapped 6 (id.setWidth 8)

/-- The datagram that transmit builds. -/
def wrapped (id : BitVec 32) (data : List Byte) : List Byte :=
  slice (overwrite (header id) 8 data) 0 (data.length + 8)

/-- inet_aton may reject the peer, and sendto may fail. -/
def transmit (t : VxlanTransport) (data : List Byte) (isPeer isSent : Bool) :
    Transmission :=
  if !isPeer then
    ⟨false, [], t⟩
  else
    ⟨isSent, if isSent then [wrapped t.id data] else [],
      { t with pktCntTx := t.pktCntTx + 1 }⟩

/-- The id in a header. -/
def theirId (pkt : Nat → Byte) : BitVec 32 :=
  (pkt 4).setWidth 32 <<< 16 ||| (pkt 5).setWidth 32 <<< 8 |||
    (pkt 6).setWidth 32

/-- The frame that get returns, if any. -/
def get (t : VxlanTransport) : Reception → Option (List Byte) × VxlanTransport
  | .nothing => (none, t)
  | .failed => (none, t)
  | .datagram bytes =>
      let pkt := overwrite (fun _ => 0) 0 (bytes.take maxPktSize)
      let packetSize := min bytes.length maxPktSize
      let t := { t with pktCntRx := t.pktCntRx + 1 }
      if packetSize < 14 + 8 then (none, t)
      else if pkt 0 ≠ 0x08 ∨ theirId pkt ≠ t.id then (none, t)
      else
        let packetSize := packetSize - 8
        let pkt := overwrite pkt 0 (slice pkt 8 packetSize)
        (some (slice pkt 0 packetSize), t)

section Header

variable (id : BitVec 32) (data : List Byte)

@[simp] theorem length_wrapped :
    (wrapped id data).length = data.length + 8 := by
  simp [wrapped]

theorem getElem?_wrapped
    {i : Nat} (hi : i < 8) :
    (wrapped id data)[i]? = some (header id i) := by
  unfold wrapped
  rw [getElem?_slice (by omega), Nat.zero_add, overwrite_before hi]

/-- The frame lies behind the header. -/
theorem drop_wrapped :
    (wrapped id data).drop 8 = data := by
  unfold wrapped
  rw [Nat.add_comm, slice_add, List.drop_left' (length_slice _ _ _)]
  exact slice_overwrite (header id) 8 data

theorem theirId_congr
    {pkt pkt' : Nat → Byte} (h : ∀ i, i < 8 → pkt i = pkt' i) :
    theirId pkt = theirId pkt' := by
  unfold theirId
  rw [h 4 (by decide), h 5 (by decide), h 6 (by decide)]

/-- The three bytes hold an id of 24 bits. -/
theorem theirId_header
    (hid : id.toNat < 2 ^ 24) :
    theirId (header id) = id := by
  have hhigh : ∀ i (hi : i < 32), 24 ≤ i → id[i] = false := by
    intro i hi hle
    apply Nat.testBit_lt_two_pow
    exact hid.trans_le (Nat.pow_le_pow_right (by decide) hle)
  have h4 : header id 4 = (id >>> 16).setWidth 8 := rfl
  have h5 : header id 5 = (id >>> 8).setWidth 8 := rfl
  have h6 : header id 6 = id.setWidth 8 := rfl
  unfold theirId
  rw [h4, h5, h6]
  ext i hi
  interval_cases i <;> simp [hhigh]

end Header

section Receiving

/-- What get gives of a datagram. -/
theorem get_datagram
    (t : VxlanTransport) (bytes : List Byte) :
    (t.get (.datagram bytes)).1 =
      if 22 ≤ bytes.length ∧ bytes[0]? = some 0x08 ∧
          theirId (fun i => bytes.getD i 0) = t.id then
        some ((bytes.take maxPktSize).drop 8)
      else none := by
  rw [get]
  dsimp only
  generalize hread :
    overwrite (fun _ => 0) 0 (bytes.take maxPktSize) = pkt
  by_cases hlength : 22 ≤ bytes.length
  · have hsize : ¬ min bytes.length maxPktSize < 14 + 8 := by
      unfold maxPktSize
      omega
    have hpkt : ∀ i, i < 8 → pkt i = bytes.getD i 0 := by
      intro i hi
      have hin : i < (bytes.take maxPktSize).length := by
        rw [List.length_take, maxPktSize]
        omega
      have hget : overwrite (fun _ => 0) 0 (bytes.take maxPktSize) (0 + i) =
          (bytes.take maxPktSize)[i] := overwrite_inside hin
      rw [Nat.zero_add, hread, List.getElem_take] at hget
      rw [hget, List.getD_eq_getElem _ _ (by omega)]
    have hflag : bytes[0]? = some 0x08 ↔ pkt 0 = 0x08 := by
      rw [hpkt 0 (by decide), List.getD_eq_getElem _ _ (by omega),
        List.getElem?_eq_getElem (by omega), Option.some_inj]
    have hid : theirId (fun i => bytes.getD i 0) = theirId pkt :=
      (theirId_congr hpkt).symm
    rw [if_neg hsize]
    simp only [hflag, hid]
    by_cases hours : pkt 0 = 0x08 ∧ theirId pkt = t.id
    · have hpass : ¬ (pkt 0 ≠ 0x08 ∨ theirId pkt ≠ t.id) :=
        fun h => h.elim (fun hne => hne hours.1) fun hne => hne hours.2
      rw [if_neg hpass, if_pos ⟨hlength, hours⟩, Option.some_inj]
      have hlengths : (bytes.take maxPktSize).length =
          8 + (min bytes.length maxPktSize - 8) := by
        rw [List.length_take, Nat.min_comm]
        omega
      generalize min bytes.length maxPktSize - 8 = n at hlengths ⊢
      have hmove := slice_overwrite pkt 0 (slice pkt 8 n)
      rw [length_slice] at hmove
      have hbehind := slice_overwrite_inside (fun _ => (0 : Byte)) 0
        (bytes.take maxPktSize) hlengths.ge
      rw [hread, Nat.zero_add] at hbehind
      rw [hmove, hbehind]
      apply List.take_of_length_le
      rw [List.length_drop, hlengths, Nat.add_sub_cancel_left]
    · rw [if_pos (not_and_or.mp hours), if_neg fun h => hours h.2]
  · have hsize : min bytes.length maxPktSize < 14 + 8 := by
      omega
    rw [if_pos hsize, if_neg fun h => hlength h.1]

/-- What get makes of a datagram of its own network. -/
theorem get_wrapped
    (t : VxlanTransport) (data : List Byte)
    (hid : t.id.toNat < 2 ^ 24) (hdata : 14 ≤ data.length) :
    (t.get (.datagram (wrapped t.id data))).1 = some (data.take 1504) := by
  have hbytes : ∀ i, i < 8 → (wrapped t.id data).getD i 0 = header t.id i := by
    intro i hi
    rw [List.getD_eq_getElem?_getD, getElem?_wrapped _ _ hi]
    rfl
  have hours : theirId (fun i => (wrapped t.id data).getD i 0) = t.id :=
     (theirId_congr hbytes).trans (theirId_header t.id hid)
  have hflag : (wrapped t.id data)[0]? = some 0x08 :=
    getElem?_wrapped t.id data (by decide)
  have hlength : 22 ≤ (wrapped t.id data).length := by
    rw [length_wrapped]
    omega
  rw [get_datagram, if_pos ⟨hlength, hflag, hours⟩, List.drop_take,
    drop_wrapped]
  rfl

end Receiving

section RoundTrip

/-- A frame without its checksum. -/
structure EthernetFrame where
  bytes : List Byte
  inRange : 14 ≤ bytes.length ∧ bytes.length ≤ 1514

/-- A frame comes back from the datagram that was sent if and only if it has at
most 1504 bytes; and no datagram gives a frame without the flag, of another
network or of less than 14 bytes. -/
theorem decapsulation_iff
    (t u : VxlanTransport) (frame : EthernetFrame) (bytes data : List Byte) :
    (t.id.toNat < 2 ^ 24 → u.id = t.id →
      ∀ sent ∈ (t.transmit frame.bytes true true).sent,
        ((u.get (.datagram sent)).1 = some frame.bytes ↔
          frame.bytes.length ≤ 1504)) ∧
    ((u.get (.datagram bytes)).1 = some data →
      bytes[0]? = some 0x08 ∧
        theirId (fun i => bytes.getD i 0) = u.id ∧ 14 ≤ data.length) := by
  constructor
  · intro hid hsame sent hsent
    have hsent : sent = wrapped u.id frame.bytes := by
      rw [hsame]
      exact List.mem_singleton.mp hsent
    rw [hsent, u.get_wrapped frame.bytes (hsame ▸ hid) frame.inRange.1,
      Option.some_inj]
    exact List.take_eq_self_iff _
  · intro h
    rw [get_datagram] at h
    split at h
    · rename_i hours
      cases h
      refine ⟨hours.2.1, hours.2.2, ?_⟩
      rw [List.length_drop, List.length_take, maxPktSize]
      omega
    · cases h

/-- A frame of 60 bytes on network 5 comes back. -/
theorem decapsulation_sixty :
    (⟨5, 0, 0⟩ : VxlanTransport).id.toNat < 2 ^ 24 ∧
    ((⟨5, 0, 0⟩ : VxlanTransport).get (.datagram
      (wrapped 5 (List.replicate 60 1)))).1 = some (List.replicate 60 1) :=
  ⟨by decide,
    ((decapsulation_iff ⟨5, 0, 0⟩ ⟨5, 0, 0⟩ ⟨List.replicate 60 1, by decide⟩ []
      []).1 (by decide) rfl _ (List.mem_singleton_self _)).mpr (by decide)⟩

/-- A frame of 1505 bytes loses its last one. -/
theorem decapsulation_truncates :
    ((⟨5, 0, 0⟩ : VxlanTransport).get (.datagram
      (wrapped 5 (List.replicate 1505 1)))).1 ≠
        some (List.replicate 1505 1) := by
  have hdata : 14 ≤ (List.replicate 1505 (1 : Byte)).length := by
    rw [List.length_replicate]
    decide
  rw [get_wrapped ⟨5, 0, 0⟩ _ (by decide) hdata]
  intro h
  have hlength := congrArg List.length (Option.some_inj.mp h)
  rw [List.length_take, List.length_replicate] at hlength
  omega

end RoundTrip

end VxlanTransport

end KekPdp11
