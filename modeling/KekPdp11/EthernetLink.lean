import KekPdp11.TransmitGather
import KekPdp11.Vxlan

/-!
# KEK PDP-11: two machines on an Ethernet

A DEQNA with its VXLAN transport, at both ends.  What the guest of one machine
puts into the buffers of its transmit list is what the guest of the other one
finds in the buffer of its receive list, up to 1504 bytes of a frame.

Every datagram is sent and comes to every station; receiver_low and
receiver_high run one after the other for each.
-/

namespace KekPdp11

open Gather

/-- A machine as the network sees it. -/
structure Station where
  transport : VxlanTransport
  macAddress : List Byte
  deqna : Deqna
  ram : Ram

/-- bc_addr. -/
def bcAddr : List Byte := List.replicate 6 0xff

namespace VxlanTransport

/-- Frames that are sent one after the other. -/
def transmitAll (t : VxlanTransport) :
    List (List Byte) → List (List Byte) × VxlanTransport
  | [] => ([], t)
  | frame :: frames =>
      let sending := t.transmit frame true true
      let rest := sending.transport.transmitAll frames
      (sending.sent ++ rest.1, rest.2)

theorem transmitAll_sent
    (t : VxlanTransport) (frames : List (List Byte)) :
    (t.transmitAll frames).1 = frames.map (wrapped t.id) := by
  induction frames generalizing t with
  | nil =>
      rfl
  | cons frame frames ih =>
      exact congrArg (wrapped t.id frame :: ·) (ih _)

/-- The datagram of another network is dropped. -/
theorem get_wrapped_of_ne
    (t : VxlanTransport) {id : BitVec 32} (data : List Byte)
    (hid : id.toNat < 2 ^ 24) (hne : t.id ≠ id) :
    (t.get (.datagram (wrapped id data))).1 = none := by
  have hbytes : ∀ i, i < 8 → (wrapped id data).getD i 0 = header id i := by
    intro i hi
    rw [List.getD_eq_getElem?_getD, getElem?_wrapped _ _ hi]
    rfl
  have htheirs : theirId (fun i => (wrapped id data).getD i 0) = id :=
    (theirId_congr hbytes).trans (theirId_header id hid)
  rw [get_datagram]
  refine if_neg fun h => hne ?_
  rw [← h.2.2, htheirs]

end VxlanTransport

namespace Station

/-- The frame is for this station. -/
def isForUs (k : Station) (pkt : List Byte) : Bool :=
  decide (pkt.take 6 = k.macAddress) || decide (pkt.take 6 = bcAddr)

/-- receiver_low with a packet that its transport gave it. -/
def queueFrame (k : Station) (pkt : List Byte) : Station :=
  if pkt.length < 14 then k
  else if k.isForUs pkt then
    if k.deqna.registers 7 &&& 1 ≠ 0 then
      { k with deqna := k.deqna.queueRxPacket pkt }
    else k
  else k

/-- receiver_low for a datagram. -/
def receiverLow (k : Station) (datagram : List Byte) : Station :=
  let pkt := k.transport.get (.datagram datagram)
  let k := { k with transport := pkt.2 }
  pkt.1.elim k k.queueFrame

/-- receiver_high, for a frame on its queue. -/
def receiverHigh (passes : Nat) (k : Station) : Option Station :=
  if k.deqna.registers 7 &&& 32 ≠ 0 then
    some k
  else
    match k.deqna.received with
    | [] => some k
    | frame :: rest =>
        (KekPdp11.receiverHigh passes { k.deqna with received := rest } k.ram
          frame).map fun e => { k with deqna := e.deqna, ram := e.ram }

/-- What a datagram does to the station. -/
def receive (passes : Nat) (k : Station) (datagram : List Byte) :
    Option Station :=
  (k.receiverLow datagram).receiverHigh passes

/-- The transmitter, with the datagrams that leave the machine. -/
def send (passes : Nat) (k : Station) :
    Option (Station × List (List Byte)) :=
  (transmitter passes k.deqna k.ram).map fun s =>
    let datagrams := k.transport.transmitAll s.sent
    ({ k with
        deqna := s.deqna
        ram := s.ram
        transport := datagrams.2 },
      datagrams.1)

/-- The station waits for a frame, for which the walk over its receive list
finds the descriptor at `p`. -/
structure Listening (k : Station) (p : PhysAddr) : Prop where
  enabled : k.deqna.registers 7 &&& 1 ≠ 0
  listValid : k.deqna.registers 7 &&& 32 = 0
  empty : k.deqna.received = []
  reach : Walks.Reaches (rxNext k.ram) (k.deqna.listAddress 2) p
  room : p + 12 ≤ k.ram.size
  valid : (k.ram.descriptor p).isValid = true
  buffer : (k.ram.descriptor p).isChain = false

section Receiving

variable {k : Station} {id : BitVec 32} {frame : List Byte}

theorem isForUs_take
    (k : Station) (frame : List Byte) :
    k.isForUs (frame.take 1504) = k.isForUs frame := by
  unfold isForUs
  rw [List.take_take]
  rfl

/-- A frame for a listening station is queued as far as it came. -/
theorem Listening.receiverLow_eq
    {p : PhysAddr} (h : k.Listening p) (hid : id.toNat < 2 ^ 24)
    (hours : k.transport.id = id) (hlength : 14 ≤ frame.length)
    (hforus : k.isForUs frame = true) :
    ∃ transport,
      k.receiverLow (VxlanTransport.wrapped id frame) =
        { k with
          transport := transport
          deqna := { k.deqna with received := [frame.take 1504] } } := by
  subst hours
  have hget := k.transport.get_wrapped frame hid hlength
  have hshort : ¬ (frame.take 1504).length < 14 := by
    rw [List.length_take]
    omega
  have hqueue : k.deqna.queueRxPacket (frame.take 1504) =
      { k.deqna with received := [frame.take 1504] } := by
    unfold Deqna.queueRxPacket
    rw [h.empty]
    rfl
  generalize hgot : k.transport.get
    (.datagram (VxlanTransport.wrapped k.transport.id frame)) = got at hget
  refine ⟨got.2, ?_⟩
  unfold receiverLow
  dsimp only
  rw [hgot, hget]
  change queueFrame { k with transport := got.2 } (frame.take 1504) = _
  have hours : Station.isForUs { k with transport := got.2 }
      (frame.take 1504) = true :=
    (k.isForUs_take frame).trans hforus
  unfold queueFrame
  rw [if_neg hshort, if_pos hours]
  dsimp only
  rw [if_pos h.enabled, hqueue]

/-- It is delivered to the descriptor. -/
theorem Listening.receive_iff
    {p : PhysAddr} (h : k.Listening p) {P : Ram → Prop}
    (hid : id.toNat < 2 ^ 24) (hours : k.transport.id = id)
    (hlength : 14 ≤ frame.length) (hforus : k.isForUs frame = true) :
    (∃ passes k', k.receive passes (VxlanTransport.wrapped id frame) =
        some k' ∧ P k'.ram) ↔
      P (k.ram.deliver p (frame.take 1504)) := by
  obtain ⟨transport, hlow⟩ := h.receiverLow_eq hid hours hlength hforus
  have hempty : { k.deqna with received := [] } = k.deqna := by
    rw [← h.empty]
  have hreceive : ∀ passes,
      k.receive passes (VxlanTransport.wrapped id frame) =
        (KekPdp11.receiverHigh passes k.deqna k.ram (frame.take 1504)).map
          fun e => ⟨transport, k.macAddress, e.deqna, e.ram⟩ := by
    intro passes
    unfold receive
    rw [hlow]
    unfold receiverHigh
    rw [if_neg (not_not_intro h.listValid)]
    dsimp only
    rw [hempty]
  refine Iff.trans ?_ (receiverHigh_delivers h.reach h.room h.valid h.buffer)
  constructor
  · rintro ⟨passes, k', hk', hP⟩
    rw [hreceive] at hk'
    obtain ⟨e, he, rfl⟩ := Option.map_eq_some_iff.mp hk'
    exact ⟨passes, e, he, hP⟩
  · rintro ⟨passes, e, he, hP⟩
    refine ⟨passes, ⟨transport, k.macAddress, e.deqna, e.ram⟩, ?_, hP⟩
    rw [hreceive, he]
    rfl

/-- A frame that is not for a station leaves it alone. -/
theorem receive_of_other
    (passes : Nat) (hid : id.toNat < 2 ^ 24) (hempty : k.deqna.received = [])
    (hother : k.transport.id ≠ id ∨ k.isForUs frame = false)
    (hlength : 14 ≤ frame.length) :
    ∃ transport, k.receive passes (VxlanTransport.wrapped id frame) =
      some { k with transport := transport } := by
  have hlow : ∃ transport,
      k.receiverLow (VxlanTransport.wrapped id frame) =
        { k with transport := transport } := by
    generalize hgot : k.transport.get
      (.datagram (VxlanTransport.wrapped id frame)) = got
    refine ⟨got.2, ?_⟩
    unfold receiverLow
    dsimp only
    rw [hgot]
    by_cases hours : k.transport.id = id
    · subst hours
      have hget := k.transport.get_wrapped frame hid hlength
      rw [hgot] at hget
      rw [hget]
      change queueFrame { k with transport := got.2 } (frame.take 1504) = _
      have hnot : k.isForUs (frame.take 1504) = false :=
        (k.isForUs_take frame).trans (hother.resolve_left (not_not_intro rfl))
      unfold queueFrame
      rw [ite_eq_left_iff]
      intro _
      exact if_neg (by
        change ¬ k.isForUs _ = true
        rw [hnot]
        exact Bool.false_ne_true)
    · have hget := k.transport.get_wrapped_of_ne frame hid hours
      rw [hgot] at hget
      rw [hget]
      rfl
  obtain ⟨transport, hlow⟩ := hlow
  refine ⟨transport, ?_⟩
  unfold receive
  rw [hlow]
  unfold receiverHigh
  dsimp only
  rw [hempty]
  split <;> rfl

end Receiving

section EndToEnd

/-- The frames of a transmit list arrive: the datagram of each frame of 14 bytes
or more is delivered, up to 1504 bytes of the frame, unaltered to every
listening station of the network that it is for if and only if the station's
buffer suits it, and does nothing to a station that it is not for. -/
theorem sent_frames_arrive
    (a : Station) {e : PhysAddr} {ps : List PhysAddr}
    (hid : a.transport.id.toNat < 2 ^ 24)
    (hvalid : a.deqna.registers 7 &&& 16 = 0)
    (hwire : a.deqna.registers 7 &&& 256 ≠ 0)
    (hlist : IsList a.ram e (a.deqna.listAddress 4) ps)
    (hapart : Apart a.ram e ps)
    (hsizes : SizesFit (groups [] (a.ram.listed ps))) {passes : Nat}
    (hpasses : ps.length < passes) :
    ∃ (a' : Station) (datagrams : List (List Byte)),
      a.send passes = some (a', datagrams) ∧
      (∀ i ∉ a.ram.marked ps, a'.ram.m i = a.ram.m i) ∧
      datagrams.length = (groups [] (a.ram.listed ps)).length ∧
      ∀ (i : Nat) frame, (groups [] (a.ram.listed ps))[i]? = some frame →
        14 ≤ frame.length → ∃ datagram,
          datagrams[i]? = some datagram ∧
          (∀ (b : Station) p, b.transport.id = a.transport.id →
            b.isForUs frame = true → b.Listening p →
            ((∃ passes b', b.receive passes datagram = some b' ∧
                Unaltered b.ram p (frame.take 1504) b'.ram) ↔
              Suits b.ram p (frame.take 1504))) ∧
          ∀ (b : Station) passes, b.deqna.received = [] →
            (b.transport.id ≠ a.transport.id ∨ b.isForUs frame = false) →
            ∃ transport, b.receive passes datagram =
              some { b with transport := transport } := by
  have hagree : Ram.AgreesOutside (a.ram.marked ps) a.ram a.ram :=
    ⟨rfl, fun i _ => rfl⟩
  have hself : ∀ p ∈ ps, p ∈ ps := fun p hp => hp
  obtain ⟨hmeets, hpieces⟩ := hlist.meets hapart hself hagree
  rw [← hpieces] at hsizes ⊢
  obtain ⟨t, hrun, htransmits, hram⟩ :=
    hmeets.transmits hvalid hsizes hpasses
  have hsent := (htransmits.network hwire).1
  have hdatagrams : (a.transport.transmitAll t.sent).1 =
      (groups [] (a.ram.pieces ps)).map
        (VxlanTransport.wrapped a.transport.id) := by
    rw [VxlanTransport.transmitAll_sent, hsent]
  refine ⟨_, _, congrArg (Option.map _) hrun, ?_, ?_, ?_⟩
  · intro i hi
    change t.ram.m i = _
    rw [hram]
    exact hapart.foldl_beside hlist.offers hself hagree hi
  · rw [hdatagrams, List.length_map]
  · intro i frame hframe hlength
    refine ⟨VxlanTransport.wrapped a.transport.id frame, ?_, ?_, ?_⟩
    · rw [hdatagrams, List.getElem?_map, hframe]
      rfl
    · intro b p hours hforus hlistening
      rw [hlistening.receive_iff hid hours hlength hforus]
      have hlow := reaches_lt hlistening.reach
      have hroom := hlistening.room
      refine deliver_unaltered_iff (by bv_omega) ?_
      rw [List.length_take]
      omega
    · intro b passes hempty hother
      exact receive_of_other passes hid hempty hother hlength

/-- Memory with a transmit list at 0 of one buffer with a frame of 14 ones. -/
def oneFrame : Ram where
  size := 0o20000
  m i :=
    if i = 3 then 0xa0
    else if i = 4 then 64
    else if i = 6 then 0xf9
    else if i = 7 then 0xff
    else if 64 ≤ i ∧ i < 78 then 1
    else 0

def oneFrameSender : Station where
  transport := ⟨5, 0, 0⟩
  macAddress := List.replicate 6 2
  deqna := idleDeqna.setRegister 7 256
  ram := oneFrame

def oneFrameReceiver : Station where
  transport := ⟨5, 0, 0⟩
  macAddress := List.replicate 6 1
  deqna := idleDeqna.setRegister 7 1
  ram := paddingRam 0

theorem oneFrame_listed :
    groups [] (oneFrame.listed [0]) = [headerFrame] := by
  decide

theorem oneFrame_apart :
    Apart oneFrame 12 [0] := by
  have hmarked : ∀ i ∈ oneFrame.marked [0], i < 2 ∨ 8 ≤ i ∧ i < 12 := by
    rintro i ⟨p, hp, hmark⟩
    obtain rfl := List.mem_singleton.mp hp
    rcases hmark with rfl | rfl | ⟨-, hstatus⟩
    · exact .inl (by decide)
    · exact .inl (by decide)
    · exact .inr hstatus
  refine ⟨fun p hp _ i _ hmark => ?_, fun p hp k hlow hhigh hmark => ?_,
    fun p hp _ p' hp' hne => ?_⟩
  · obtain rfl := List.mem_singleton.mp hp
    have hwritten := hmarked _ hmark
    have hchain : (oneFrame.descriptor 0).chain.toNat = 64 := by
      decide
    omega
  · have hwritten := hmarked _ hmark
    have hplace : p.toNat = 12 ∨ p.toNat = 0 := by
      rcases List.mem_pair.mp hp with rfl | rfl <;> decide
    omega
  · obtain rfl := List.mem_singleton.mp hp
    exact absurd (List.mem_singleton.mp hp') hne

/-- The buffer at 256 is of zeros. -/
theorem paddingRam_suits :
    Suits (paddingRam 0) 0 headerFrame := by
  have hchain : ((paddingRam 0).descriptor 0).chain.toNat = 256 := by
    decide
  have hzeros : ∀ i < 60, (paddingRam 0).m (256 + i) = 0 := by
    decide
  refine ⟨by decide, by decide, fun i hi v hv => ?_, fun i hlow hi hnone => ?_⟩
  · have hnone : writtenByte 0 headerFrame.length (256 + i) = none := by
      rw [Nat.add_comm]
      rfl
    rw [hchain, hnone] at hv
    cases hv
  · rw [hchain]
    exact hzeros i hi

/-- The frame is found at the other end. -/
theorem sent_frames_arrive_fourteen_bytes :
    ∃ a' datagram, oneFrameSender.send 2 = some (a', [datagram]) ∧
      ∃ passes b', oneFrameReceiver.receive passes datagram = some b' ∧
        Unaltered (paddingRam 0) 0 headerFrame b'.ram := by
  have hlist : IsList oneFrame 12 (oneFrameSender.deqna.listAddress 4) [0] := by
    refine .next ⟨by decide, by decide, fun _ => by decide⟩ ?_
    exact .last ⟨by decide, by decide⟩
  have hsizes : SizesFit (groups [] (oneFrame.listed [0])) := by
    rw [oneFrame_listed]
    intro frame hframe
    rw [List.mem_singleton.mp hframe]
    decide
  have hpasses : ([0] : List PhysAddr).length < 2 := by
    decide
  obtain ⟨a', datagrams, hsend, -, hlength, harrive⟩ :=
    sent_frames_arrive oneFrameSender (by decide) (by decide) (by decide)
      hlist oneFrame_apart hsizes hpasses
  obtain ⟨datagram, hdatagram, hreceived, -⟩ :=
    harrive 0 headerFrame (congrArg (·[0]?) oneFrame_listed) (by decide)
  have hlistening : oneFrameReceiver.Listening 0 :=
    ⟨by decide, by decide, rfl, ⟨0, rfl⟩, by decide, by decide, by decide⟩
  refine ⟨a', datagram, ?_,
    (hreceived oneFrameReceiver 0 rfl (by decide) hlistening).mpr
      paddingRam_suits⟩
  have hone : datagrams.length = 1 :=
    hlength.trans (congrArg List.length oneFrame_listed)
  obtain ⟨d, rfl⟩ := List.length_eq_one_iff.mp hone
  cases hdatagram
  exact hsend

end EndToEnd

end Station

end KekPdp11
