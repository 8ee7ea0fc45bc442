import KekPdp11.Machine

/-!
# KEK PDP-11: the DEQNA network interface

Class deqna: the descriptors in memory, the transmitter and what receiver_high
does with one frame.

A descriptor has six words: flags, address descriptor bits with the high bits
of an address, the low bits of the address, the length of the buffer as a
negative number of words, and two status words.

The loops over the descriptors have no bound; they are given a number of passes
and are not done when these are used up.  Counters of packets, the activity
flag and log lines are dropped; a frame that is given to the network is listed.
-/

namespace KekPdp11

namespace Ram

def readUnibusWord (r : Ram) (a : PhysAddr) : Word :=
  if a < r.size then r.readWord a else 0

def readUnibusByte (r : Ram) (a : PhysAddr) : Byte :=
  if a < r.size then r.readByte a else 0

def writeUnibusWord (r : Ram) (a : PhysAddr) (v : Word) : Ram :=
  if a < r.size then r.writeWord a v else r

def writeUnibusByte (r : Ram) (a : PhysAddr) (v : Byte) : Ram :=
  if a < r.size then r.writeByte a v else r

end Ram

/-- The first four words of a descriptor. -/
structure Descriptor where
  flags : Word
  ph : Word
  pl : Word
  len : Word

namespace Descriptor

def isValid (d : Descriptor) : Bool :=
  d.ph &&& 0x8000 ≠ 0

def isChain (d : Descriptor) : Bool :=
  d.ph &&& 0x4000 ≠ 0

def isEnd (d : Descriptor) : Bool :=
  d.ph &&& 0x2000 ≠ 0

/-- The address of the buffer or of the next descriptor. -/
def chain (d : Descriptor) : PhysAddr :=
  ((d.ph &&& 63).setWidth 32 <<< 16) ||| d.pl.setWidth 32

/-- The length of the buffer in bytes. -/
def length (d : Descriptor) : Nat :=
  ((~~~d.len).toNat + 1) * 2

end Descriptor

/-- The first four words of the descriptor at an address. -/
def Ram.descriptor (r : Ram) (p : PhysAddr) : Descriptor where
  flags := r.readUnibusWord p
  ph := r.readUnibusWord (p + 2)
  pl := r.readUnibusWord (p + 4)
  len := r.readUnibusWord (p + 6)

structure Deqna where
  /-- Eight registers. -/
  registers : Nat → Word
  /-- The frames on the queue of the receiver. -/
  received : List (List Byte)

namespace Deqna

def setRegister (q : Deqna) (nr : Nat) (v : Word) : Deqna :=
  { q with registers := Function.update q.registers nr v }

/-- An or into the control and status register. -/
def orCsr (q : Deqna) (bits : Word) : Deqna :=
  q.setRegister 7 (q.registers 7 ||| bits)

/-- The interrupt of a transfer, if interrupts are enabled. -/
def interruptRequests (q : Deqna) : List InterruptRequest :=
  if q.registers 7 &&& 64 ≠ 0 then [.queue 4 (q.registers 6 &&& 0x3fc)] else []

/-- The address in a pair of descriptor list registers. -/
def listAddress (q : Deqna) (low : Nat) : PhysAddr :=
  ((q.registers (low + 1) &&& 63).setWidth 32 <<< 16) |||
    (q.registers low).setWidth 32

/-- queue_rx_packet: there is room for one frame. -/
def queueRxPacket (q : Deqna) (frame : List Byte) : Deqna :=
  if q.received.length < 1 then
    { q with received := q.received ++ [frame] }
  else
    q

end Deqna

section Receiver

/-- Bytes that are written one after the other. -/
def Ram.storeBytes (r : Ram) (a : PhysAddr) : List Byte → Ram
  | [] => r
  | v :: data => (r.writeUnibusByte a v).storeBytes (a + 1) data

/-- What the status words tell of a frame: its padded length less 60. -/
def statusLength (byteCnt : Nat) : Nat :=
  max byteCnt 60 - 60

def rxStatus1 (byteCnt : Nat) : Word :=
  BitVec.ofNat 16 (statusLength byteCnt &&& 0x0700 ||| 0x00f8)

def rxStatus2 (byteCnt : Nat) : Word :=
  BitVec.ofNat 16
    ((statusLength byteCnt &&& 0xff) <<< 8 ||| (statusLength byteCnt &&& 0xff))

/-- A frame goes to the buffer of the descriptor at `p`. -/
def Ram.deliver (r : Ram) (p : PhysAddr) (frame : List Byte) : Ram :=
  let d := r.descriptor p
  let r := r.writeUnibusWord p 0xffff
  let r := r.storeBytes d.chain (frame.take d.length)
  let r := r.writeUnibusWord (p + 8) (rxStatus1 frame.length)
  let r := r.writeUnibusWord (p + 10) (rxStatus2 frame.length)
  let r := r.writeUnibusWord p (0x0200 ||| 0x0100)
  r.writeUnibusWord (p + 2) 0

/-- The loop of receiver_high over the descriptors: memory, and whether the
frame was delivered. -/
def rxLoop (frame : List Byte) :
    (passes : Nat) → PhysAddr → Ram → Option (Ram × Bool)
  | 0, _, _ => none
  | passes + 1, p, r =>
      if p + 12 ≤ r.size then
        if !(r.descriptor p).isValid then
          some (r, false)
        else if !(r.descriptor p).isChain then
          some (r.deliver p frame, true)
        else
          rxLoop frame passes (r.descriptor p).chain r
      else
        some (r, false)

/-- What becomes of the device, of memory and of the interrupt queues. -/
structure DeqnaEffect where
  deqna : Deqna
  ram : Ram
  requests : List InterruptRequest

/-- receiver_high, for a frame it has taken off the queue. -/
def receiverHigh (passes : Nat) (q : Deqna) (r : Ram) (frame : List Byte) :
    Option DeqnaEffect :=
  (rxLoop frame passes (q.listAddress 2) r).map fun outcome =>
    let raised := if outcome.2 then q.orCsr 0x8000 else q
    { deqna := raised.orCsr 32
      ram := outcome.1
      requests := if outcome.2 then raised.interruptRequests else [] }

end Receiver

section Transmitter

/-- The size of the transmitter's buffer. -/
def txBufferSize : Nat := 1514

/-- The variables of the transmitter's loop, and what it has done outside. -/
structure TxState where
  deqna : Deqna
  ram : Ram
  /-- The bytes of the packet so far. -/
  buffer : List Byte
  /-- The frames that went to the network. -/
  sent : List (List Byte)
  requests : List InterruptRequest

namespace TxState

/-- The buffer of a descriptor is one that the transmitter takes. -/
def fits (d : Descriptor) (size : PhysAddr) : Bool :=
  decide (d.length ≤ 2048) && decide (d.chain.toNat + d.length ≤ size.toNat)

/-- The bytes of a buffer that there is room for. -/
def collect (d : Descriptor) (buffer : List Byte) (r : Ram) : List Byte :=
  (List.range (min d.length (txBufferSize - buffer.length))).map fun i =>
    r.readUnibusByte (d.chain + BitVec.ofNat 32 i)

/-- The packet goes to the receiver or to the network. -/
def push (s : TxState) : TxState :=
  if s.buffer = [] then
    s
  else if s.deqna.registers 7 &&& 256 = 0 then
    { s with deqna := s.deqna.queueRxPacket s.buffer, buffer := [] }
  else
    { s with sent := s.sent ++ [s.buffer], buffer := [] }

/-- The end of a packet at the descriptor `p`. -/
def finish (s : TxState) (p : PhysAddr) : TxState :=
  let s := s.push
  let raised := s.deqna.orCsr 128
  { s with
    ram := (s.ram.writeUnibusWord (p + 8) 0x2000).writeUnibusWord (p + 10) 0
    deqna := raised
    requests := s.requests ++ raised.interruptRequests }

/-- One descriptor that the transmitter takes. -/
def take (s : TxState) (p : PhysAddr) : TxState :=
  let d := s.ram.descriptor p
  let busy := s.ram.writeUnibusWord p 0xffff
  let taken :=
    { s with
      ram := busy.writeUnibusWord p (d.flags &&& ~~~0x4000)
      buffer :=
        if d.isChain then s.buffer else s.buffer ++ collect d s.buffer busy }
  if d.isEnd then taken.finish p else taken

end TxState

/-- The address of the descriptor after the one at `p`. -/
def Descriptor.after (d : Descriptor) (p : PhysAddr) : PhysAddr :=
  if d.isChain then d.chain else p + 12

/-- The loop of the transmitter over the descriptors. -/
def txLoop : (passes : Nat) → PhysAddr → TxState → Option TxState
  | 0, _, _ => none
  | passes + 1, p, s =>
      if p + 12 ≤ s.ram.size then
        let d := s.ram.descriptor p
        if !d.isValid then
          some s
        else if !d.isChain && !TxState.fits d s.ram.size then
          -- the descriptor is left busy
          some { s with ram := s.ram.writeUnibusWord p 0xffff }
        else
          txLoop passes (d.after p) (s.take p)
      else
        some s

def transmitter (passes : Nat) (q : Deqna) (r : Ram) : Option TxState :=
  let start : TxState := ⟨q, r, [], [], []⟩
  if q.registers 7 &&& 16 ≠ 0 then
    some start
  else
    (txLoop passes (q.listAddress 4) start).map fun s =>
      { s with deqna := s.deqna.orCsr 16 }

end Transmitter

end KekPdp11
