import KekPdp11.Inspection
import KekPdp11.DeqnaFrames
import KekPdp11.TapeSearch

/-!
# KEK PDP-11: calls of class memory

Class memory checks nothing; the functions of the bus, the DEQNA and the TM-11
have to.  For each of them the calls of class memory that it makes are listed
here.  What the DEQNA does to memory in a pass of its loops is what its calls
do one after the other.
-/

namespace KekPdp11

open StateExcept

namespace MemoryCall

def address : MemoryCall → PhysAddr
  | .readByte a | .writeByte a _ | .readWord a | .writeWord a _ => a

def isWord : MemoryCall → Bool
  | .readByte _ | .writeByte .. => false
  | .readWord _ | .writeWord .. => true

end MemoryCall

namespace Ram

def perform (r : Ram) : MemoryCall → Ram
  | .writeByte a v => r.writeByte a v
  | .writeWord a v => r.writeWord a v
  | .readByte _ | .readWord _ => r

/-- What a unibus function hands on to class memory. -/
def unibus (r : Ram) (call : MemoryCall) : List MemoryCall :=
  if call.address < r.size then [call] else []

/-- Calls of unibus functions one after the other. -/
def performUnibus (r : Ram) (calls : List MemoryCall) : Ram :=
  calls.foldl (fun r call => (r.unibus call).foldl perform r) r

theorem writeUnibusWord_eq
    (r : Ram) (a : PhysAddr) (v : Word) :
    r.writeUnibusWord a v = r.performUnibus [.writeWord a v] := by
  change _ = (r.unibus (.writeWord a v)).foldl perform r
  unfold writeUnibusWord unibus
  rw [MemoryCall.address]
  split <;> rfl

theorem writeUnibusByte_eq
    (r : Ram) (a : PhysAddr) (v : Byte) :
    r.writeUnibusByte a v = r.performUnibus [.writeByte a v] := by
  change _ = (r.unibus (.writeByte a v)).foldl perform r
  unfold writeUnibusByte unibus
  rw [MemoryCall.address]
  split <;> rfl

/-- A read changes nothing. -/
theorem performUnibus_read
    (r : Ram) {call : MemoryCall} (h : ∀ r : Ram, r.perform call = r) :
    r.performUnibus [call] = r := by
  change (r.unibus call).foldl perform r = r
  unfold unibus
  split
  · exact h r
  · rfl

theorem performUnibus_append
    (r : Ram) (calls calls' : List MemoryCall) :
    r.performUnibus (calls ++ calls') =
      (r.performUnibus calls).performUnibus calls' :=
  List.foldl_append

theorem performUnibus_cons
    (r : Ram) (call : MemoryCall) (calls : List MemoryCall) :
    r.performUnibus (call :: calls) =
      (r.performUnibus [call]).performUnibus calls :=
  rfl

theorem stores_cons
    (a : PhysAddr) (v : Byte) (data : List Byte) :
    Tm11.stores a (v :: data) = .writeByte a v :: Tm11.stores (a + 1) data := by
  have hnext : ∀ k : Nat,
      a + BitVec.ofNat 32 (k + 1) = a + 1 + BitVec.ofNat 32 k := by
    intro k
    rw [BitVec.ofNat_add, BitVec.add_comm (BitVec.ofNat 32 k),
      ← BitVec.add_assoc]
    rfl
  unfold Tm11.stores
  rw [List.zipIdx_cons', List.map_cons, List.map_map]
  refine congrArg₂ List.cons
    (congrArg (MemoryCall.writeByte · v) (BitVec.add_zero a))
    (List.map_congr_left fun b _ => ?_)
  exact congrArg (MemoryCall.writeByte · b.1) (hnext b.2)

theorem storeBytes_eq
    (r : Ram) (a : PhysAddr) (data : List Byte) :
    r.storeBytes a data = r.performUnibus (Tm11.stores a data) := by
  induction data generalizing r a with
  | nil =>
      rfl
  | cons v data ih =>
      rw [storeBytes, ih, writeUnibusByte_eq, stores_cons]
      rfl

end Ram

namespace Bus

variable {δ : Type} [UnibusDevices δ]

def readPhysical (a : PhysAddr) : Exec δ Word := do
  let size ← view fun s => s.ram.size
  if size ≤ a then do
    trap 0o4 none
    throwInt 13
  else
    view fun s => s.ram.readWord a

def readPhysicalByte (a : PhysAddr) : Exec δ Word := do
  let size ← view fun s => s.ram.size
  if size ≤ a then do
    trap 0o4 none
    throwInt 13
  else
    view fun s => (s.ram.readByte a).setWidth 16

def writePhysical (a : PhysAddr) (value : Word) : Exec δ Unit := do
  let size ← view fun s => s.ram.size
  if size ≤ a then do
    trap 0o4 none
    throwInt 12
  else
    update fun s => { s with ram := s.ram.writeWord a value }

/-- The call is made unless the function traps and throws. -/
theorem readPhysical_apply
    (a : PhysAddr) (s : Machine δ) :
    readPhysical a s =
      if s.ram.size ≤ a then (trap 0o4 none >>= fun _ => throwInt 13) s
      else .ok (s.ram.readWord a) s := by
  unfold readPhysical
  rw [view_bind_apply]
  split <;> rfl

end Bus

section Deqna

/-- The words of the descriptor at `p` that the receiver accesses. -/
def rxWords (r : Ram) (p : PhysAddr) : List PhysAddr :=
  [p + 2, p + 4, p + 6] ++
    if (r.descriptor p).isValid && !(r.descriptor p).isChain then
      [p, p + 8, p + 10]
    else
      []

/-- The calls of unibus functions in a pass of the receiver's loop. -/
def rxCalls (frame : List Byte) (p : PhysAddr) (r : Ram) : List MemoryCall :=
  let d := r.descriptor p
  if p + 12 ≤ r.size then
    [.readWord (p + 2), .readWord (p + 4), .readWord (p + 6)] ++
      if d.isValid && !d.isChain then
        .writeWord p 0xffff ::
          (Tm11.stores d.chain (frame.take d.length) ++
            [.writeWord (p + 8) (rxStatus1 frame.length),
              .writeWord (p + 10) (rxStatus2 frame.length),
              .writeWord p (0x0200 ||| 0x0100), .writeWord (p + 2) 0])
      else
        []
  else
    []

/-- The words of the descriptor at `p` that the transmitter accesses. -/
def txWords (r : Ram) (p : PhysAddr) : List PhysAddr :=
  [p, p + 2, p + 4, p + 6] ++
    if r.Takes p ∧ (r.descriptor p).isEnd = true then [p + 8, p + 10] else []

/-- The calls of unibus functions in a pass of the transmitter's loop, with
`n` bytes in its buffer. -/
def txCalls (n : Nat) (p : PhysAddr) (r : Ram) : List MemoryCall :=
  let d := r.descriptor p
  if p + 12 ≤ r.size then
    [.readWord p, .readWord (p + 2), .readWord (p + 4), .readWord (p + 6)] ++
      if d.isValid then
        .writeWord p 0xffff ::
          if d.isChain || TxState.fits d r.size then
            (if d.isChain then []
              else (List.range (min d.length (txBufferSize - n))).map fun i =>
                .readByte (d.chain + BitVec.ofNat 32 i)) ++
            .writeWord p (d.flags &&& ~~~0x4000) ::
            if d.isEnd then
              [.writeWord (p + 8) 0x2000, .writeWord (p + 10) 0]
            else
              []
          else
            []
      else
        []
  else
    []

theorem Ram.performUnibus_reads
    (r : Ram) {calls : List MemoryCall}
    (h : ∀ call ∈ calls, ∀ r : Ram, r.perform call = r) :
    r.performUnibus calls = r := by
  induction calls with
  | nil =>
      rfl
  | cons call calls ih =>
      rw [performUnibus_cons, r.performUnibus_read (h call List.mem_cons_self)]
      exact ih fun c hc => h c (List.mem_cons_of_mem _ hc)

/-- The calls of the receiver at a buffer deliver the frame. -/
theorem performUnibus_rxCalls
    {r : Ram} {p : PhysAddr} (frame : List Byte) (hroom : p + 12 ≤ r.size)
    (hvalid : (r.descriptor p).isValid = true)
    (hchain : (r.descriptor p).isChain = false) :
    r.performUnibus (rxCalls frame p r) = r.deliver p frame := by
  have hdeliver : r.deliver p frame = r.performUnibus
      (.writeWord p 0xffff ::
        (Tm11.stores (r.descriptor p).chain
            (frame.take (r.descriptor p).length) ++
          [.writeWord (p + 8) (rxStatus1 frame.length),
            .writeWord (p + 10) (rxStatus2 frame.length),
            .writeWord p (0x0200 ||| 0x0100), .writeWord (p + 2) 0])) := by
    unfold Ram.deliver
    simp only [Ram.writeUnibusWord_eq, Ram.storeBytes_eq]
    rw [← Ram.performUnibus_cons, ← Ram.performUnibus_cons,
      ← Ram.performUnibus_cons, ← Ram.performUnibus_append,
      ← Ram.performUnibus_cons]
  unfold rxCalls
  rw [if_pos hroom, hvalid, hchain, r.performUnibus_append,
    r.performUnibus_reads (by simp [Ram.perform]), hdeliver]
  rfl

/-- The calls of the transmitter at a descriptor that it takes leave memory as
the walk has it. -/
theorem performUnibus_txCalls
    {r : Ram} {p : PhysAddr} (n : Nat) (h : r.Takes p) :
    r.performUnibus (txCalls n p r) = r.taken p := by
  obtain ⟨hroom, hvalid, hfits⟩ := h
  have htakes : ((r.descriptor p).isChain ||
      TxState.fits (r.descriptor p) r.size) = true := by
    rw [Bool.or_eq_true]
    exact hfits
  have hreads : ∀ (t : Ram), t.performUnibus
      (if (r.descriptor p).isChain then []
      else (List.range (min (r.descriptor p).length (txBufferSize - n))).map
        fun i => .readByte ((r.descriptor p).chain + BitVec.ofNat 32 i)) =
      t := by
    intro t
    split
    · rfl
    · refine t.performUnibus_reads fun call hcall _ => ?_
      obtain ⟨i, -, rfl⟩ := List.mem_map.mp hcall
      rfl
  unfold txCalls Ram.taken
  dsimp only
  rw [if_pos hroom, r.performUnibus_append,
    r.performUnibus_reads (by simp [Ram.perform]), if_pos hvalid,
    Ram.performUnibus_cons, if_pos htakes, Ram.performUnibus_append, hreads,
    Ram.performUnibus_cons, ← Ram.writeUnibusWord_eq,
    ← Ram.writeUnibusWord_eq]
  split
  · rw [Ram.performUnibus_cons, ← Ram.writeUnibusWord_eq,
      ← Ram.writeUnibusWord_eq]
  · rfl

end Deqna

/-- An access to memory by a function outside class memory. -/
inductive RamAccess where
  | read (a : Word) (wordMode : WordMode) (runMode : RunMode) (space : Space)
  | write (a : Word) (wordMode : WordMode) (value : Word) (runMode : RunMode)
      (space : Space)
  | readPhysical (a : PhysAddr)
  | readPhysicalByte (a : PhysAddr)
  | writePhysical (a : PhysAddr) (value : Word)
  | peekWord (runMode : RunMode) (a : Word)
  | unibus (call : MemoryCall)
  | receiver (frame : List Byte) (p : PhysAddr)
  | transmitter (n : Nat) (p : PhysAddr)
  | tm11 (passes : Nat) (t : Tm11) (addr v : Word)

namespace RamAccess

variable {δ : Type} (s : Machine δ)

/-- The call of a bus reference at its target. -/
def busCalls (target : Target) (byteCall wordCall : PhysAddr → MemoryCall) :
    WordMode → List MemoryCall
  | .wmByte =>
      match target with
      | .ram p _ => [byteCall p]
      | _ => []
  | .wmWord =>
      match target with
      | .ram p _ => if p &&& 1 ≠ 0 then [] else [wordCall p]
      | _ => []

/-- The call of a function that traps past the end of memory. -/
def checkedCalls (size : PhysAddr) (call : MemoryCall) : List MemoryCall :=
  if size ≤ call.address then [] else [call]

/-- The calls of class memory that an access makes. -/
def calls : RamAccess → List MemoryCall
  | .read a wordMode runMode space =>
      busCalls (s.target runMode a space) .readByte .readWord wordMode
  | .write a wordMode value runMode space =>
      busCalls (s.target runMode a space) (.writeByte · (value.setWidth 8))
        (.writeWord · value) wordMode
  | .readPhysical a => checkedCalls s.ram.size (.readWord a)
  | .readPhysicalByte a => checkedCalls s.ram.size (.readByte a)
  | .writePhysical a value => checkedCalls s.ram.size (.writeWord a value)
  | .peekWord runMode a =>
      match s.mmu.calculatePhysicalAddressConst runMode a with
      | some addresses =>
          if s.mmu.ioBase ≤ addresses.physicalInstruction then []
          else checkedCalls s.ram.size (.readWord addresses.physicalInstruction)
      | none => []
  | .unibus call => s.ram.unibus call
  | .receiver frame p => (rxCalls frame p s.ram).flatMap s.ram.unibus
  | .transmitter n p => (txCalls n p s.ram).flatMap s.ram.unibus
  | .tm11 passes t addr v =>
      match Tm11.writeWord passes t addr v with
      | some e => e.calls
      | none => []

end RamAccess

end KekPdp11
