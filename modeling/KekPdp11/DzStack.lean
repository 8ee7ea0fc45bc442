import KekPdp11.Dz11
import KekPdp11.TrapDelivery

/-!
# KEK PDP-11: a stack in the registers of the DZ11

The entry of an interrupt pushes the status word and PC wherever the stack
pointer of the kernel leads to.  A word that is pushed onto the status register
of the DZ11 clears it when bit 4 is set, and a clear asks for an interrupt.

`trap_queues` says this of any entry whose frame ends there, and a run of
execute_any_pending_interrupt is one.
-/

namespace KekPdp11

open StateExcept

/-- A DZ11 on the bus. -/
instance : UnibusDevices Dz11 where
  readByte _ a d := ⟨(d.readByte a).1, (d.readByte a).2, []⟩
  readWord _ a d := ⟨(d.readWord a).1, (d.readWord a).2, []⟩
  writeByte _ a v ram d :=
    ⟨ram, (d.writeByte a v).dz11, (d.writeByte a v).requests⟩
  writeWord _ a v ram d :=
    ⟨ram, (d.writeWord a v).dz11, (d.writeWord a v).requests⟩
  reset _ hard d := d.reset hard

section Pushes

variable {s : Machine Dz11}

/-- What a word that is written to the status register does. -/
def Machine.csrWritten (s : Machine Dz11) (v : Word) : Machine Dz11 :=
  { s.log (.writeIo Dz11.csr .wmWord) with
    devices := (s.devices.writeCsr v).dz11
    cpu := s.cpu.applyRequests (s.devices.writeCsr v).requests }

/-- The register is in no other range than that of the DZ11. -/
theorem deviceAt_csr
    {attached : Slot → Bool} (h : attached .dz11 = true) :
    deviceAt attached Dz11.csr = some .dz11 := by
  simp [deviceAt, deviceRanges, Dz11.csr, h]

/-- write_IO of the status register. -/
theorem writeIo_csr
    (h : s.attached .dz11 = true) (page : BitVec 3) (v : Word) :
    writeIoVia trap Dz11.csr .wmWord page v s = .ok false (s.csrWritten v) := by
  have hword : (writeWordRegister Dz11.csr v : Option (Exec Dz11 Bool)) =
      none := by
    simp [writeWordRegister, Dz11.csr, addrPsw, addrStacklim, addrKernelR,
      addrKernelSp, addrPc, addrUserR, addrSvSp, addrUserSp,
      addrMicroprogBreakReg]
  have hcommon : (writeCommonRegister Dz11.csr v : Option (Exec Dz11 Unit)) =
      none := by
    simp [writeCommonRegister, Dz11.csr, addrCpuErr, addrMmr3, addrMmr0,
      addrPir]
  have hslot : deviceAt (s.log (.writeIo Dz11.csr .wmWord)).attached Dz11.csr =
      some .dz11 :=
    deviceAt_csr h
  unfold writeIoVia logEvent
  rw [update_bind_apply]
  simp only [hword, hcommon, if_neg (show Dz11.csr ≠ addrLfc by decide)]
  change (view _ >>= _) (s.log (.writeIo Dz11.csr .wmWord)) = _
  rw [view_bind_apply, hslot]
  rfl

/-- A push whose word goes to the status register. -/
theorem stores_csr
    (h : s.attached .dz11 = true) (v : Word) (habove : s.AboveLimit)
    (htarget : (s.withStackPointer (s.stackPointer - 2)).target
      s.cpu.getPSWRunmode (s.stackPointer - 2) .dSpace = .io Dz11.csr) :
    s.Stores v ((s.withStackPointer (s.stackPointer - 2)).csrWritten v) := by
  have hserve : serveWrite (.io Dz11.csr) .wmWord
      (activePageField (s.stackPointer - 2)) v
      (s.withStackPointer (s.stackPointer - 2)) =
        .ok false ((s.withStackPointer (s.stackPointer - 2)).csrWritten v) := by
    unfold serveWrite
    exact writeIo_csr (s := s.withStackPointer (s.stackPointer - 2)) h _ v
  have hwrite : Bus.write (s.stackPointer - 2) .wmWord v s.cpu.getPSWRunmode
      .dSpace (s.withStackPointer (s.stackPointer - 2)) =
        .ok false ((s.withStackPointer (s.stackPointer - 2)).csrWritten v) := by
    rw [Bus.write_eq, htarget]
    exact noteAbort_of_ok hserve
  exact ⟨_, bind_of_ok hwrite, .inl ⟨habove, rfl⟩⟩

/-- With bit 4 set it asks for an interrupt. -/
theorem csrWritten_queues
    {v : Word} (hclr : v &&& 16 ≠ 0) :
    0o310 ∈ (s.csrWritten v).cpu.queuedInterrupts 5 := by
  have hrequests : (s.devices.writeCsr v).requests =
      [Dz11.interrupt false] := by
    unfold Dz11.writeCsr
    exact if_pos hclr
  unfold Machine.csrWritten
  rw [hrequests]
  simp [Cpu.applyRequests, Cpu.applyRequest, Dz11.interrupt,
    Cpu.queueInterrupt]

/-- An entry whose frame ends in the status register: the PC that it saves asks
for an interrupt. -/
theorem trap_queues
    {vector : Word} {newIpl : Option Level} {u v : Machine Dz11}
    (hdepth : s.cpu.processingTrapDepth ≤ 1)
    (hframing : Framing s vector newIpl u)
    (hpsw : u.Stores s.cpu.psw v) (h : v.attached .dz11 = true)
    (habove : v.AboveLimit)
    (htarget : (v.withStackPointer (v.stackPointer - 2)).target
      v.cpu.getPSWRunmode (v.stackPointer - 2) .dSpace = .io Dz11.csr)
    (hclr : s.cpu.pc &&& 16 ≠ 0) :
    ∃ t, trap vector newIpl s = .ok () t ∧
      0o310 ∈ t.cpu.queuedInterrupts 5 := by
  have hpc := stores_csr h s.cpu.pc habove htarget
  exact ⟨_, trap_of_framing hdepth hframing (saveFrame_of_stores hpsw hpc),
    csrWritten_queues hclr⟩

end Pushes

/-- A line clock and a DZ11 are on the bus, an interrupt of the line clock is
queued, and the kernel has its stack in the registers of the DZ11. -/
def stackInDz11 : Machine Dz11 :=
  let ram := Ram.ofWords 0o20000 [(0o100, 0o2000), (0o102, 0)]
  let s := Machine.initial ram
    (fun slot => slot = .kw11l ∨ slot = .dz11) (Dz11.constructed fun _ => 0)
  { s with
    cpu :=
      { s.cpu.queueInterrupt 6 0o100 with
        psw := 0
        pc := 0o1020
        sp := fun _ => 0o160104 } }

/-- An interrupt of the DZ11 is queued while another one is entered. -/
theorem dz11_interrupts_in_entry :
    ∃ t, executeAnyPendingInterrupt stackInDz11 = .ok () t ∧
      t.cpu.pc = 0o2000 ∧ 0o310 ∉ stackInDz11.cpu.queuedInterrupts 5 ∧
      0o310 ∈ t.cpu.queuedInterrupts 5 := by
  refine ⟨final (executeAnyPendingInterrupt stackInDz11), ?_, ?_, ?_, ?_⟩
  · have hreturned :
        returned (executeAnyPendingInterrupt stackInDz11) = true := by
      decide +kernel
    obtain ⟨_, hrun⟩ := eq_ok_of_returned hreturned
    exact hrun
  · decide +kernel
  · decide +kernel
  · decide +kernel

end KekPdp11
