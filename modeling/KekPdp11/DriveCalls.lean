import KekPdp11.Lib.InStep
import KekPdp11.LostConnections
import KekPdp11.Rk05
import KekPdp11.Rl02
import KekPdp11.Rp06

/-!
# KEK PDP-11: controllers over drives that run in step

The commands of the three controllers reach a drive by its calls only.  With
drives whose calls run in step, so does every sequence of register accesses:
the registers, memory, the interrupts and the log stay equal.

For an NBD server this says that a program on the machine cannot see which
connections were lost.
-/

namespace KekPdp11

open StateExcept Slices

section Drives

variable {β β' : Type}

/-- Two kinds of drives whose calls run in step. -/
structure DrivesInStep [DiskBackend β] [DiskBackend β']
    (gaveUp gaveUp' : DiskStop → Prop) (D : β → β' → Prop) : Prop where
  read : ∀ offset n target sectorSize, sectorSize < 2 ^ 32 →
    InStep gaveUp gaveUp' D (DiskBackend.read offset n target sectorSize)
      (DiskBackend.read offset n target sectorSize)
  write : ∀ offset n source sectorSize, sectorSize < 2 ^ 32 →
    InStep gaveUp gaveUp' D (DiskBackend.write offset n source sectorSize)
      (DiskBackend.write offset n source sectorSize)

/-- Two benches that differ in their drives only. -/
structure SameBench {ρ : Type} (D : β → β' → Prop) (s : Bench ρ β)
    (s' : Bench ρ β') : Prop where
  controller : s'.controller = s.controller
  ram : s'.ram = s.ram
  requests : s'.requests = s.requests
  trace : s'.trace = s.trace
  number : s'.fhs.length = s.fhs.length
  drives : ∀ device : Nat,
    Option.Rel (Option.Rel D) s.fhs[device]? s'.fhs[device]?

end Drives

section Primitives

variable {ρ β β' α : Type} {gaveUp gaveUp' : DiskStop → Prop}
variable {D : β → β' → Prop}

theorem inStep_controllerView
    (f : ρ → α) :
    InStep gaveUp gaveUp' (SameBench D) (controllerView f : Command ρ β α)
      (controllerView f : Command ρ β' α) :=
  .view fun s s' hs => by rw [hs.controller]

theorem inStep_modifyController
    (f : ρ → ρ) :
    InStep gaveUp gaveUp' (SameBench D)
      (modifyController f : Command ρ β Unit)
      (modifyController f : Command ρ β' Unit) :=
  .update fun _ _ hs =>
    { hs with controller := congrArg f hs.controller }

theorem inStep_queueInterrupt
    (level : Level) (vector : Word) :
    InStep gaveUp gaveUp' (SameBench D)
      (queueInterrupt level vector : Command ρ β Unit)
      (queueInterrupt level vector : Command ρ β' Unit) :=
  .update fun _ _ hs =>
    { hs with requests := congrArg (List.cons _) hs.requests }

theorem inStep_readUnibusByte
    (a : PhysAddr) :
    InStep gaveUp gaveUp' (SameBench D)
      (readUnibusByte a : Command ρ β Byte)
      (readUnibusByte a : Command ρ β' Byte) := by
  refine .bind (.view fun s s' hs => by rw [hs.ram]) fun v => ?_
  refine .bind (.update fun s s' hs => ?_) fun _ => .pure v
  exact { hs with trace := congrArg (List.cons _) hs.trace }

theorem inStep_writeUnibusByte
    (a : PhysAddr) (v : Byte) :
    InStep gaveUp gaveUp' (SameBench D)
      (writeUnibusByte a v : Command ρ β Unit)
      (writeUnibusByte a v : Command ρ β' Unit) := by
  refine .update fun s s' hs => ?_
  refine
    { hs with
      ram := ?_
      trace := congrArg (List.cons _) hs.trace }
  dsimp only
  rw [hs.ram]

theorem inStep_driveExists
    (device : Nat) :
    InStep gaveUp gaveUp' (SameBench D)
      (driveExists device : Command ρ β Bool)
      (driveExists device : Command ρ β' Bool) :=
  .view fun s s' hs => by rw [hs.number]

theorem inStep_driveLoaded
    (device : Nat) :
    InStep gaveUp gaveUp' (SameBench D)
      (driveLoaded device : Command ρ β Bool)
      (driveLoaded device : Command ρ β' Bool) := by
  intro s s' hs
  have hdrives := hs.drives device
  unfold driveLoaded
  rw [view_bind_apply, view_bind_apply]
  generalize s.fhs[device]? = drive at hdrives ⊢
  generalize s'.fhs[device]? = drive' at hdrives ⊢
  cases hdrives with
  | none =>
      exact .error DiskStop.outOfRange hs
  | some hdrive =>
      cases hdrive with
      | none =>
          exact .ok false hs
      | some _ =>
          exact .ok true hs

/-- The drives after a call of one of them. -/
theorem SameBench.set
    {s : Bench ρ β} {s' : Bench ρ β'} (hs : SameBench D s s') (device : Nat)
    {b : β} {b' : β'} (hb : D b b') (older : List DiskEvent) :
    SameBench D
      { s with
        fhs := s.fhs.set device (some b)
        trace := older ++ s.trace }
      { s' with
        fhs := s'.fhs.set device (some b')
        trace := older ++ s'.trace } where
  controller := hs.controller
  ram := hs.ram
  requests := hs.requests
  trace := by rw [hs.trace]
  number := by
    rw [List.length_set, List.length_set]
    exact hs.number
  drives i := by
    rw [List.getElem?_set, List.getElem?_set, hs.number]
    split
    · split
      · exact .some (.some hb)
      · exact .none
    · exact hs.drives i

/-- A call of a drive. -/
theorem inStep_callDrive
    (device : Nat) {call : DiskCall β α} {call' : DiskCall β' α}
    (hcall : InStep gaveUp gaveUp' D call call')
    (log : Option α → List DiskEvent) :
    InStep gaveUp gaveUp' (SameBench D)
      (callDrive device call log : Command ρ β α)
      (callDrive device call' log : Command ρ β' α) := by
  intro s s' hs
  have hdrives := hs.drives device
  unfold callDrive
  generalize s.fhs[device]? = drive at hdrives ⊢
  generalize s'.fhs[device]? = drive' at hdrives ⊢
  cases hdrives with
  | none =>
      exact .error DiskStop.outOfRange hs
  | some hdrive =>
      cases hdrive with
      | none =>
          exact .error DiskStop.nullAccess hs
      | @some b b' hb =>
          dsimp only
          have hresults := hcall b b' hb
          generalize call b = r at hresults ⊢
          generalize call' b' = r' at hresults ⊢
          cases hresults with
          | ok a h =>
              exact .ok a (hs.set device h _)
          | error e h =>
              exact .error e (hs.set device h _)
          | left h =>
              exact .left h
          | right h =>
              cases r with
              | ok a c =>
                  exact .right h
              | error e c =>
                  exact .right h

theorem inStep_loadBytes
    (memory : PhysAddr) (n i : Nat) (buffer : Buffer) :
    InStep gaveUp gaveUp' (SameBench D)
      (loadBytes memory n i buffer : Command ρ β Buffer)
      (loadBytes memory n i buffer : Command ρ β' Buffer) := by
  induction n generalizing i buffer with
  | zero =>
      exact .pure buffer
  | succ n ih =>
      exact .bind (inStep_readUnibusByte _) fun _ => ih _ _

theorem inStep_storeBytes
    (memory : PhysAddr) (buffer : Buffer) (n i : Nat) :
    InStep gaveUp gaveUp' (SameBench D)
      (storeBytes memory buffer n i : Command ρ β Unit)
      (storeBytes memory buffer n i : Command ρ β' Unit) := by
  induction n generalizing i with
  | zero =>
      exact .pure ()
  | succ n ih =>
      exact .bind (inStep_writeUnibusByte _ _) fun _ => ih _

theorem inStep_transferLoop
    {γ : Type} {piece : (memory disk : BitVec 32) → (cur left : Nat) → γ →
      Command ρ β (Bool × γ)}
    {piece' : (memory disk : BitVec 32) → (cur left : Nat) → γ →
      Command ρ β' (Bool × γ)}
    (hpiece : ∀ memory disk cur left place,
      InStep gaveUp gaveUp' (SameBench D) (piece memory disk cur left place)
        (piece' memory disk cur left place))
    (size passes : Nat) (memory disk : BitVec 32) (left : Nat) (place : γ) :
    InStep gaveUp gaveUp' (SameBench D)
      (transferLoop size piece passes memory disk left place)
      (transferLoop size piece' passes memory disk left place) := by
  induction passes generalizing memory disk left place with
  | zero =>
      exact .pure place
  | succ passes ih =>
      refine .ite (.pure place) ?_
      refine .bind (hpiece _ _ _ _ _) fun result => ?_
      exact .ite (ih _ _ _ _) (.pure _)

variable [DiskBackend β] [DiskBackend β']

theorem inStep_readDrive
    (h : DrivesInStep gaveUp gaveUp' D) (device offset n : Nat)
    (target : Buffer) {sectorSize : Nat} (hsize : sectorSize < 2 ^ 32) :
    InStep gaveUp gaveUp' (SameBench D)
      (readDrive device offset n target sectorSize :
        Command ρ β (Bool × Buffer))
      (readDrive device offset n target sectorSize :
        Command ρ β' (Bool × Buffer)) :=
  inStep_callDrive device (h.read offset n target sectorSize hsize) _

theorem inStep_writeDrive
    (h : DrivesInStep gaveUp gaveUp' D) (device offset n : Nat)
    (source : Buffer) {sectorSize : Nat} (hsize : sectorSize < 2 ^ 32) :
    InStep gaveUp gaveUp' (SameBench D)
      (writeDrive device offset n source sectorSize : Command ρ β Bool)
      (writeDrive device offset n source sectorSize : Command ρ β' Bool) :=
  inStep_callDrive device (h.write offset n source sectorSize hsize) _

end Primitives

/-- A controller that reaches its drives by their calls only. -/
class ReachesByCalls (ρ : Type) [DiskController ρ] : Prop where
  writeWord {β β' : Type} [DiskBackend β] [DiskBackend β']
    {gaveUp gaveUp' : DiskStop → Prop} {D : β → β' → Prop}
    (h : DrivesInStep gaveUp gaveUp' D) (a v : Word) :
    InStep gaveUp gaveUp' (SameBench D)
      (DiskController.writeWord a v : Command ρ β Unit)
      (DiskController.writeWord a v : Command ρ β' Unit)
  writeByte {β β' : Type} [DiskBackend β] [DiskBackend β']
    {gaveUp gaveUp' : DiskStop → Prop} {D : β → β' → Prop}
    (h : DrivesInStep gaveUp gaveUp' D) (a : Word) (v : Byte) :
    InStep gaveUp gaveUp' (SameBench D)
      (DiskController.writeByte a v : Command ρ β Unit)
      (DiskController.writeByte a v : Command ρ β' Unit)

section Controllers

variable {β β' : Type} [DiskBackend β] [DiskBackend β']
variable {gaveUp gaveUp' : DiskStop → Prop} {D : β → β' → Prop}

namespace Rk05

theorem inStep_writePiece
    (h : DrivesInStep gaveUp gaveUp' D) (v : Word) (device : Nat)
    (memory disk : BitVec 32) (cur left : Nat) (place : Place) :
    InStep gaveUp gaveUp' (SameBench D)
      (writePiece v device memory disk cur left place :
        Command Rk05 β (Bool × Place))
      (writePiece v device memory disk cur left place :
        Command Rk05 β' (Bool × Place)) := by
  refine .bind (inStep_controllerView _) fun buffer => ?_
  refine .bind (inStep_loadBytes _ _ _ _) fun buffer => ?_
  refine .bind (inStep_modifyController _) fun _ => ?_
  refine .bind (inStep_writeDrive h _ _ _ _ (by decide)) fun ok => ?_
  refine .ite ?_ ?_
  · exact .bind (inStep_modifyController _) fun _ => .pure _
  · exact .bind (inStep_modifyController _) fun _ => .pure _

theorem inStep_readPiece
    (h : DrivesInStep gaveUp gaveUp' D) (v : Word) (device : Nat)
    (memory disk : BitVec 32) (cur left : Nat) (place : Place) :
    InStep gaveUp gaveUp' (SameBench D)
      (readPiece v device memory disk cur left place :
        Command Rk05 β (Bool × Place))
      (readPiece v device memory disk cur left place :
        Command Rk05 β' (Bool × Place)) := by
  refine .bind (inStep_controllerView _) fun buffer => ?_
  refine .bind (inStep_readDrive h _ _ _ _ (by decide)) fun result => ?_
  refine .bind (inStep_modifyController _) fun _ => ?_
  refine .ite ?_ ?_
  · exact .bind (inStep_modifyController _) fun _ => .pure _
  · refine .bind (inStep_storeBytes _ _ _ _) fun _ => ?_
    exact .bind (inStep_modifyController _) fun _ => .pure _

omit [DiskBackend β] [DiskBackend β'] in
theorem inStep_transfer
    {piece : Nat → (memory disk : BitVec 32) → (cur left : Nat) → Place →
      Command Rk05 β (Bool × Place)}
    {piece' : Nat → (memory disk : BitVec 32) → (cur left : Nat) → Place →
      Command Rk05 β' (Bool × Place)}
    (hpiece : ∀ device memory disk cur left place,
      InStep gaveUp gaveUp' (SameBench D)
        (piece device memory disk cur left place)
        (piece' device memory disk cur left place))
    (device : Nat) (da : Word) (reclen : Nat) (memoff : BitVec 32) :
    InStep gaveUp gaveUp' (SameBench D)
      (transfer piece device da reclen memoff)
      (transfer piece' device da reclen memoff) := by
  refine .bind (inStep_driveExists _) fun present => ?_
  refine .ite (inStep_modifyController _) ?_
  exact .bind (inStep_transferLoop (hpiece device) _ _ _ _ _ _) fun _ =>
    inStep_modifyController _

theorem inStep_execute
    (h : DrivesInStep gaveUp gaveUp' D) (v : Word) (device : Nat) (da : Word)
    (reclen : Nat) (memoff : BitVec 32) :
    InStep gaveUp gaveUp' (SameBench D)
      (execute v device da reclen memoff : Command Rk05 β Unit)
      (execute v device da reclen memoff : Command Rk05 β' Unit) := by
  unfold execute
  split
  · exact inStep_modifyController _
  · exact inStep_transfer (inStep_writePiece h v) _ _ _ _
  · exact inStep_transfer (inStep_readPiece h v) _ _ _ _
  · exact inStep_modifyController _
  · exact .pure ()

theorem inStep_writeWord
    (h : DrivesInStep gaveUp gaveUp' D) (a v : Word) :
    InStep gaveUp gaveUp' (SameBench D)
      (writeWord a v : Command Rk05 β Unit)
      (writeWord a v : Command Rk05 β' Unit) := by
  refine .bind (inStep_modifyController _) fun _ => ?_
  refine .ite ?_ (.pure ())
  refine .bind (inStep_controllerView _) fun reclen => ?_
  refine .bind (inStep_controllerView _) fun da => ?_
  refine .bind (inStep_controllerView _) fun device => ?_
  refine .bind (inStep_controllerView _) fun memoff => ?_
  refine .bind (inStep_modifyController _) fun _ => ?_
  refine .bind (inStep_execute h _ _ _ _ _) fun _ => ?_
  refine .bind (inStep_modifyController _) fun _ => ?_
  refine .ite ?_ (.pure ())
  exact .bind (inStep_modifyController _) fun _ => inStep_queueInterrupt _ _

theorem inStep_writeByte
    (h : DrivesInStep gaveUp gaveUp' D) (a : Word) (v : Byte) :
    InStep gaveUp gaveUp' (SameBench D)
      (writeByte a v : Command Rk05 β Unit)
      (writeByte a v : Command Rk05 β' Unit) :=
  .bind (inStep_controllerView _) fun _ => inStep_writeWord h _ _

instance : ReachesByCalls Rk05 where
  writeWord h a v := inStep_writeWord h a v
  writeByte h a v := inStep_writeByte h a v

end Rk05

namespace Rl02

theorem inStep_writeLoaded
    (h : DrivesInStep gaveUp gaveUp' D) (device offset n : Nat)
    (source : Buffer) :
    InStep gaveUp gaveUp' (SameBench D)
      (writeLoaded device offset n source : Command Rl02 β Bool)
      (writeLoaded device offset n source : Command Rl02 β' Bool) := by
  refine .bind (inStep_driveLoaded _) fun loaded => ?_
  exact .ite (.pure _) (inStep_writeDrive h _ _ _ _ (by decide))

theorem inStep_readLoaded
    (h : DrivesInStep gaveUp gaveUp' D) (device offset n : Nat)
    (target : Buffer) :
    InStep gaveUp gaveUp' (SameBench D)
      (readLoaded device offset n target : Command Rl02 β (Bool × Buffer))
      (readLoaded device offset n target :
        Command Rl02 β' (Bool × Buffer)) := by
  refine .bind (inStep_driveLoaded _) fun loaded => ?_
  exact .ite (.pure _) (inStep_readDrive h _ _ _ _ (by decide))

theorem inStep_writePiece
    (h : DrivesInStep gaveUp gaveUp' D) (device : Nat)
    (memory disk : BitVec 32) (cur left : Nat) (place : Unit) :
    InStep gaveUp gaveUp' (SameBench D)
      (writePiece device memory disk cur left place :
        Command Rl02 β (Bool × Unit))
      (writePiece device memory disk cur left place :
        Command Rl02 β' (Bool × Unit)) := by
  refine .bind (inStep_controllerView _) fun buffer => ?_
  refine .bind (inStep_loadBytes _ _ _ _) fun buffer => ?_
  refine .bind (inStep_modifyController _) fun _ => ?_
  refine .bind (inStep_writeLoaded h _ _ _ _) fun ok => ?_
  refine .ite (.pure _) ?_
  exact .bind (inStep_modifyController _) fun _ => .pure _

theorem inStep_readPiece
    (h : DrivesInStep gaveUp gaveUp' D) (device : Nat)
    (memory disk : BitVec 32) (cur left : Nat) (place : Unit) :
    InStep gaveUp gaveUp' (SameBench D)
      (readPiece device memory disk cur left place :
        Command Rl02 β (Bool × Unit))
      (readPiece device memory disk cur left place :
        Command Rl02 β' (Bool × Unit)) := by
  refine .bind (inStep_controllerView _) fun buffer => ?_
  refine .bind (inStep_readLoaded h _ _ _ _) fun result => ?_
  refine .bind (inStep_modifyController _) fun _ => ?_
  refine .ite (.pure _) ?_
  refine .bind (inStep_storeBytes _ _ _ _) fun _ => ?_
  exact .bind (inStep_modifyController _) fun _ => .pure _

omit [DiskBackend β] [DiskBackend β'] in
theorem inStep_transfer
    {piece : (memory disk : BitVec 32) → (cur left : Nat) → Unit →
      Command Rl02 β (Bool × Unit)}
    {piece' : (memory disk : BitVec 32) → (cur left : Nat) → Unit →
      Command Rl02 β' (Bool × Unit)}
    (hpiece : ∀ memory disk cur left place,
      InStep gaveUp gaveUp' (SameBench D) (piece memory disk cur left place)
        (piece' memory disk cur left place)) :
    InStep gaveUp gaveUp' (SameBench D) (transfer piece)
      (transfer piece') := by
  refine .bind (inStep_controllerView _) fun memoryAddress => ?_
  refine .bind (inStep_controllerView _) fun count => ?_
  refine .bind (inStep_modifyController _) fun _ => ?_
  refine .bind (inStep_controllerView _) fun diskOffset => ?_
  exact inStep_transferLoop hpiece _ _ _ _ _ _

theorem inStep_execute
    (h : DrivesInStep gaveUp gaveUp' D) (device command : Nat) :
    InStep gaveUp gaveUp' (SameBench D)
      (execute device command : Command Rl02 β Bool)
      (execute device command : Command Rl02 β' Bool) := by
  refine .bind (inStep_driveExists _) fun present => ?_
  refine .ite ?_ ?_
  · exact .bind (inStep_modifyController _) fun _ => .pure _
  · split
    · exact .bind (inStep_modifyController _) fun _ => .pure _
    · exact .bind (inStep_modifyController _) fun _ => .pure _
    · exact .bind (inStep_modifyController _) fun _ => .pure _
    · exact .bind (inStep_transfer (inStep_writePiece h _)) fun _ => .pure _
    · exact .bind (inStep_transfer (inStep_readPiece h _)) fun _ => .pure _
    · exact .bind (inStep_transfer (inStep_readPiece h _)) fun _ => .pure _
    · exact .pure _

theorem inStep_writeWord
    (h : DrivesInStep gaveUp gaveUp' D) (a v : Word) :
    InStep gaveUp gaveUp' (SameBench D)
      (writeWord a v : Command Rl02 β Unit)
      (writeWord a v : Command Rl02 β' Unit) := by
  refine .bind (inStep_modifyController _) fun _ => ?_
  refine .ite ?_ (.pure ())
  refine .bind (inStep_execute h _ _) fun doInt => ?_
  refine .bind (inStep_controllerView _) fun enabled => ?_
  exact .ite (inStep_queueInterrupt _ _) (.pure ())

theorem inStep_writeByte
    (h : DrivesInStep gaveUp gaveUp' D) (a : Word) (v : Byte) :
    InStep gaveUp gaveUp' (SameBench D)
      (writeByte a v : Command Rl02 β Unit)
      (writeByte a v : Command Rl02 β' Unit) :=
  .bind (inStep_controllerView _) fun _ => inStep_writeWord h _ _

instance : ReachesByCalls Rl02 where
  writeWord h a v := inStep_writeWord h a v
  writeByte h a v := inStep_writeByte h a v

end Rl02

namespace Rp06

theorem inStep_piece
    (h : DrivesInStep gaveUp gaveUp' D) (reads : Bool)
    (memory disk : BitVec 32) (cur : Nat) (buffer : Buffer) :
    InStep gaveUp gaveUp' (SameBench D)
      (piece reads memory disk cur buffer : Command Rp06 β (Bool × Buffer))
      (piece reads memory disk cur buffer :
        Command Rp06 β' (Bool × Buffer)) := by
  refine .ite ?_ ?_
  · refine .bind (inStep_readDrive h _ _ _ _ (by decide)) fun result => ?_
    refine .ite (.pure _) ?_
    exact .bind (inStep_storeBytes _ _ _ _) fun _ => .pure _
  · refine .bind (inStep_loadBytes _ _ _ _) fun buffer => ?_
    exact .bind (inStep_writeDrive h _ _ _ _ (by decide)) fun ok => .pure _

/-- A loop that does not end does so over either drive. -/
theorem inStep_transferLoop
    (h : DrivesInStep gaveUp gaveUp' D) (reads : Bool)
    (endOffset : BitVec 32) (passes : Nat) (memory curOffset : BitVec 32)
    (buffer : Buffer) :
    InStep gaveUp gaveUp' (SameBench D)
      (transferLoop reads endOffset passes memory curOffset buffer :
        Command Rp06 β Unit)
      (transferLoop reads endOffset passes memory curOffset buffer :
        Command Rp06 β' Unit) := by
  induction passes generalizing memory curOffset buffer with
  | zero =>
      exact .raise DiskStop.blocked
  | succ passes ih =>
      refine .ite ?_ (.pure ())
      refine .bind (inStep_piece h _ _ _ _ _) fun result => ?_
      exact .ite (ih _ _ _) (.pure ())

theorem inStep_transfer
    (h : DrivesInStep gaveUp gaveUp' D) (reads : Bool) :
    InStep gaveUp gaveUp' (SameBench D)
      (transfer reads : Command Rp06 β Unit)
      (transfer reads : Command Rp06 β' Unit) := by
  refine .bind (inStep_controllerView _) fun offs => ?_
  refine .bind (inStep_controllerView _) fun addr => ?_
  refine .bind (inStep_controllerView _) fun nw => ?_
  refine .bind (inStep_transferLoop h _ _ _ _ _ _) fun _ => ?_
  exact inStep_modifyController _

theorem inStep_execute
    (h : DrivesInStep gaveUp gaveUp' D) (functionCode : Nat) :
    InStep gaveUp gaveUp' (SameBench D)
      (execute functionCode : Command Rp06 β Bool)
      (execute functionCode : Command Rp06 β' Bool) := by
  have hready : ∀ f : Rp06 → Rp06, InStep gaveUp gaveUp' (SameBench D)
      (do modifyController f; pure true : Command Rp06 β Bool)
      (do modifyController f; pure true : Command Rp06 β' Bool) :=
    fun f => .bind (inStep_modifyController f) fun _ => .pure _
  unfold execute
  split
  · exact hready _
  · exact hready _
  · exact hready _
  · exact hready _
  · exact hready _
  · exact hready _
  · exact .bind (inStep_transfer h _) fun _ => .pure _
  · exact .bind (inStep_transfer h _) fun _ => .pure _
  · exact .pure _

theorem inStep_writeWord
    (h : DrivesInStep gaveUp gaveUp' D) (a v : Word) :
    InStep gaveUp gaveUp' (SameBench D)
      (writeWord a v : Command Rp06 β Unit)
      (writeWord a v : Command Rp06 β' Unit) := by
  refine .bind (inStep_modifyController _) fun _ => ?_
  refine .ite ?_ (.pure ())
  refine .bind (inStep_modifyController _) fun _ => ?_
  refine .ite ?_ (.pure ())
  refine .bind (inStep_modifyController _) fun _ => ?_
  refine .bind (inStep_execute h _) fun generateInterrupt => ?_
  refine .bind (inStep_controllerView _) fun enabled => ?_
  exact .ite (inStep_queueInterrupt _ _) (.pure ())

theorem inStep_writeByte
    (h : DrivesInStep gaveUp gaveUp' D) (a : Word) (v : Byte) :
    InStep gaveUp gaveUp' (SameBench D)
      (writeByte a v : Command Rp06 β Unit)
      (writeByte a v : Command Rp06 β' Unit) :=
  .bind (inStep_controllerView _) fun _ => inStep_writeWord h _ _

instance : ReachesByCalls Rp06 where
  writeWord h a v := inStep_writeWord h a v
  writeByte h a v := inStep_writeByte h a v

end Rp06

variable {ρ : Type} [DiskController ρ] [ReachesByCalls ρ]

/-- An access to a register. -/
theorem inStep_perform
    (h : DrivesInStep gaveUp gaveUp' D) (g : GuestAccess) :
    InStep gaveUp gaveUp' (SameBench D)
      (g.perform : Command ρ β Unit) (g.perform : Command ρ β' Unit) := by
  unfold GuestAccess.perform
  cases g with
  | readByte a =>
      exact inStep_modifyController _
  | readWord a =>
      exact inStep_modifyController _
  | writeByte a v =>
      exact ReachesByCalls.writeByte h a v
  | writeWord a v =>
      exact ReachesByCalls.writeWord h a v

/-- A sequence of accesses. -/
theorem inStep_performAll
    (h : DrivesInStep gaveUp gaveUp' D) (gs : List GuestAccess) :
    InStep gaveUp gaveUp' (SameBench D)
      (performAll gs : Command ρ β Unit) (performAll gs : Command ρ β' Unit) := by
  induction gs with
  | nil =>
      exact .pure ()
  | cons g gs ih =>
      exact .bind (inStep_perform h g) fun _ => ih

end Controllers

section Networks

variable {P : List Attempt → List Attempt → Prop} {lost lost' : Prop}

/-- The calls of a backend over two networks. -/
theorem drivesInStep_backend
    (halike : NbdBackend.AlikeNetworks lost lost' P) :
    DrivesInStep (NbdBackend.Waits lost) (NbdBackend.Waits lost')
      (Backend.Twins P) where
  read offset n target _ hsize :=
    Backend.inStep_read halike offset n target hsize
  write offset n source sectorSize _ :=
    Backend.inStep_write halike offset n source sectorSize

/-- The same bench with networks that are related. -/
abbrev SameButNetworks {ρ : Type} (P : List Attempt → List Attempt → Prop)
    (s s' : Bench ρ Backend) : Prop :=
  SameBench (Backend.Twins P) s s'

/-- Register accesses do not tell two networks apart, unless the program is
left waiting or its process ends; with a network that has no fatal attempts and
answers as many requests as another one without losses it returns where it does
with the other one. -/
def BlindToLosses (ρ : Type) [DiskController ρ] : Prop :=
  ∀ (gs : List GuestAccess) (s s' : Bench ρ Backend),
    (SameButNetworks (fun _ _ => True) s s' →
      Alongside (· = .blocked) (· = .blocked)
        (SameButNetworks fun _ _ => True) (performAll gs s)
        (performAll gs s')) ∧
    (SameButNetworks (Retry.Covers Attempt.fatal Attempt.answered) s s' →
      Alongside (· = .blocked) (fun _ => False)
        (SameButNetworks fun _ _ => True) (performAll gs s)
        (performAll gs s'))

theorem SameBench.imp
    {ρ β β' : Type} {D E : β → β' → Prop} (h : ∀ b b', D b b' → E b b')
    {s : Bench ρ β} {s' : Bench ρ β'} (hs : SameBench D s s') :
    SameBench E s s' where
  controller := hs.controller
  ram := hs.ram
  requests := hs.requests
  trace := hs.trace
  number := hs.number
  drives device := by
    have hdrive := hs.drives device
    generalize s.fhs[device]? = drive at hdrive ⊢
    generalize s'.fhs[device]? = drive' at hdrive ⊢
    cases hdrive with
    | none =>
        exact .none
    | some hdrive =>
        cases hdrive with
        | none =>
            exact .some .none
        | some hb =>
            exact .some (.some (h _ _ hb))

theorem SameButNetworks.any
    {ρ : Type} {s s' : Bench ρ Backend} (hs : SameButNetworks P s s') :
    SameButNetworks (fun _ _ => True) s s' := by
  refine SameBench.imp (fun b b' hb => ?_) hs
  cases hb with
  | file f =>
      exact .file f
  | nbd h =>
      exact .nbd ⟨h.same, trivial⟩

/-- A controller that reaches its drives by their calls only. -/
theorem blindToLosses
    (ρ : Type) [DiskController ρ] [ReachesByCalls ρ] :
    BlindToLosses ρ := by
  intro gs s s'
  constructor
  · intro hs
    have hresults := inStep_performAll
      (drivesInStep_backend (Retry.alike_any Attempt.fatal Attempt.answered))
      gs s s' hs
    exact hresults.imp (fun _ h => h.1) (fun _ h => h.1) fun _ _ h => h
  · intro hs
    have hresults := inStep_performAll
      (drivesInStep_backend (Retry.alike_covers Attempt.fatal Attempt.answered
        Attempt.answered_not_fatal)) gs s s' hs
    exact hresults.imp (fun _ h => h.1) (fun _ h => h.2) fun _ _ h =>
      SameButNetworks.any h

/-- No program on the machine sees which connections to an NBD server were
lost: the registers of a controller, memory, the interrupts, the overlay and
the server are the same afterwards. -/
theorem guest_is_blind_to_lost_connections :
    BlindToLosses Rk05 ∧ BlindToLosses Rl02 ∧ BlindToLosses Rp06 :=
  ⟨blindToLosses Rk05, blindToLosses Rl02, blindToLosses Rp06⟩

/-- An RK05 with a disk on an NBD server; a program is about to write the
sector at memory address 0 to the disk. -/
def rk05OverNetwork (network : List Attempt) : Bench Rk05 Backend where
  controller :=
    { registers := fun i => if i = 3 then 0xff00 else 0
      xferBuffer := fun _ => 0 }
  fhs :=
    [some (.nbd
      { size := 1024
        useOverlay := false
        overlay := ∅
        host := "localhost"
        port := 10809
        server := ⟨1024, fun _ => 0, fun _ _ => rfl⟩
        network := network })]
  ram := ⟨0x1000, fun i => BitVec.ofNat 8 i⟩
  requests := []
  trace := []

/-- The connection is lost after the write, and the new one is not greeted at
once. -/
theorem guest_is_blind_to_lost_connections_rk05 :
    ∃ t, performAll [.writeWord 0o177404 3]
        (rk05OverNetwork [.replyLost, .notGreeted, .served]) = .ok () t ∧
      SameButNetworks (fun _ _ => True)
        (final (performAll [.writeWord 0o177404 3]
          (rk05OverNetwork [.served]))) t := by
  have hsame : SameButNetworks (Retry.Covers Attempt.fatal Attempt.answered)
      (rk05OverNetwork [.served])
      (rk05OverNetwork [.replyLost, .notGreeted, .served]) := by
    refine ⟨rfl, rfl, rfl, rfl, rfl, fun device => ?_⟩
    cases device with
    | zero =>
        refine .some (.some (.nbd ⟨rfl, ?_, ?_, by decide⟩))
        · decide
        · decide
    | succ device =>
        exact .none
  have hreturned : returned (performAll [.writeWord 0o177404 3]
      (rk05OverNetwork [.served])) = true := by
    decide +kernel
  have hresults := (guest_is_blind_to_lost_connections.1
    [.writeWord 0o177404 3] _ _).2 hsame
  generalize performAll [.writeWord 0o177404 3] (rk05OverNetwork [.served]) = r
    at hresults hreturned ⊢
  generalize performAll [.writeWord 0o177404 3]
    (rk05OverNetwork [.replyLost, .notGreeted, .served]) = r' at hresults ⊢
  cases hresults with
  | ok a h =>
      exact ⟨_, rfl, h⟩
  | error e h =>
      cases hreturned
  | left h =>
      cases hreturned
  | right h =>
      exact h.elim

end Networks

end KekPdp11
