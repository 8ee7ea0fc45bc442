import KekPdp11.Bus

/-!
# KEK PDP-11: the stack and trap entry

cpu::push_stack, cpu::pop_stack and cpu::trap.

A trap can be hit by another one, while it reads its vector and while it
pushes its frame.  The source bounds this by processing_trap_depth: the third
level stops the machine without a bus reference.  `trapFuel` unrolls the
recursion, and `trap` allows it three levels.  That these three are always
enough is proved in the module TrapRecursion.
-/

namespace KekPdp11

open StateExcept

variable {δ : Type} [UnibusDevices δ]

section OpenRecursion

variable (trap : TrapCall δ)

/-- use_limit of cpu::push_stack. -/
def useLimit (stackLimitRegister : Word) : Word :=
  if stackLimitRegister = 0 then 0o400 else stackLimitRegister

/-- The end of push_stack outside the two zones: store below the stack. -/
def storeOnStackVia (v : Word) : Exec δ Unit := do
  let a ← addRegister 6 (-2)
  Bus.writeWordVia trap a v .dSpace

/-- cpu::push_stack. -/
def pushStackVia (v : Word) : Exec δ Unit := do
  let runMode ← getPSWRunmode
  let limit ← cpuView fun c => useLimit c.stackLimitRegister
  let sp ← getRegister 6
  if runMode = 0 ∧ sp < limit then
    -- yellow zone; the comparison is one of ints, 32 below may be negative
    if (sp.toNat : Int) ≥ (limit.toNat : Int) - 32 then do
      storeOnStackVia trap v
      modifyCpu fun c =>
        { c with delayedTrap := some 0o4, anyQueuedInterrupts := true }
      modifyMmu fun m => m.setCPUERRBit 14
    -- red zone
    else do
      setRegister 6 4
      trap 0o4 (some 7)
      modifyCpu fun c => { c with processingTrapDepth := 127 }
      modifyMmu fun m => m.setCPUERRBit 15
  else
    storeOnStackVia trap v

/-- cpu::pop_stack. -/
def popStackVia : Exec δ Word := do
  let a ← getRegister 6
  let temp ← Bus.readWordVia trap a .dSpace
  let _ ← addRegister 6 2
  pure temp

/-- The status word that a trap enters with: the vector's word without its
previous mode, with a forced priority and with the mode that was current. -/
def trapPSW (vectorPsw beforePsw : Word) (newIpl : Option Level) : Word :=
  let newPsw := vectorPsw &&& 0o147777
  let newPsw :=
    match newIpl with
    | some ipl => (newPsw &&& ~~~0xe0#16) ||| (ipl.setWidth 16 <<< 5)
    | none => newPsw
  newPsw ||| ((beforePsw >>> 2) &&& 0o30000)

/-- Load PC and the status word from a vector in kernel space. -/
def loadVectorVia (vector beforePsw : Word) (newIpl : Option Level) :
    Exec δ Unit := do
  -- make sure the trap vector is retrieved from kernel space
  modifyCpu fun c => { c with psw := c.psw &&& 0o37777 }
  let space ← mmuView fun m =>
    if m.getUseDataSpace 0 then Space.dSpace else Space.iSpace
  let newPC ← Bus.readWordVia trap (vector + 0) space
  setPC newPC
  let vectorPsw ← Bus.readWordVia trap (vector + 2) space
  modifyCpu fun c => c.setPSW (trapPSW vectorPsw beforePsw newIpl) false

/-- Save the interrupted PC and status word; a fault recovers the stack. -/
def saveFrameVia (beforePsw beforePC : Word) : Exec δ Unit := do
  let prevSp ← getRegister 6
  catchInt
    (do
      pushStackVia trap beforePsw
      pushStackVia trap beforePC)
    (fun _ => setRegister 6 prevSp)

/-- The part of cpu::trap that a level below the third runs. -/
def enterTrapVia (vector : Word) (newIpl : Option Level)
    (kernelMode : Bool) : Exec δ Unit := do
  let beforePsw ← cpuView fun c => c.psw
  let beforePC ← getPC
  catchInt
    (do
      loadVectorVia trap vector beforePsw newIpl
      let depth ← cpuView fun c => c.processingTrapDepth
      onlyIf (decide (depth ≥ 2) && kernelMode) (setRegister 6 4)
      saveFrameVia trap beforePsw beforePC
      modifyCpu fun c => { c with processingTrapDepth := 0 })
    (fun _ => modifyCpu fun c => c.setPSW beforePsw false)

/-- cpu::trap. -/
def trapVia (vector : Word) (newIpl : Option Level) : Exec δ Unit := do
  logEvent (.trapEntry vector newIpl)
  modifyCpu fun c => c.countTrap vector
  modifyCpu fun c =>
    { c with processingTrapDepth := c.processingTrapDepth + 1 }
  let kernelMode ← cpuView fun c => decide (c.getPSWRunmode = 0)
  let depth ← cpuView fun c => c.processingTrapDepth
  if depth ≥ 3 then
    modifyCpu fun c => { c with event := .eventHalt }
  else if depth ≥ 2 then do
    setRegister 6 4
    enterTrapVia trap (if kernelMode then 4 else vector) newIpl kernelMode
  else
    enterTrapVia trap vector newIpl kernelMode

/-- The state in which cpu::trap decides what level it is. -/
def atTrapLevel (s : Machine δ) (vector : Word) (newIpl : Option Level) :
    Machine δ :=
  { s with
    trace := .trapEntry vector newIpl :: s.trace
    cpu :=
      { s.cpu.countTrap vector with
        processingTrapDepth := s.cpu.processingTrapDepth + 1 } }

/-- The third level stops the machine. -/
theorem trapVia_of_deep
    (vector : Word) (newIpl : Option Level) {s : Machine δ}
    (h : 2 ≤ s.cpu.processingTrapDepth) :
    trapVia trap vector newIpl s =
      .ok () { atTrapLevel s vector newIpl with
        cpu := { (atTrapLevel s vector newIpl).cpu with
          event := .eventHalt } } := by
  have hdepth : (atTrapLevel s vector newIpl).cpu.processingTrapDepth ≥ 3 :=
    Nat.succ_le_succ h
  change (if (atTrapLevel s vector newIpl).cpu.processingTrapDepth ≥ 3 then _
    else _ : Exec δ Unit) (atTrapLevel s vector newIpl) = _
  rw [if_pos hdepth]
  rfl

/-- The second level starts with a stack at 4 and may change its vector. -/
theorem trapVia_of_nested
    (vector : Word) (newIpl : Option Level) {s : Machine δ}
    (h : s.cpu.processingTrapDepth = 1) :
    trapVia trap vector newIpl s =
      (do
        setRegister 6 4
        enterTrapVia trap
          (if decide (s.cpu.getPSWRunmode = 0) then 4 else vector) newIpl
          (decide (s.cpu.getPSWRunmode = 0)))
        (atTrapLevel s vector newIpl) := by
  have hdepth : (atTrapLevel s vector newIpl).cpu.processingTrapDepth = 2 :=
    congrArg Nat.succ h
  change (if (atTrapLevel s vector newIpl).cpu.processingTrapDepth ≥ 3 then _
    else if (atTrapLevel s vector newIpl).cpu.processingTrapDepth ≥ 2 then _
    else _ : Exec δ Unit) (atTrapLevel s vector newIpl) = _
  rw [hdepth, if_neg (by omega), if_pos (by omega)]
  rfl

/-- The first level. -/
theorem trapVia_of_first
    (vector : Word) (newIpl : Option Level) {s : Machine δ}
    (h : s.cpu.processingTrapDepth = 0) :
    trapVia trap vector newIpl s =
      enterTrapVia trap vector newIpl (decide (s.cpu.getPSWRunmode = 0))
        (atTrapLevel s vector newIpl) := by
  have hdepth : (atTrapLevel s vector newIpl).cpu.processingTrapDepth = 1 :=
    congrArg Nat.succ h
  change (if (atTrapLevel s vector newIpl).cpu.processingTrapDepth ≥ 3 then _
    else if (atTrapLevel s vector newIpl).cpu.processingTrapDepth ≥ 2 then _
    else _ : Exec δ Unit) (atTrapLevel s vector newIpl) = _
  rw [hdepth, if_neg (by omega), if_neg (by omega)]
  rfl

end OpenRecursion

/-- The recursion between traps and references, unrolled `n` times. -/
def trapFuel : Nat → TrapCall δ
  | 0 => fun _ _ => raise .outOfFuel
  | n + 1 => trapVia (trapFuel n)

/-- cpu::trap with the recursion closed. -/
def trap : TrapCall δ :=
  trapFuel 3

namespace Bus

/-- bus::read. -/
def read (addrIn : Word) (wordMode : WordMode) (runMode : RunMode)
    (spaceIn : Space) : Exec δ Word :=
  readVia trap addrIn wordMode runMode spaceIn

/-- bus::write. -/
def write (addrIn : Word) (wordMode : WordMode) (value : Word)
    (runMode : RunMode) (spaceIn : Space) : Exec δ Bool :=
  writeVia trap addrIn wordMode value runMode spaceIn

/-- bus::read_word. -/
def readWord (a : Word) (s : Space) : Exec δ Word :=
  readWordVia trap a s

end Bus

def pushStack (v : Word) : Exec δ Unit :=
  pushStackVia trap v

def popStack : Exec δ Word :=
  popStackVia trap

end KekPdp11
