import KekPdp11.CopyingControllers
import KekPdp11.TransferErrors

/-!
# KEK PDP-11: the interrupts of the disk controllers

A controller asks for an interrupt when a command ends and its interrupt enable
bit is set.  Which accesses that are can be told from the word that is written
and the drives that there are: nothing that happens during a command, no drive
that fails and no memory that is missing changes it.
-/

namespace KekPdp11

open StateExcept Slices

/-- The interrupt that a write of a register asks for, if it asks for one. -/
class InterruptingController (ρ : Type) where
  asks {β : Type} : Word → Word → Bench ρ β → Option InterruptRequest

section Runs

variable {ρ β : Type} [DiskController ρ] [CopyingController ρ]
variable [InterruptingController ρ]

def GuestAccess.asked (g : GuestAccess) (s : Bench ρ β) :
    Option InterruptRequest :=
  (CopyingController.written g s.controller).bind fun w =>
    InterruptingController.asks w.1 w.2 s

/-- The interrupts that a sequence of accesses asks for, newest first. -/
def interruptsOf [DiskBackend β] :
    List GuestAccess → Bench ρ β → List InterruptRequest
  | [], _ => []
  | g :: gs, s =>
      (match g.perform s with
        | .ok _ t => interruptsOf gs t
        | .error _ _ => []) ++ (g.asked s).toList

end Runs

/-- The controller asks for no other interrupts. -/
class LawfulInterruptingController (ρ : Type) [DiskController ρ]
    [CopyingController ρ] [InterruptingController ρ] : Prop where
  perform {β : Type} [DiskBackend β] (g : GuestAccess) (s : Bench ρ β) :
    After (fun _ t => t.requests = (g.asked s).toList ++ s.requests)
      (fun _ _ => True) (g.perform s)

/-- A run asks for the interrupts that its accesses ask for. -/
theorem performAll_asks
    {ρ β : Type} [DiskController ρ] [CopyingController ρ]
    [InterruptingController ρ] [LawfulInterruptingController ρ] [DiskBackend β]
    (gs : List GuestAccess) (s : Bench ρ β) :
    After (fun _ t => t.requests = interruptsOf gs s ++ s.requests)
      (fun _ _ => True) (performAll gs s) := by
  induction gs generalizing s with
  | nil =>
      rfl
  | cons g gs ih =>
      have hstep := LawfulInterruptingController.perform g s
      unfold interruptsOf performAll
      rw [bind_apply]
      cases hg : g.perform s with
      | ok a t =>
          rw [hg] at hstep
          refine (ih t).imp fun _ u hu => ?_
          rw [hu, show t.requests = _ from hstep, List.append_assoc]
      | error e t =>
          trivial

section Frames

variable {ρ β : Type} {k : ρ → Prop} {q : List InterruptRequest}

/-- The interrupts asked for so far, and something about the registers. -/
def Asked (k : ρ → Prop) (q : List InterruptRequest) (s : Bench ρ β) : Prop :=
  k s.controller ∧ s.requests = q

/-- The program asks for no interrupt and keeps the fact about the
registers. -/
abbrev Silent {α : Type} (k : ρ → Prop) (q : List InterruptRequest)
    (m : Command ρ β α) : Prop :=
  Triple (Asked k q) m (fun _ => Asked k q) fun _ _ => True

theorem silent_pure
    {α : Type} (a : α) :
    Silent k q (pure a : Command ρ β α) :=
  .pure fun _ hs => hs

theorem silent_modifyController
    {f : ρ → ρ} (hf : ∀ c, k c → k (f c)) :
    Silent k q (modifyController f : Command ρ β Unit) :=
  .update fun s hs => ⟨hf s.controller hs.1, hs.2⟩

theorem silent_callDrive
    {α : Type} (device : Nat) (call : DiskCall β α)
    (log : Option α → List DiskEvent) :
    Silent k q (callDrive device call log : Command ρ β α) := by
  intro s hs
  unfold callDrive
  split
  · trivial
  · trivial
  · split
    · exact hs
    · trivial

theorem silent_storeBytes
    (a : PhysAddr) (buffer : Buffer) (n i : Nat) :
    Silent k q (storeBytes a buffer n i : Command ρ β Unit) := by
  induction n generalizing i with
  | zero =>
      exact silent_pure ()
  | succ n ih =>
      exact .bind (.update fun _ hs => hs) fun _ => ih _

theorem silent_loadBytes
    (a : PhysAddr) (n i : Nat) (buffer : Buffer) :
    Silent k q (loadBytes a n i buffer : Command ρ β Buffer) := by
  induction n generalizing i buffer with
  | zero =>
      exact silent_pure buffer
  | succ n ih =>
      refine .bind (Q := fun _ => Asked k q) ?_ fun v => ih _ _
      refine .view_bind_any fun v => ?_
      exact .bind (.update fun _ hs => hs) fun _ => silent_pure v

theorem silent_transferLoop
    {γ : Type} {piece : (memory disk : BitVec 32) → (cur left : Nat) → γ →
      Command ρ β (Bool × γ)}
    (hpiece : ∀ memory disk cur left place,
      Silent k q (piece memory disk cur left place))
    (size passes : Nat) (memory disk : BitVec 32) (left : Nat) (place : γ) :
    Silent k q (transferLoop size piece passes memory disk left place) := by
  induction passes generalizing memory disk left place with
  | zero =>
      exact silent_pure place
  | succ passes ih =>
      refine .ite (fun _ => silent_pure place) fun _ => ?_
      refine .bind (hpiece _ _ _ _ _) fun result => ?_
      exact .ite (fun _ => ih _ _ _ _) fun _ => silent_pure _

/-- The interrupt at the end of a command. -/
theorem asks
    (level : Level) (vector : Word) :
    Triple (Asked k q) (queueInterrupt level vector : Command ρ β Unit)
      (fun _ => Asked k (.queue level vector :: q)) fun _ _ => True :=
  .update fun _ hs => ⟨hs.1, congrArg (List.cons _) hs.2⟩

end Frames

namespace Rk05

variable {β : Type} {q : List InterruptRequest}

instance : InterruptingController Rk05 where
  asks a v _ :=
    if a = RK05_CS ∧ v &&& 1 ≠ 0 ∧ v &&& 64 ≠ 0 then some (.queue 5 0o220)
    else none

/-- Nothing about the registers. -/
abbrev Anything (_ : Rk05) : Prop :=
  True

theorem silent_modify
    (f : Rk05 → Rk05) :
    Silent Anything q (modifyController f : Command Rk05 β Unit) :=
  silent_modifyController fun _ h => h

variable [DiskBackend β]

theorem silent_writePiece
    (v : Word) (device : Nat) (memory disk : BitVec 32) (cur left : Nat)
    (place : Place) :
    Silent Anything q
      (writePiece v device memory disk cur left place :
        Command Rk05 β (Bool × Place)) := by
  refine .view_bind_any fun buffer => ?_
  refine .bind (silent_loadBytes _ _ _ _) fun buffer => ?_
  refine .bind (silent_modify _) fun _ => ?_
  refine .bind (silent_callDrive _ _ _) fun ok => ?_
  refine .ite (fun _ => ?_) fun _ => ?_
  · exact .bind (silent_modify _) fun _ => silent_pure _
  · exact .bind (silent_modify _) fun _ => silent_pure _

theorem silent_readPiece
    (v : Word) (device : Nat) (memory disk : BitVec 32) (cur left : Nat)
    (place : Place) :
    Silent Anything q
      (readPiece v device memory disk cur left place :
        Command Rk05 β (Bool × Place)) := by
  refine .view_bind_any fun buffer => ?_
  refine .bind (silent_callDrive _ _ _) fun result => ?_
  refine .bind (silent_modify _) fun _ => ?_
  refine .ite (fun _ => ?_) fun _ => ?_
  · exact .bind (silent_modify _) fun _ => silent_pure _
  · refine .bind (silent_storeBytes _ _ _ _) fun _ => ?_
    exact .bind (silent_modify _) fun _ => silent_pure _

omit [DiskBackend β] in
theorem silent_transfer
    {piece : Nat → (memory disk : BitVec 32) → (cur left : Nat) → Place →
      Command Rk05 β (Bool × Place)}
    (hpiece : ∀ device memory disk cur left place,
      Silent Anything q (piece device memory disk cur left place))
    (device : Nat) (da : Word) (reclen : Nat) (memoff : BitVec 32) :
    Silent Anything q (transfer piece device da reclen memoff) := by
  refine .view_bind_any fun present => .ite (fun _ => silent_modify _) ?_
  intro _
  exact .bind (silent_transferLoop (hpiece device) _ _ _ _ _ _) fun _ =>
    silent_modify _

theorem silent_execute
    (v : Word) (device : Nat) (da : Word) (reclen : Nat)
    (memoff : BitVec 32) :
    Silent Anything q
      (execute v device da reclen memoff : Command Rk05 β Unit) := by
  unfold execute
  split
  · exact silent_modify _
  · exact silent_transfer (silent_writePiece v) _ _ _ _
  · exact silent_transfer (silent_readPiece v) _ _ _ _
  · exact silent_modify _
  · exact silent_pure ()

theorem writeWord_asks
    (a v : Word) (s : Bench Rk05 β) :
    After
      (fun _ t => t.requests =
        (InterruptingController.asks a v s).toList ++ s.requests)
      (fun _ _ => True)
      (writeWord a v s : EStateM.Result _ (Bench Rk05 β) Unit) := by
  have hfinish : ∀ device : Nat, Triple (Asked Anything s.requests)
      (finish v device : Command Rk05 β Unit)
      (fun _ t => t.requests =
        (if v &&& 64 ≠ 0 then [.queue 5 0o220] else []) ++ s.requests)
      (fun _ _ => True) := by
    intro device
    refine .bind (silent_modify _) fun _ => .ite (fun hie => ?_) fun hie => ?_
    · rw [if_pos hie]
      refine .bind (silent_modify _) fun _ => ?_
      exact (asks 5 0o220).weaken_post fun _ _ ht => ht.2
    · rw [if_neg hie]
      exact .pure fun _ ht => ht.2
  have hwrite : Triple (Asked Anything s.requests)
      (writeWord a v : Command Rk05 β Unit)
      (fun _ t => t.requests =
        (if a = RK05_CS ∧ v &&& 1 ≠ 0 ∧ v &&& 64 ≠ 0 then
          [InterruptRequest.queue 5 0o220] else []) ++ s.requests)
      (fun _ _ => True) := by
    refine .bind (silent_modify _) fun _ => .ite (fun hgo => ?_) fun hgo => ?_
    · refine .view_bind_any fun reclen => .view_bind_any fun da => ?_
      refine .view_bind_any fun device => .view_bind_any fun memoff => ?_
      refine .bind (silent_modify _) fun _ => ?_
      refine .bind (silent_execute v device da reclen memoff) fun _ => ?_
      refine (hfinish device).weaken_post fun _ t ht => ?_
      simp only [hgo, true_and, ne_eq, not_false_eq_true] at ht ⊢
      exact ht
    · rw [if_neg fun h => hgo ⟨h.1, h.2.1⟩]
      exact .pure fun _ ht => ht.2
  refine (hwrite s ⟨trivial, rfl⟩).imp fun _ t ht => ?_
  rw [ht]
  simp only [InterruptingController.asks]
  split
  · rfl
  · rfl

instance : LawfulInterruptingController Rk05 where
  perform g s := by
    cases g with
    | readByte a =>
        rfl
    | readWord a =>
        rfl
    | writeByte a v =>
        exact writeWord_asks a _ s
    | writeWord a v =>
        exact writeWord_asks a v s

end Rk05

namespace Rl02

variable {β : Type} {q : List InterruptRequest}

instance : InterruptingController Rl02 where
  asks a v s :=
    if a = RL02_CSR ∧ v &&& 64 ≠ 0 ∧
        (s.fhs.length ≤ selected v ∨ 3 ≤ ((v >>> 1) &&& 7).toNat) then
      some (.queue 5 0o160)
    else
      none

/-- The interrupt enable bit of RLCS is that of the word. -/
def Enables (v : Word) (c : Rl02) : Prop :=
  c.get RL02_CSR &&& 64 = v &&& 64

variable {v : Word}

theorem silent_modify
    {f : Rl02 → Rl02} (hf : ∀ c, (f c).get RL02_CSR = c.get RL02_CSR) :
    Silent (Enables v) q (modifyController f : Command Rl02 β Unit) :=
  silent_modifyController fun c h => by
    unfold Enables
    rw [hf c]
    exact h

theorem silent_driveLoaded
    (device : Nat) :
    Silent (Enables v) q (driveLoaded device : Command Rl02 β Bool) := by
  refine .view_bind_any fun drive => ?_
  cases drive with
  | none =>
      exact .raise fun _ _ => trivial
  | some drive =>
      exact silent_pure _

variable [DiskBackend β]

theorem silent_writePiece
    (device : Nat) (memory disk : BitVec 32) (cur left : Nat) (place : Unit) :
    Silent (Enables v) q
      (writePiece device memory disk cur left place :
        Command Rl02 β (Bool × Unit)) := by
  refine .view_bind_any fun buffer => ?_
  refine .bind (silent_loadBytes _ _ _ _) fun buffer => ?_
  refine .bind (silent_modify fun c => rfl) fun _ => ?_
  refine .bind (Q := fun _ => Asked (Enables v) q) ?_ fun ok => ?_
  · refine .bind (silent_driveLoaded _) fun loaded => ?_
    exact .ite (fun _ => silent_pure _) fun _ => silent_callDrive _ _ _
  · refine .ite (fun _ => silent_pure _) fun _ => ?_
    exact .bind (silent_modify fun c => get_advance _) fun _ => silent_pure _

theorem silent_readPiece
    (device : Nat) (memory disk : BitVec 32) (cur left : Nat) (place : Unit) :
    Silent (Enables v) q
      (readPiece device memory disk cur left place :
        Command Rl02 β (Bool × Unit)) := by
  refine .view_bind_any fun buffer => ?_
  refine .bind (Q := fun _ => Asked (Enables v) q) ?_ fun result => ?_
  · refine .bind (silent_driveLoaded _) fun loaded => ?_
    exact .ite (fun _ => silent_pure _) fun _ => silent_callDrive _ _ _
  · refine .bind (silent_modify fun c => rfl) fun _ => ?_
    refine .ite (fun _ => silent_pure _) fun _ => ?_
    refine .bind (silent_storeBytes _ _ _ _) fun _ => ?_
    exact .bind (silent_modify fun c => get_advance _) fun _ => silent_pure _

omit [DiskBackend β] in
theorem silent_transfer
    {piece : (memory disk : BitVec 32) → (cur left : Nat) → Unit →
      Command Rl02 β (Bool × Unit)}
    (hpiece : ∀ memory disk cur left place,
      Silent (Enables v) q (piece memory disk cur left place)) :
    Silent (Enables v) q (transfer piece) := by
  refine .view_bind_any fun memoryAddress => .view_bind_any fun count => ?_
  refine .bind (silent_modify fun c => rfl) fun _ => ?_
  exact .view_bind_any fun diskOffset => silent_transferLoop hpiece _ _ _ _ _ _

/-- A command leaves the enable bit, and its result says whether it ends with
an interrupt. -/
theorem execute_asks
    (device command : Nat) (hcommand : command ≤ 7) {s : Bench Rl02 β}
    (hs : Asked (Enables v) q s) :
    After
      (fun doInt t => Asked (Enables v) q t ∧
        doInt = decide (s.fhs.length ≤ device ∨ 3 ≤ command))
      (fun _ _ => True) (execute device command s) := by
  have hdone : ∀ (doInt : Bool) {m : Command Rl02 β Unit},
      Silent (Enables v) q m →
      Triple (Asked (Enables v) q) (do
        m
        pure doInt)
        (fun result t => Asked (Enables v) q t ∧ result = doInt)
        (fun _ _ => True) :=
    fun doInt m hm => .bind hm fun _ => .pure fun _ ht => ⟨ht, rfl⟩
  unfold execute driveExists
  rw [view_bind_apply]
  by_cases hexists : device < s.fhs.length
  · have hmissing : ¬ s.fhs.length ≤ device := Nat.not_le.mpr hexists
    rw [decide_eq_true hexists]
    simp only [hmissing, false_or, Bool.not_true, Bool.false_eq_true, if_false]
    rcases command with _ | _ | _ | _ | _ | _ | _ | _ | command
    · exact ⟨hs, rfl⟩
    · exact ⟨hs, rfl⟩
    · exact hdone false (silent_modify fun c => rfl) s hs
    · exact hdone true (silent_modify fun c => rfl) s hs
    · exact hdone true (silent_modify fun c => rfl) s hs
    · exact hdone true (silent_transfer (silent_writePiece _)) s hs
    · exact hdone true (silent_transfer (silent_readPiece _)) s hs
    · exact hdone true (silent_transfer (silent_readPiece _)) s hs
    · omega
  · rw [decide_eq_false hexists, decide_eq_true (Or.inl (Nat.not_lt.mp hexists))]
    refine hdone true (silent_modifyController fun c h => ?_) s hs
    unfold Enables modify at *
    rw [get_set_self, BitVec.and_or_distrib_right, h]
    exact BitVec.or_zero

theorem writeWord_asks
    (a v : Word) (s : Bench Rl02 β) :
    After
      (fun _ t => t.requests =
        (InterruptingController.asks a v s).toList ++ s.requests)
      (fun _ _ => True)
      (writeWord a v s : EStateM.Result _ (Bench Rl02 β) Unit) := by
  simp only [InterruptingController.asks]
  unfold writeWord modifyController
  rw [update_bind_apply]
  by_cases ha : a = RL02_CSR
  · subst ha
    have hcommand : ((v >>> 1) &&& 7).toNat ≤ 7 := by
      rw [BitVec.toNat_and]
      exact Nat.and_le_right
    have hexecute := execute_asks (v := v) (q := s.requests) (selected v) _
      hcommand (s := { s with controller := s.controller.set RL02_CSR v })
      ⟨congrArg (· &&& 64) (get_set_self _ _ _), rfl⟩
    rw [if_pos rfl]
    refine after_bind hexecute fun doInt t ⟨ht, hdo⟩ => ?_
    have henabled : (t.controller.get RL02_CSR &&& 64 ≠ 0) ↔ v &&& 64 ≠ 0 := by
      rw [show t.controller.get RL02_CSR &&& 64 = v &&& 64 from ht.1]
    subst hdo
    unfold controllerView
    rw [view_bind_apply, ite_apply_state]
    simp only [henabled, true_and, Bool.and_eq_true, decide_eq_true_eq]
    by_cases h : (s.fhs.length ≤ selected v ∨ 3 ≤ ((v >>> 1) &&& 7).toNat) ∧
        v &&& 64 ≠ 0
    · rw [if_pos h, if_pos h.symm]
      exact congrArg (List.cons _) ht.2
    · rw [if_neg h, if_neg fun h' => h h'.symm]
      exact ht.2
  · rw [if_neg ha, if_neg fun h => ha h.1]
    rfl

instance : LawfulInterruptingController Rl02 where
  perform g s := by
    cases g with
    | readByte a =>
        rfl
    | readWord a =>
        rfl
    | writeByte a v =>
        exact writeWord_asks a _ s
    | writeWord a v =>
        exact writeWord_asks a v s

end Rl02

namespace Rp06

variable {β : Type} {q : List InterruptRequest}

/-- The functions that end with an interrupt. -/
def interrupting : List Nat :=
  [0o6, 0o12, 0o16, 0o20, 0o22, 0o30, 0o60, 0o70]

instance : InterruptingController Rp06 where
  asks a v _ :=
    if a = RP06_CS1 ∧ v &&& 1 ≠ 0 ∧ v &&& cs1Ie ≠ 0 ∧
        (v &&& 62).toNat ∈ interrupting then
      some (.queue 5 0o254)
    else
      none

/-- The interrupt enable bit of RPCS1 is that of the word. -/
def Enables (v : Word) (c : Rp06) : Prop :=
  c.get RP06_CS1 &&& cs1Ie = v &&& cs1Ie

variable {v : Word}

theorem or_rdy_enables
    {c : Rp06} (h : Enables v c) :
    Enables v (c.modify RP06_CS1 (· ||| cs1Rdy)) := by
  unfold Enables modify at *
  rw [get_set_self, BitVec.and_or_distrib_right, h]
  exact BitVec.or_zero

theorem set_enables
    {c : Rp06} {a : Word} (ha : regNum RP06_CS1 ≠ regNum a) (x : Word)
    (h : Enables v c) :
    Enables v (c.set a x) := by
  unfold Enables
  rw [get_set_of_ne c ha]
  exact h

/-- Starting the function leaves the enable bit. -/
theorem commanded_enables
    (c : Rp06) :
    Enables v (commanded v c) := by
  unfold Enables
  rw [commanded_cs1, BitVec.and_assoc]
  congr 1
  ext i hi
  simp only [cs1Go, cs1Tre, cs1Ie]
  interval_cases i <;> simp

variable [DiskBackend β]

theorem silent_piece
    {k : Rp06 → Prop} (reads : Bool) (memory disk : BitVec 32) (cur : Nat)
    (buffer : Buffer) :
    Silent k q
      (piece reads memory disk cur buffer :
        Command Rp06 β (Bool × Buffer)) := by
  refine .ite (fun _ => ?_) fun _ => ?_
  · refine .bind (silent_callDrive _ _ _) fun result => ?_
    refine .ite (fun _ => silent_pure _) fun _ => ?_
    exact .bind (silent_storeBytes _ _ _ _) fun _ => silent_pure _
  · refine .bind (silent_loadBytes _ _ _ _) fun buffer => ?_
    exact .bind (silent_callDrive _ _ _) fun ok => silent_pure _

theorem silent_transferLoop
    {k : Rp06 → Prop} (reads : Bool) (endOffset : BitVec 32) (passes : Nat)
    (memory curOffset : BitVec 32) (buffer : Buffer) :
    Silent k q
      (transferLoop reads endOffset passes memory curOffset buffer :
        Command Rp06 β Unit) := by
  induction passes generalizing memory curOffset buffer with
  | zero =>
      exact .raise fun _ _ => trivial
  | succ passes ih =>
      refine .ite (fun _ => ?_) fun _ => silent_pure ()
      refine .bind (silent_piece _ _ _ _ _) fun result => ?_
      exact .ite (fun _ => ih _ _ _) fun _ => silent_pure ()

theorem silent_transfer
    (reads : Bool) :
    Silent (Enables v) q (transfer reads : Command Rp06 β Unit) := by
  refine .view_bind_any fun offs => .view_bind_any fun addr => ?_
  refine .view_bind_any fun nw => ?_
  refine .bind (silent_transferLoop _ _ _ _ _ _) fun _ => ?_
  exact silent_modifyController fun c h =>
    or_rdy_enables (set_enables (by decide) 0 h)

/-- A function leaves the enable bit, and its result says whether it ends with
an interrupt. -/
theorem execute_asks
    (functionCode : Nat) :
    Triple (Asked (Enables v) q) (execute functionCode : Command Rp06 β Bool)
      (fun generates t => Asked (Enables v) q t ∧
        generates = decide (functionCode ∈ interrupting))
      (fun _ _ => True) := by
  have hdone : ∀ (generates : Bool) {m : Command Rp06 β Unit},
      Silent (Enables v) q m →
      Triple (Asked (Enables v) q) (do
        m
        pure generates)
        (fun result t => Asked (Enables v) q t ∧ result = generates)
        (fun _ _ => True) :=
    fun generates m hm => .bind hm fun _ => .pure fun _ ht => ⟨ht, rfl⟩
  have hrdy : Silent (Enables v) q
      (modifyController fun c => c.modify RP06_CS1 (· ||| cs1Rdy) :
        Command Rp06 β Unit) :=
    silent_modifyController fun _ => or_rdy_enables
  unfold execute
  split
  · exact hdone true hrdy
  · exact hdone true hrdy
  · exact hdone true hrdy
  · exact hdone true hrdy
  · exact hdone true hrdy
  · exact hdone true (silent_modifyController fun c h =>
      set_enables (by decide) _ (or_rdy_enables h))
  · exact hdone true (silent_transfer false)
  · exact hdone true (silent_transfer true)
  · have hnot : functionCode ∉ interrupting := by
      unfold interrupting
      simp_all
    rw [decide_eq_false hnot]
    exact .pure fun _ ht => ⟨ht, rfl⟩

theorem writeWord_asks
    (a v : Word) (s : Bench Rp06 β) :
    After
      (fun _ t => t.requests =
        (InterruptingController.asks a v s).toList ++ s.requests)
      (fun _ _ => True)
      (writeWord a v s : EStateM.Result _ (Bench Rp06 β) Unit) := by
  simp only [InterruptingController.asks]
  unfold writeWord
  unfold modifyController
  rw [update_bind_apply]
  by_cases ha : a = RP06_CS1
  · subst ha
    rw [if_pos rfl, update_bind_apply]
    by_cases hgo : v &&& 1 ≠ 0
    · rw [if_pos hgo]
      have hfinish : Triple (Asked (Enables v) s.requests) (do
          let generates ← execute (v &&& 62).toNat
          let enabled ← controllerView fun c =>
            decide (c.get RP06_CS1 &&& cs1Ie ≠ 0)
          if generates && enabled then
            queueInterrupt 5 0o254
          else
            pure () : Command Rp06 β Unit)
          (fun _ t => t.requests =
            (if v &&& cs1Ie ≠ 0 ∧ (v &&& 62).toNat ∈ interrupting then
              [InterruptRequest.queue 5 0o254] else []) ++ s.requests)
          (fun _ _ => True) := by
        refine .bind (execute_asks _) fun generates t ⟨ht, hgenerates⟩ => ?_
        subst hgenerates
        have henabled : (t.controller.get RP06_CS1 &&& cs1Ie ≠ 0) ↔
            v &&& cs1Ie ≠ 0 := by
          rw [show t.controller.get RP06_CS1 &&& cs1Ie = v &&& cs1Ie from ht.1]
        unfold controllerView
        rw [view_bind_apply, ite_apply_state]
        simp only [henabled, Bool.and_eq_true, decide_eq_true_eq]
        by_cases h : (v &&& 62).toNat ∈ interrupting ∧ v &&& cs1Ie ≠ 0
        · rw [if_pos h, if_pos h.symm]
          exact congrArg (List.cons _) ht.2
        · rw [if_neg h, if_neg fun h' => h h'.symm]
          exact ht.2
      refine (hfinish { s with controller := commanded v s.controller }
        ⟨commanded_enables _, rfl⟩).imp fun _ t ht => ?_
      rw [ht]
      simp only [hgo, true_and, ne_eq, not_false_eq_true]
      split
      · rfl
      · rfl
    · rw [if_neg hgo, if_neg fun h => hgo h.2.1]
      rfl
  · rw [if_neg ha, if_neg fun h => ha h.1]
    rfl

instance : LawfulInterruptingController Rp06 where
  perform g s := by
    cases g with
    | readByte a =>
        rfl
    | readWord a =>
        rfl
    | writeByte a v =>
        exact writeWord_asks _ _ s
    | writeWord a v =>
        exact writeWord_asks a v s

end Rp06

/-- For every sequence of register accesses that the controllers get through,
the interrupts are those of the commands that were started with the enable bit
and are of the kind that ends with an interrupt, in their order. -/
theorem disk_interrupts_are_the_enabled_ones
    {β : Type} [DiskBackend β] (gs : List GuestAccess) :
    (∀ s : Bench Rk05 β,
      After (fun _ t => t.requests = interruptsOf gs s ++ s.requests)
        (fun _ _ => True) (performAll gs s)) ∧
    (∀ s : Bench Rl02 β,
      After (fun _ t => t.requests = interruptsOf gs s ++ s.requests)
        (fun _ _ => True) (performAll gs s)) ∧
    (∀ s : Bench Rp06 β,
      After (fun _ t => t.requests = interruptsOf gs s ++ s.requests)
        (fun _ _ => True) (performAll gs s)) :=
  ⟨performAll_asks gs, performAll_asks gs, performAll_asks gs⟩

/-- A read with the enable bit from a drive that is not there. -/
example :
    interruptsOf [.writeWord Rl02.RL02_CSR 0o1514] numberedRl02 =
      [.queue 5 0o160] := by
  rfl

end KekPdp11
