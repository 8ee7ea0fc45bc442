import KekPdp11.WordCount

/-!
# KEK PDP-11: what a guest sees of a failed transfer

After a command the guest reads the status and error registers, in some order.
A failure is reported when, whatever the order, one of the reads shows an
error bit that it would not show had the drive been healthy.

The RK05 sets its error bits and clears them again before they are read; the
RP06 has no error bits to set; the RL02 has them for a drive that does not
exist, and for no other failure.
-/

namespace KekPdp11

open StateExcept Slices

/-- A drive on which every access succeeds. -/
inductive Healthy where
  | drive

instance : DiskBackend Healthy where
  read _ _ target _ := fun b => .ok (true, target) b
  write _ _ _ _ := fun b => .ok true b

section Reports

variable {ρ β : Type}

/-- The same controller and memory with healthy drives in every place. -/
def Bench.repaired (s : Bench ρ β) : Bench ρ Healthy where
  controller := s.controller
  fhs := List.replicate 8 (some .drive)
  ram := s.ram
  requests := s.requests
  trace := s.trace

/-- The error bits that reading the registers shows, read by read. -/
def observe (readWord : Word → ρ → Word × ρ) (errorBits : Word → Word) :
    List Word → ρ → List Word
  | [], _ => []
  | a :: as, c =>
      ((readWord a c).1 &&& errorBits a) ::
        observe readWord errorBits as (readWord a c).2

/-- Reading the registers shows an error bit in the one and not in the other
state. -/
def ShowsMore (seen seen' : List Word) : Prop :=
  ∃ (k : Nat) (x x' : Word),
    seen[k]? = some x ∧ seen'[k]? = some x' ∧ x &&& ~~~x' ≠ 0

/-- The command completes, and all orders of reading the registers show an
error that would not be there had the drive been healthy. -/
def Reports (readWord : Word → ρ → Word × ρ) (errorBits : Word → Word)
    (registers : List Word)
    (r : EStateM.Result DiskStop (Bench ρ β) Unit)
    (healthy : EStateM.Result DiskStop (Bench ρ Healthy) Unit) : Prop :=
  ∃ t t', r = .ok () t ∧ healthy = .ok () t' ∧
    ∀ as, (∀ a ∈ registers, a ∈ as) →
      ShowsMore (observe readWord errorBits as t.controller)
        (observe readWord errorBits as t'.controller)

/-- A transfer fails when the drive is not there or not loaded, or when one of
the calls of it does not return true. -/
def TransferFails (device : Nat) (s : Bench ρ β)
    (r : EStateM.Result DiskStop (Bench ρ β) Unit) : Prop :=
  (s.drive device).isSome = false ∨ ¬ AccessesSucceed (final r).trace

theorem ShowsMore.irrefl
    {seen : List Word} :
    ¬ ShowsMore seen seen := by
  rintro ⟨k, x, x', hx, hx', hmore⟩
  rw [hx] at hx'
  injection hx' with hx'
  subst hx'
  simp at hmore

theorem storeBytes_controller
    {P : ρ → Prop} {E : DiskStop → Bench ρ β → Prop}
    (a : PhysAddr) (buffer : Buffer) (n i : Nat) :
    Upholds (fun s => P s.controller) E
      (storeBytes a buffer n i : Command ρ β Unit) := by
  intro s hs
  obtain ⟨t, ht, hmoved⟩ := storeBytes_moved a buffer n i s
  rw [ht]
  rw [← hmoved.controller] at hs
  exact hs

theorem loadBytes_controller
    {P : ρ → Prop} {E : DiskStop → Bench ρ β → Prop}
    (a : PhysAddr) (n i : Nat) (buffer : Buffer) :
    Upholds (fun s => P s.controller) E
      (loadBytes a n i buffer : Command ρ β Buffer) := by
  intro s hs
  obtain ⟨buffer', t, ht, -, hmoved⟩ := loadBytes_moved a n i buffer s
  rw [ht]
  rw [← hmoved.controller] at hs
  exact hs

/-- A call of a drive leaves the controller. -/
theorem callDrive_controller
    {α : Type} {device : Nat} {P : ρ → Prop}
    (call : DiskCall β α) (log : Option α → List DiskEvent) :
    Upholds (fun s => P s.controller) (fun _ _ => True)
      (callDrive device call log : Command ρ β α) := by
  intro s hs
  unfold callDrive
  split
  · trivial
  · trivial
  · split
    · exact hs
    · trivial

/-- A call of a healthy drive returns. -/
theorem callDrive_healthy
    {α : Type} {device : Nat} {a : α}
    (call : DiskCall Healthy α) (log : Option α → List DiskEvent)
    (hcall : ∀ b, call b = .ok a b) {s : Bench ρ Healthy}
    (h : (s.drive device).isSome = true) :
    ∃ t, callDrive device call log s = .ok a t ∧
      t.controller = s.controller ∧ (t.drive device).isSome = true := by
  obtain ⟨b, hdrive⟩ := Bench.getElem?_of_drive h
  have hlt := (List.getElem?_eq_some_iff.mp hdrive).1
  unfold callDrive
  rw [hdrive]
  simp only [hcall]
  refine ⟨_, rfl, rfl, ?_⟩
  rw [Bench.drive, List.getElem?_set_self hlt]
  rfl

end Reports

namespace Rk05

/-- The error bits of the RK05: those of RKER, and bits 15 and 14 of RKCS. -/
def errorBits (a : Word) : Word :=
  if a = RK05_ERROR then 0xffff else if a = RK05_CS then 0xc000 else 0

theorem get_set_self
    (c : Rk05) (a v : Word) :
    (c.set a v).get a = v :=
  Function.update_self _ _ _

/-- No read shows an error bit. -/
theorem readWord_errorBits
    (a : Word) (c : Rk05) :
    (readWord a c).1 &&& errorBits a = 0 := by
  have hne : RK05_ERROR ≠ RK05_DS := by decide
  have hne' : RK05_CS ≠ RK05_DS := by decide
  have hne'' : RK05_CS ≠ RK05_ERROR := by decide
  by_cases herror : a = RK05_ERROR
  · subst herror
    unfold readWord
    dsimp only
    rw [if_neg hne, if_pos rfl, get_set_self]
    exact BitVec.zero_and
  · by_cases hcs : a = RK05_CS
    · subst hcs
      unfold readWord errorBits
      dsimp only
      rw [if_neg hne', if_neg hne'', if_pos rfl, modify, get_set_self,
        if_neg hne'', if_pos rfl]
      generalize c.get RK05_CS = v
      -- RKCS is read with bits 15 and 14 cleared
      ext i hi
      simp only [setBit, if_true, Bool.false_eq_true, if_false]
      interval_cases i <;> simp
    · have hnone : errorBits a = 0 := by
        unfold errorBits
        rw [if_neg herror, if_neg hcs]
      rw [hnone]
      exact BitVec.and_zero

theorem observe_zero
    (as : List Word) (c : Rk05) :
    ∀ x ∈ observe readWord errorBits as c, x = 0 := by
  induction as generalizing c with
  | nil =>
      exact nofun
  | cons a as ih =>
      intro x hx
      rcases List.mem_cons.mp hx with rfl | hx
      · exact readWord_errorBits a c
      · exact ih _ x hx

theorem not_reports
    {β : Type} (registers : List Word)
    (r : EStateM.Result DiskStop (Bench Rk05 β) Unit)
    (healthy : EStateM.Result DiskStop (Bench Rk05 Healthy) Unit) :
    ¬ Reports readWord errorBits registers r healthy := by
  rintro ⟨t, t', -, -, h⟩
  obtain ⟨k, x, x', hx, -, hmore⟩ := h registers fun a ha => ha
  have hzero := observe_zero registers t.controller x (List.mem_of_getElem? hx)
  rw [hzero] at hmore
  exact hmore (by simp)

end Rk05

namespace Rl02

/-- The error bits of the RL02: bits 15 to 10 of RLCS. -/
def errorBits (a : Word) : Word :=
  if a = RL02_CSR then 0o176000 else 0

theorem get_set_self
    (c : Rl02) (a v : Word) :
    (c.set a v).get a = v :=
  Function.update_self _ _ _

/-- A read shows the error bits of RLCS and leaves them. -/
theorem readWord_csr
    (a : Word) (c : Rl02) :
    ((readWord a c).2.get RL02_CSR) &&& 0o176000 =
        c.get RL02_CSR &&& 0o176000 ∧
      (readWord a c).1 &&& errorBits a =
        if a = RL02_CSR then c.get RL02_CSR &&& 0o176000 else 0 := by
  have hne : RL02_CSR ≠ RL02_MPR := by decide
  have hready : ∀ v : Word, setBit (setBit v 0 true) 7 true &&& 0o176000 =
      v &&& 0o176000 := by
    intro v
    ext i hi
    simp only [setBit, if_true]
    interval_cases i <;> simp
  unfold readWord errorBits
  dsimp only
  by_cases hcsr : a = RL02_CSR
  · subst hcsr
    rw [if_pos rfl, if_neg hne, if_pos rfl, if_pos rfl, modify, get_set_self]
    exact ⟨hready _, hready _⟩
  · rw [if_neg hcsr, if_neg hcsr, if_neg hcsr]
    split
    · exact ⟨rfl, BitVec.and_zero⟩
    · exact ⟨rfl, BitVec.and_zero⟩

/-- What the reads show is what RLCS has. -/
theorem observe_congr
    (as : List Word) {c c' : Rl02}
    (h : c.get RL02_CSR &&& 0o176000 = c'.get RL02_CSR &&& 0o176000) :
    observe readWord errorBits as c = observe readWord errorBits as c' := by
  induction as generalizing c c' with
  | nil =>
      rfl
  | cons a as ih =>
      obtain ⟨hnext, hseen⟩ := readWord_csr a c
      obtain ⟨hnext', hseen'⟩ := readWord_csr a c'
      unfold observe
      rw [hseen, hseen', h, ih (hnext.trans (h.trans hnext'.symm))]

/-- A read of RLCS shows the error bits that it has, whatever came before. -/
theorem observe_getElem?
    (as : List Word) (k : Nat) {c : Rl02}
    (hk : as[k]? = some RL02_CSR) :
    (observe readWord errorBits as c)[k]? =
      some (c.get RL02_CSR &&& 0o176000) := by
  induction as generalizing k c with
  | nil =>
      cases hk
  | cons a as ih =>
      obtain ⟨hnext, hseen⟩ := readWord_csr a c
      cases k with
      | zero =>
          injection hk with ha
          subst ha
          exact congrArg some hseen
      | succ k =>
          rw [← hnext]
          exact ih k hk

section Runs

variable {β : Type} [DiskBackend β]

/-- An invariant of the transfers for a drive: it speaks of RLCS and of the
drives only, and the accesses to the drive keep it. -/
structure Steady (device : Nat) (I : Bench Rl02 β → Prop)
    (E : DiskStop → Bench Rl02 β → Prop) : Prop where
  frame : ∀ s t, I s → t.fhs = s.fhs →
    t.controller.get RL02_CSR = s.controller.get RL02_CSR → I t
  loaded : Upholds I E (driveLoaded device : Command Rl02 β Bool)
  read : ∀ offset n target,
    Upholds I E (readDrive device offset n target rl02BytesPerSector)
  write : ∀ offset n source,
    Upholds I E (writeDrive device offset n source rl02BytesPerSector)

section Sweep

variable {device : Nat} {I : Bench Rl02 β → Prop}
variable {E : DiskStop → Bench Rl02 β → Prop}

theorem Steady.modify
    (h : Steady device I E) {f : Rl02 → Rl02}
    (hf : ∀ c, (f c).get RL02_CSR = c.get RL02_CSR) :
    Upholds I E (modifyController f) :=
  .update fun s hs => h.frame s _ hs rfl (hf s.controller)

theorem Steady.storeBytes
    (h : Steady device I E) (a : PhysAddr) (buffer : Buffer) (n i : Nat) :
    Upholds I E (storeBytes a buffer n i) := by
  intro s hs
  obtain ⟨t, ht, hmoved⟩ := storeBytes_moved a buffer n i s
  rw [ht]
  exact h.frame s t hs hmoved.fhs (by rw [hmoved.controller])

theorem Steady.loadBytes
    (h : Steady device I E) (a : PhysAddr) (n i : Nat) (buffer : Buffer) :
    Upholds I E (loadBytes a n i buffer) := by
  intro s hs
  obtain ⟨buffer', t, ht, -, hmoved⟩ := loadBytes_moved a n i buffer s
  rw [ht]
  exact h.frame s t hs hmoved.fhs (by rw [hmoved.controller])

theorem get_advance
    (c : Rl02) :
    c.advance.get RL02_CSR = c.get RL02_CSR := by
  unfold advance
  split
  · split
    · rfl
    · rfl
  · rfl

theorem Steady.writePiece
    (h : Steady device I E) (memory disk : BitVec 32) (cur left : Nat) :
    Upholds I E (writePiece device memory disk cur left ()) := by
  refine .view_bind_any fun buffer => ?_
  refine .bind (h.loadBytes _ _ _ _) fun buffer => ?_
  refine .bind (h.modify fun c => rfl) fun _ => ?_
  refine .bind (Q := fun _ => I) ?_ fun ok => ?_
  · refine .bind h.loaded fun loaded => ?_
    exact .ite (fun _ => .pure fun _ hs => hs) fun _ => h.write _ _ _
  · refine .ite (fun _ => .pure fun _ hs => hs) fun _ => ?_
    exact .bind (h.modify fun c => get_advance _) fun _ => .pure fun _ hs => hs

theorem Steady.readPiece
    (h : Steady device I E) (memory disk : BitVec 32) (cur left : Nat) :
    Upholds I E (readPiece device memory disk cur left ()) := by
  refine .view_bind_any fun buffer => ?_
  refine .bind (Q := fun _ => I) ?_ fun result => ?_
  · refine .bind h.loaded fun loaded => ?_
    exact .ite (fun _ => .pure fun _ hs => hs) fun _ => h.read _ _ _
  · obtain ⟨ok, buffer⟩ := result
    refine .bind (h.modify fun c => rfl) fun _ => ?_
    refine .ite (fun _ => .pure fun _ hs => hs) fun _ => ?_
    refine .bind (h.storeBytes _ _ _ _) fun _ => ?_
    exact .bind (h.modify fun c => get_advance _) fun _ => .pure fun _ hs => hs

omit [DiskBackend β] in
theorem transferLoop_upholds
    {piece : (memory disk : BitVec 32) → (cur left : Nat) → Unit →
      Command Rl02 β (Bool × Unit)}
    (hpiece : ∀ memory disk cur left,
      Upholds I E (piece memory disk cur left ()))
    (size passes : Nat) (memory disk : BitVec 32) (left : Nat) :
    Upholds I E (transferLoop size piece passes memory disk left ()) := by
  induction passes generalizing memory disk left with
  | zero =>
      exact .pure fun _ hs => hs
  | succ passes ih =>
      refine .ite (fun _ => .pure fun _ hs => hs) fun _ => ?_
      refine .bind (hpiece _ _ _ _) fun result => ?_
      exact .ite (fun _ => ih _ _ _) fun _ => .pure fun _ hs => hs

theorem Steady.transfer
    (h : Steady device I E)
    {piece : (memory disk : BitVec 32) → (cur left : Nat) → Unit →
      Command Rl02 β (Bool × Unit)}
    (hpiece : ∀ memory disk cur left,
      Upholds I E (piece memory disk cur left ())) :
    Upholds I E (transfer piece) := by
  refine .view_bind_any fun memoryAddress => ?_
  refine .view_bind_any fun count => ?_
  refine .bind (h.modify fun c => rfl) fun _ => ?_
  refine .view_bind_any fun diskOffset => ?_
  exact transferLoop_upholds hpiece _ _ _ _ _

/-- A transfer for a drive that exists keeps the invariant. -/
theorem Steady.writeWord
    {v : Word} {reads : Bool} (hv : Transfers v reads)
    (h : Steady (selected v) I E) {s : Bench Rl02 β}
    (hexists : selected v < s.fhs.length)
    (hs : I { s with controller := s.controller.set RL02_CSR v }) :
    After (fun _ => I) E (writeWord RL02_CSR v s) := by
  have hexecute : After (fun _ => I) E
      (execute (selected v) ((v >>> 1) &&& 7).toNat
        { s with controller := s.controller.set RL02_CSR v }) := by
    unfold execute driveExists
    rw [view_bind_apply, decide_eq_true hexists]
    cases reads with
    | false =>
        rw [show (v >>> 1) &&& 7 = 5 from hv]
        exact (Triple.bind (h.transfer h.writePiece) fun _ =>
          .pure fun _ ht => ht) _ hs
    | true =>
        have hread : Upholds I E (do
            Rl02.transfer (Rl02.readPiece (selected v))
            pure true : Command Rl02 β Bool) :=
          (h.transfer h.readPiece).bind fun _ => .pure fun _ ht => ht
        rcases hv with hv | hv
        · rw [hv]
          exact hread _ hs
        · rw [hv]
          exact hread _ hs
  unfold Rl02.writeWord modifyController
  rw [update_bind_apply, if_pos rfl]
  refine after_bind hexecute fun doInt t ht => ?_
  unfold controllerView
  rw [view_bind_apply, ite_apply_state]
  split
  · exact h.frame t _ ht rfl rfl
  · exact ht

end Sweep

/-- RLCS is what was written, whatever the drive does. -/
theorem steady_csr
    (device : Nat) (v : Word) :
    Steady device (fun s : Bench Rl02 β => s.controller.get RL02_CSR = v)
      (fun _ _ => True) where
  frame s t hs _ hcsr := hcsr.trans hs
  loaded := by
    refine .view_bind_any fun drive => ?_
    cases drive with
    | none =>
        exact .raise fun _ _ => trivial
    | some drive =>
        exact .pure fun _ hs => hs
  read _ _ _ := callDrive_controller (P := fun c : Rl02 => c.get RL02_CSR = v) _ _
  write _ _ _ := callDrive_controller (P := fun c : Rl02 => c.get RL02_CSR = v) _ _

end Runs

/-- A transfer with a healthy drive returns, and RLCS is what was written. -/
theorem steady_healthy
    (device : Nat) (v : Word) :
    Steady device
      (fun s : Bench Rl02 Healthy =>
        s.controller.get RL02_CSR = v ∧ Loaded device s)
      (fun _ _ => False) where
  frame s t hs hfhs hcsr := by
    refine ⟨hcsr.trans hs.1, ?_⟩
    unfold Loaded Bench.drive
    rw [hfhs]
    exact hs.2
  loaded := by
    intro s hs
    rw [driveLoaded_of_loaded hs.2]
    exact hs
  read offset n target := by
    rintro s ⟨hcsr, hloaded⟩
    obtain ⟨t, ht, hcsr', hloaded'⟩ := callDrive_healthy
      (DiskBackend.read offset n target rl02BytesPerSector)
      (readLog offset n rl02BytesPerSector) (fun b => rfl) hloaded
    unfold readDrive
    rw [ht]
    exact ⟨hcsr' ▸ hcsr, hloaded'⟩
  write offset n source := by
    rintro s ⟨hcsr, hloaded⟩
    obtain ⟨t, ht, hcsr', hloaded'⟩ := callDrive_healthy
      (DiskBackend.write offset n source rl02BytesPerSector)
      (writeLog offset n source rl02BytesPerSector) (fun b => rfl) hloaded
    unfold writeDrive
    rw [ht]
    exact ⟨hcsr' ▸ hcsr, hloaded'⟩

section Results

variable {β : Type} [DiskBackend β] {v : Word} {reads : Bool}

theorem selected_lt
    (v : Word) :
    selected v < 8 := by
  unfold selected
  rw [BitVec.toNat_and]
  exact Nat.lt_of_le_of_lt Nat.and_le_right (by decide)

/-- A transfer for a drive that does not exist returns with the two error
bits added. -/
theorem writeWord_missing
    {s : Bench Rl02 β} (hmissing : s.fhs.length ≤ selected v) :
    ∃ t, writeWord RL02_CSR v s = .ok () t ∧
      t.controller.get RL02_CSR = v ||| 0o102000 := by
  have hexists : decide (selected v < s.fhs.length) = false :=
    decide_eq_false (Nat.not_lt.mpr hmissing)
  have hcsr : ((s.controller.set RL02_CSR v).modify RL02_CSR
      (· ||| ((1#16 <<< 10) ||| (1#16 <<< 15)))).get RL02_CSR =
        v ||| 0o102000 := by
    unfold modify
    rw [get_set_self, get_set_self]
    rfl
  have hexecute : execute (selected v) ((v >>> 1) &&& 7).toNat
      { s with controller := s.controller.set RL02_CSR v } =
        .ok true
          { s with
            controller := (s.controller.set RL02_CSR v).modify RL02_CSR
              (· ||| ((1#16 <<< 10) ||| (1#16 <<< 15))) } := by
    unfold execute driveExists
    rw [view_bind_apply, hexists]
    rfl
  unfold selected at hexecute
  unfold writeWord modifyController
  rw [update_bind_apply, if_pos rfl]
  dsimp only
  rw [bind_of_ok hexecute]
  unfold controllerView
  rw [view_bind_apply, ite_apply_state]
  split
  · exact ⟨_, rfl, hcsr⟩
  · exact ⟨_, rfl, hcsr⟩

omit [DiskBackend β] in
/-- On healthy drives a transfer returns with the word that was written. -/
theorem writeWord_healthy
    (hv : Transfers v reads) (s : Bench Rl02 β) :
    ∃ t, writeWord RL02_CSR v s.repaired = .ok () t ∧
      t.controller.get RL02_CSR = v := by
  have hlt := selected_lt v
  have hloaded : (s.repaired.drive (selected v)).isSome = true := by
    unfold Bench.drive Bench.repaired
    dsimp only
    rw [List.getElem?_replicate_of_lt hlt]
    rfl
  have h := (steady_healthy (selected v) v).writeWord hv
    (Bench.lt_of_drive hloaded) ⟨get_set_self _ _ _, hloaded⟩
  cases hr : writeWord RL02_CSR v s.repaired with
  | ok a t =>
      rw [hr] at h
      exact ⟨t, rfl, h.1⟩
  | error e t =>
      rw [hr] at h
      exact h.elim

/-- A failed transfer of the RL02 is reported if and only if the drive does
not exist and the written word has not both bits already. -/
theorem reports_iff
    (hv : Transfers v reads) (s : Bench Rl02 β) :
    Reports readWord errorBits [RL02_CSR] (writeWord RL02_CSR v s)
        (writeWord RL02_CSR v s.repaired) ↔
      s.fhs.length ≤ selected v ∧ v &&& 0o102000 ≠ 0o102000 := by
  obtain ⟨t', ht', hcsr'⟩ := writeWord_healthy hv s
  constructor
  · rintro ⟨t, t'', ht, ht'', hseen⟩
    rw [ht'] at ht''
    injection ht'' with _ ht''
    subst ht''
    have hdiffer : t.controller.get RL02_CSR &&& 0o176000 ≠
        t'.controller.get RL02_CSR &&& 0o176000 := by
      intro heq
      have hmore := hseen [RL02_CSR] fun a ha => ha
      rw [observe_congr _ heq] at hmore
      exact ShowsMore.irrefl hmore
    by_cases hexists : selected v < s.fhs.length
    · have h := (steady_csr (selected v) v).writeWord hv hexists
        (get_set_self s.controller RL02_CSR v)
      rw [ht] at h
      rw [hcsr', show t.controller.get RL02_CSR = v from h] at hdiffer
      exact absurd rfl hdiffer
    · refine ⟨Nat.le_of_not_lt hexists, fun hset => hdiffer ?_⟩
      obtain ⟨t₁, ht₁, hcsr⟩ := writeWord_missing (Nat.le_of_not_lt hexists)
      rw [ht] at ht₁
      injection ht₁ with _ ht₁
      rw [ht₁, hcsr, hcsr', ← hset]
      ext i hi
      simp only [BitVec.getElem_and, BitVec.getElem_or]
      cases v[i] <;> simp
  · rintro ⟨hmissing, hset⟩
    obtain ⟨t, ht, hcsr⟩ := writeWord_missing hmissing
    refine ⟨t, t', ht, ht', fun as has => ?_⟩
    obtain ⟨k, hread⟩ :=
      List.mem_iff_getElem?.mp (has RL02_CSR List.mem_cons_self)
    refine ⟨k, (v ||| 0o102000) &&& 0o176000, v &&& 0o176000, ?_, ?_, ?_⟩
    · rw [observe_getElem? as k hread, hcsr]
    · rw [observe_getElem? as k hread, hcsr']
    · intro hzero
      apply hset
      ext i hi
      have hbit := congrArg (fun x => x.getLsbD i) hzero
      interval_cases i <;> simp at hbit ⊢ <;> exact hbit

end Results

end Rl02

namespace Rp06

/-- The error bits of the RP06: bits 15 to 13 of RPCS1, bits 15 to 8 of RPCS2,
bit 14 of RPDS and all of RPER1. -/
def errorBits (a : Word) : Word :=
  if a = RP06_CS1 then 0o160000
  else if a = RP06_CS2 then 0o177400
  else if a = RP06_DS then 0o40000
  else if a = RP06_ERRREG1 then 0xffff
  else 0

section Runs

variable {β : Type} [DiskBackend β]

/-- The loop of a transfer leaves the controller, whatever the drive does. -/
theorem transferLoop_controller
    {P : Rp06 → Prop} (reads : Bool) (endOffset : BitVec 32) (passes : Nat)
    (memory curOffset : BitVec 32) (buffer : Buffer) :
    Upholds (fun s => P s.controller) (fun _ _ => True)
      (transferLoop reads endOffset passes memory curOffset buffer :
        Command Rp06 β Unit) := by
  induction passes generalizing memory curOffset buffer with
  | zero =>
      exact .raise fun _ _ => trivial
  | succ passes ih =>
      refine .ite (fun _ => ?_) fun _ => .pure fun _ hs => hs
      refine .bind (Q := fun _ s => P s.controller) ?_ fun result => ?_
      · refine .ite (fun _ => ?_) fun _ => ?_
        · refine .bind (callDrive_controller _ _) fun result => ?_
          refine .ite (fun _ => .pure fun _ hs => hs) fun _ => ?_
          exact .bind (storeBytes_controller _ _ _ _) fun _ =>
            .pure fun _ hs => hs
        · refine .bind (loadBytes_controller _ _ _ _) fun buffer => ?_
          exact .bind (callDrive_controller _ _) fun _ => .pure fun _ hs => hs
      · exact .ite (fun _ => ih _ _ _) fun _ => .pure fun _ hs => hs

/-- The controller after a transfer that returns. -/
def transferred (v : Word) (c : Rp06) : Rp06 :=
  ((commanded v c).set RP06_WC 0).modify RP06_CS1 (· ||| cs1Rdy)

/-- A transfer that returns leaves the same registers, whatever the drive
did. -/
theorem writeWord_transferred
    {v : Word} {reads : Bool} (hv : Transfers v reads) (s : Bench Rp06 β) :
    After (fun _ t => t.controller = transferred v s.controller)
      (fun _ _ => True) (writeWord RP06_CS1 v s) := by
  have htransfer : After
      (fun _ t => t.controller = transferred v s.controller) (fun _ _ => True)
      (transfer reads { s with controller := commanded v s.controller }) := by
    unfold transfer controllerView
    rw [view_bind_apply, view_bind_apply, view_bind_apply]
    refine after_bind (transferLoop_controller
      (P := fun c => c = commanded v s.controller) _ _ _ _ _ _ _ rfl)
      fun _ t ht => ?_
    exact congrArg (fun c : Rp06 =>
      (c.set RP06_WC 0).modify RP06_CS1 (· ||| cs1Rdy)) ht
  have hexecute : After
      (fun _ t => t.controller = transferred v s.controller) (fun _ _ => True)
      (execute (v &&& 62).toNat
        { s with controller := commanded v s.controller }) := by
    rw [hv.2]
    cases reads with
    | false =>
        exact after_bind htransfer fun _ _ ht => ht
    | true =>
        exact after_bind htransfer fun _ _ ht => ht
  unfold writeWord modifyController
  rw [update_bind_apply, if_pos rfl, update_bind_apply, if_pos hv.1]
  unfold go modifyController
  rw [update_bind_apply]
  refine after_bind hexecute fun doInt t ht => ?_
  unfold controllerView
  rw [view_bind_apply, ite_apply_state]
  split
  · exact ht
  · exact ht

/-- No failed transfer of the RP06 is reported, whatever the error bits. -/
theorem not_reports
    {v : Word} {reads : Bool} (hv : Transfers v reads) (s : Bench Rp06 β)
    (bits : Word → Word) (registers : List Word) :
    ¬ Reports readWord bits registers (writeWord RP06_CS1 v s)
      (writeWord RP06_CS1 v s.repaired) := by
  rintro ⟨t, t', ht, ht', h⟩
  have hrun := writeWord_transferred hv s
  have hrun' := writeWord_transferred hv s.repaired
  rw [ht] at hrun
  rw [ht'] at hrun'
  have hmore := h registers fun a ha => ha
  rw [show t.controller = t'.controller from hrun.trans hrun'.symm] at hmore
  exact ShowsMore.irrefl hmore

end Runs

end Rp06

section Visibility

variable {β : Type} [DiskBackend β]

/-- A transfer that fails is reported to the guest, in every order of reading
the registers, if and only if it is one of the RL02, for a drive that does not
exist, and the written word has not the two error bits already. -/
theorem failed_transfer_is_reported_iff
    (v : Word) (reads : Bool) :
    (∀ s : Bench Rk05 β, Rk05.Transfers v reads →
      TransferFails s.controller.selected s
        (Rk05.writeWord Rk05.RK05_CS v s) →
      ¬ Reports Rk05.readWord Rk05.errorBits
        [Rk05.RK05_DS, Rk05.RK05_ERROR, Rk05.RK05_CS]
        (Rk05.writeWord Rk05.RK05_CS v s)
        (Rk05.writeWord Rk05.RK05_CS v s.repaired)) ∧
    (∀ s : Bench Rl02 β, Rl02.Transfers v reads →
      TransferFails (Rl02.selected v) s (Rl02.writeWord Rl02.RL02_CSR v s) →
      (Reports Rl02.readWord Rl02.errorBits [Rl02.RL02_CSR]
          (Rl02.writeWord Rl02.RL02_CSR v s)
          (Rl02.writeWord Rl02.RL02_CSR v s.repaired) ↔
        s.fhs.length ≤ Rl02.selected v ∧ v &&& 0o102000 ≠ 0o102000)) ∧
    (∀ s : Bench Rp06 β, Rp06.Transfers v reads →
      TransferFails 0 s (Rp06.writeWord Rp06.RP06_CS1 v s) →
      ¬ Reports Rp06.readWord Rp06.errorBits
        [Rp06.RP06_CS1, Rp06.RP06_CS2, Rp06.RP06_DS, Rp06.RP06_ERRREG1]
        (Rp06.writeWord Rp06.RP06_CS1 v s)
        (Rp06.writeWord Rp06.RP06_CS1 v s.repaired)) := by
  refine ⟨fun s _ _ => ?_, fun s hv _ => ?_, fun s hv _ => ?_⟩
  · exact Rk05.not_reports _ _ _
  · exact Rl02.reports_iff hv s
  · exact Rp06.not_reports hv s _ _

/-- READ DATA for the fourth drive of an RL02 that has one. -/
theorem failed_transfer_is_reported_missing :
    Reports Rl02.readWord Rl02.errorBits [Rl02.RL02_CSR]
      (Rl02.writeWord Rl02.RL02_CSR 0o1414
        (oneDriveRl02 (-128) (threeSectors false)))
      (Rl02.writeWord Rl02.RL02_CSR 0o1414
        (oneDriveRl02 (-128) (threeSectors false)).repaired) :=
  ((failed_transfer_is_reported_iff 0o1414 true).2.1 _ (Or.inl rfl)
    (Or.inl rfl)).mpr (by decide)

/-- An RK05 without drives. -/
def noDriveRk05 : Bench Rk05 Backend :=
  { oneDriveRk05 (threeSectors false) with fhs := [] }

/-- It fails a READ, and no read of a register shows it. -/
theorem missing_rk05_drive_is_not_reported :
    Rk05.Transfers 0o5 true ∧
      TransferFails noDriveRk05.controller.selected noDriveRk05
        (Rk05.writeWord Rk05.RK05_CS 0o5 noDriveRk05) ∧
      ¬ Reports Rk05.readWord Rk05.errorBits
        [Rk05.RK05_DS, Rk05.RK05_ERROR, Rk05.RK05_CS]
        (Rk05.writeWord Rk05.RK05_CS 0o5 noDriveRk05)
        (Rk05.writeWord Rk05.RK05_CS 0o5 noDriveRk05.repaired) :=
  ⟨⟨by decide, by decide⟩, Or.inl rfl, Rk05.not_reports _ _ _⟩

end Visibility

end KekPdp11
