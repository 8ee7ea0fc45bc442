import KekPdp11.ArrayDrives
import KekPdp11.WordCount

/-!
# KEK PDP-11: transfers as copies between arrays

What a program on the machine does with the registers of a disk controller
comes down to copies: a write of the control register starts one or none, with
the places and the length that the registers hold, and every other access
starts none.  As long as the copies are of whole sectors of loaded drives, the
arrays are afterwards what the copies make of them.

The loops of the transfers are followed sector by sector; two adjoining copies
are one.
-/

namespace KekPdp11

open StateExcept Slices ArrayCopies

section Loop

variable {ρ β γ : Type} {holds : Nat → (Nat → Byte) → β → Prop}
variable {sectorSize : Nat} {size : Nat → Nat} {toMemory : Bool}
variable {device : Nat}
variable {ramSize : PhysAddr}

/-- A pass of the loop copies its sector. -/
structure CopiesSector (holds : Nat → (Nat → Byte) → β → Prop)
    (sectorSize : Nat) (size : Nat → Nat) (toMemory : Bool) (device : Nat)
    (ramSize : PhysAddr)
    (piece : (memory disk : BitVec 32) → (cur left : Nat) → γ →
      Command ρ β (Bool × γ)) : Prop where
  copies {p : Stores Byte} {memory disk : BitVec 32} (left : Nat) (place : γ)
    (hmemory : memory.toNat + sectorSize ≤ ramSize.toNat)
    (haligned : sectorSize ∣ disk.toNat)
    (hdisk : disk.toNat + sectorSize ≤ size device) :
    EndsWell (Ready holds device ramSize p)
      (piece memory disk sectorSize left place)
      fun r s => r.1 = true ∧ Ready holds device ramSize
        ((Copy.mk toMemory memory.toNat device disk.toNat sectorSize).apply p)
        s

theorem toNat_add_ofNat
    {a : BitVec 32} {n : Nat} (h : a.toNat + n < 2 ^ 32) :
    (a + BitVec.ofNat 32 n).toNat = a.toNat + n := by
  rw [BitVec.toNat_add, BitVec.toNat_ofNat]
  omega

/-- The loop of a transfer copies its sectors. -/
theorem transferLoop_copies
    {piece : (memory disk : BitVec 32) → (cur left : Nat) → γ →
      Command ρ β (Bool × γ)}
    (hpiece : CopiesSector holds sectorSize size toMemory device ramSize piece)
    {p : Stores Byte} {memory disk : BitVec 32} {sectors passes : Nat}
    (place : γ) (hpasses : sectors ≤ passes)
    (hmemory : memory.toNat + sectors * sectorSize ≤ ramSize.toNat)
    (haligned : sectorSize ∣ disk.toNat)
    (hdisk : disk.toNat + sectors * sectorSize ≤ size device)
    (hfits : disk.toNat + sectors * sectorSize < 2 ^ 32) :
    EndsWell (Ready holds device ramSize p)
      (transferLoop sectorSize piece passes memory disk
        (sectors * sectorSize) place)
      fun _ => Ready holds device ramSize
        ((Copy.mk toMemory memory.toNat device disk.toNat
          (sectors * sectorSize)).apply p) := by
  induction passes generalizing p memory disk sectors place with
  | zero =>
      obtain rfl : sectors = 0 := by omega
      refine .pure fun s hs => ?_
      rw [Copy.apply_of_length_zero (Nat.zero_mul _)]
      exact hs
  | succ passes ih =>
      have hbound := ramSize.isLt
      refine .ite (fun hzero => ?_) fun hmore => ?_
      · refine .pure fun s hs => ?_
        rw [Copy.apply_of_length_zero hzero]
        exact hs
      · obtain ⟨rest, rfl⟩ : ∃ rest, sectors = rest + 1 := by
          cases sectors with
          | zero =>
              exact absurd (Nat.zero_mul _) hmore
          | succ rest =>
              exact ⟨rest, rfl⟩
        rw [Nat.succ_mul] at hmemory hdisk hfits ⊢
        have hcur : min sectorSize (rest * sectorSize + sectorSize) =
            sectorSize := by
          omega
        have hnextMemory := toNat_add_ofNat
          (show memory.toNat + sectorSize < 2 ^ 32 by omega)
        have hnextDisk := toNat_add_ofNat
          (show disk.toNat + sectorSize < 2 ^ 32 by omega)
        rw [hcur]
        refine .bind (hpiece.copies _ place (by omega) haligned (by omega))
          fun result => ?_
        intro s hs
        obtain ⟨hgo, hready⟩ := hs
        obtain ⟨goOn, place⟩ := result
        dsimp only at hgo ⊢
        subst hgo
        rw [if_pos rfl, Nat.add_sub_cancel]
        have hrest := ih (p := (Copy.mk toMemory memory.toNat device
            disk.toNat sectorSize).apply p)
          place (show rest ≤ passes by omega)
          (show (memory + BitVec.ofNat 32 sectorSize).toNat +
            rest * sectorSize ≤ ramSize.toNat by omega)
          (show sectorSize ∣ (disk + BitVec.ofNat 32 sectorSize).toNat by
            rw [hnextDisk]
            exact Nat.dvd_add haligned (Nat.dvd_refl _))
          (by omega) (by omega)
        rw [hnextMemory, hnextDisk, Copy.apply_add,
          Nat.add_comm sectorSize] at hrest
        exact hrest s hready

end Loop

/-- What a write of a register starts, and which calls of write_word accesses
come to. -/
class CopyingController (ρ : Type) [DiskController ρ] where
  sectorSize : Nat
  written : GuestAccess → ρ → Option (Word × Word)
  started : Word → Word → ρ → Option Copy

section Runs

variable {ρ β : Type} [DiskController ρ] [CopyingController ρ]

/-- The copy that an access starts, if it starts one. -/
def GuestAccess.copy (g : GuestAccess) (c : ρ) : Option Copy :=
  (CopyingController.written g c).bind fun w =>
    CopyingController.started w.1 w.2 c

/-- Whole sectors of a loaded drive, and places that there are. -/
structure CopyFits (sectorSize : Nat) (size : Nat → Nat) (c : Copy)
    (s : Bench ρ β) : Prop where
  sectors : sectorSize ∣ c.length
  within : c.Within s.ram.size.toNat (size c.drive)
  representable : c.disk + c.length < 2 ^ 32
  loaded : Loaded c.drive s

/-- What an access starts fits. -/
def AccessFits (size : Nat → Nat) (g : GuestAccess) (s : Bench ρ β) : Prop :=
  ∀ c, g.copy s.controller = some c →
    CopyFits (CopyingController.sectorSize ρ) size c s

variable [DiskBackend β]

/-- The copies that a sequence of accesses starts. -/
def copiesOf : List GuestAccess → Bench ρ β → List Copy
  | [], _ => []
  | g :: gs, s =>
      (g.copy s.controller).toList ++
        match g.perform s with
        | .ok _ t => copiesOf gs t
        | .error _ _ => []

end Runs

/-- The accesses have the effect of what they start. -/
class LawfulCopyingController (ρ : Type) [DiskController ρ]
    [CopyingController ρ] : Prop where
  perform {β : Type} [DiskBackend β] {holds : Nat → (Nat → Byte) → β → Prop}
    {size : Nat → Nat} {p : Stores Byte} {ramSize : PhysAddr}
    (hserves : ServesSectors (CopyingController.sectorSize ρ) size holds)
    (g : GuestAccess) (s : Bench ρ β) (hshows : Shows holds p ramSize s)
    (hfits : AccessFits size g s) :
    After
      (fun _ => Shows holds (applyAll (g.copy s.controller).toList p) ramSize)
      (fun _ _ => False) (g.perform s)

section Runs

variable {ρ β : Type} [DiskController ρ] [CopyingController ρ]
variable [LawfulCopyingController ρ] [DiskBackend β]
variable {holds : Nat → (Nat → Byte) → β → Prop} {size : Nat → Nat}
variable {ramSize : PhysAddr}

/-- A sequence of accesses has the effect of the copies that it starts. -/
theorem performAll_copies
    (hserves : ServesSectors (CopyingController.sectorSize ρ) size holds)
    {gs : List GuestAccess} {s : Bench ρ β} {p : Stores Byte}
    (hshows : Shows holds p ramSize s)
    (hfits : AllFit (AccessFits size) gs s) :
    ∃ t, performAll gs s = .ok () t ∧
      Shows holds (applyAll (copiesOf gs s) p) ramSize t := by
  induction gs generalizing s p with
  | nil =>
      exact ⟨s, rfl, hshows⟩
  | cons g gs ih =>
      have hstep := LawfulCopyingController.perform hserves g s hshows hfits.1
      unfold copiesOf performAll
      rw [bind_apply, applyAll_append]
      cases hg : g.perform s with
      | ok a t =>
          rw [hg] at hstep
          exact ih hstep (hfits.2 t hg)
      | error e t =>
          rw [hg] at hstep
          exact hstep.elim

end Runs

section ReadBack

variable {ρ β : Type} [DiskController ρ] [CopyingController ρ]
variable [DiskBackend β]

theorem copiesOf_cons
    {g : GuestAccess} {gs : List GuestAccess} {s t : Bench ρ β}
    (hg : g.perform s = .ok () t) :
    copiesOf (g :: gs) s = (g.copy s.controller).toList ++ copiesOf gs t := by
  rw [copiesOf, hg]

/-- The copies of two sequences one after the other. -/
theorem copiesOf_append
    {gs gs' : List GuestAccess} {s t : Bench ρ β}
    (hrun : performAll gs s = .ok () t) :
    copiesOf (gs ++ gs') s = copiesOf gs s ++ copiesOf gs' t := by
  induction gs generalizing s with
  | nil =>
      cases hrun
      rfl
  | cons g gs ih =>
      obtain ⟨_, u, hg, hrest⟩ := bind_eq_ok hrun
      rw [List.cons_append, copiesOf_cons hg, copiesOf_cons hg, ih hrest,
        List.append_assoc]

theorem copiesOf_singleton
    (g : GuestAccess) (s : Bench ρ β) :
    copiesOf [g] s = (g.copy s.controller).toList := by
  unfold copiesOf
  cases g.perform s with
  | ok _ _ =>
      exact List.append_nil _
  | error _ _ =>
      exact List.append_nil _

variable [LawfulCopyingController ρ]
variable {holds : Nat → (Nat → Byte) → β → Prop} {size : Nat → Nat}
variable {ramSize : PhysAddr}

/-- The access `w` writes a range to a drive, `r` reads the same range, and
nothing that the accesses in between start overwrites it. -/
structure ReadsBack (size : Nat → Nat) (w r : GuestAccess)
    (gs : List GuestAccess) (memory memory' drive disk length : Nat)
    (s u : Bench ρ β) : Prop where
  fits : AllFit (AccessFits size) (w :: gs ++ [r]) s
  writes : w.copy s.controller = some ⟨false, memory, drive, disk, length⟩
  between : performAll (w :: gs) s = .ok () u
  kept : ∀ c ∈ (copiesOf (w :: gs) s).tail, ¬ c.Overwrites drive disk length
  reads : r.copy u.controller = some ⟨true, memory', drive, disk, length⟩

/-- What is read back is what was written. -/
theorem performAll_reads_back
    (hserves : ServesSectors (CopyingController.sectorSize ρ) size holds)
    {w r : GuestAccess} {gs : List GuestAccess} {s u : Bench ρ β}
    {p : Stores Byte} {memory memory' drive disk length : Nat}
    (hshows : Shows holds p ramSize s)
    (h : ReadsBack size w r gs memory memory' drive disk length s u) :
    ∃ t, performAll (w :: gs ++ [r]) s = .ok () t ∧
      slice t.ram.m memory' length = slice s.ram.m memory length := by
  obtain ⟨t, ht, hend⟩ := performAll_copies hserves hshows h.fits
  obtain ⟨cs, hcs⟩ : ∃ cs, copiesOf (w :: gs) s =
      ⟨false, memory, drive, disk, length⟩ :: cs := by
    unfold copiesOf
    rw [h.writes]
    exact ⟨_, rfl⟩
  have hkept := h.kept
  rw [hcs] at hkept
  refine ⟨t, ht, ?_⟩
  rw [hend.memory, hshows.memory, copiesOf_append h.between,
    copiesOf_singleton, h.reads, hcs]
  exact read_back hkept p

end ReadBack

section Frames

variable {ρ β : Type} {holds : Nat → (Nat → Byte) → β → Prop} {p : Stores Byte}
variable {ramSize : PhysAddr}

theorem modifyController_shows
    (f : ρ → ρ) :
    EndsWell (Shows holds p ramSize) (modifyController f)
      fun _ => Shows holds p ramSize :=
  .update fun _ hs => hs.of_frame rfl rfl

theorem queueInterrupt_shows
    (level : Level) (vector : Word) :
    EndsWell (Shows holds p ramSize) (queueInterrupt level vector)
      fun _ => Shows (ρ := ρ) holds p ramSize :=
  .update fun _ hs => hs.of_frame rfl rfl

/-- A drive that is loaded is one of the controller's. -/
theorem driveExists_ready
    {α : Type} {device : Nat} {k : Bool → Command ρ β α}
    {Q : α → Bench ρ β → Prop}
    (h : EndsWell (Ready holds device ramSize p) (k true) Q) :
    EndsWell (Ready holds device ramSize p) (driveExists device >>= k) Q := by
  intro s hs
  have hexists : decide (device < s.fhs.length) = true :=
    decide_eq_true (Bench.lt_of_drive hs.loaded)
  unfold driveExists
  rw [view_bind_apply, hexists]
  exact h s hs

end Frames

end KekPdp11
