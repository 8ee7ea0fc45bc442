import KekPdp11.TransferErrors

/-!
# KEK PDP-11: the registers of the RK05 behind a transfer

A transfer counts on the bus address, which spans two registers, and three
counters for the place on the disk, of which the disk address register is put
together at the end.

* `transferLoop_advances`: how the loop counts on, by induction on its passes.
* `Place.iterate_number`: the places one after the other are the sectors of the
  disk in order.
* `countedOn_iff`: when the registers are those that a driver expects.
-/

namespace KekPdp11

open StateExcept Slices

namespace Rk05

variable {β : Type}

section BusAddress

/-- The control register with two new bits of the bus address. -/
theorem extensionBits
    (cs : Word) (a : BitVec 32) :
    (((cs &&& ~~~(3#16 <<< 4)) |||
      (((a >>> 16) &&& 3).setWidth 16 <<< 4)) >>> 4) &&& 3 =
      ((a >>> 16) &&& 3).setWidth 16 := by
  ext i hi
  interval_cases i <;> simp

theorem toNat_and_three
    (w : Word) :
    (w &&& 3).toNat = w.toNat % 4 := by
  rw [BitVec.toNat_and]
  exact Nat.and_two_pow_sub_one_eq_mod _ 2

/-- The bits of the control register that extend the bus address. -/
def extension (c : Rk05) : Word :=
  (c.get RK05_CS >>> 4) &&& 3

theorem extension_toNat
    (c : Rk05) :
    c.extension.toNat = (c.get RK05_CS).toNat / 16 % 4 := by
  unfold extension
  rw [toNat_and_three, BitVec.toNat_ushiftRight, Nat.shiftRight_eq_div_pow]

theorem getBusAddress_eq
    (c : Rk05) :
    c.getBusAddress =
      (c.get RK05_BA).setWidth 32 ||| (c.extension.setWidth 32 <<< 16) := by
  rfl

theorem getBusAddress_toNat
    (c : Rk05) :
    c.getBusAddress.toNat =
      (c.get RK05_BA).toNat + c.extension.toNat * 65536 := by
  have hext : c.extension.toNat < 4 := by
    rw [extension_toNat]
    exact Nat.mod_lt _ (by decide)
  rw [getBusAddress_eq, extended_toNat]
  · rw [BitVec.toNat_setWidth]
    omega
  · rw [BitVec.toNat_setWidth]
    omega

theorem getBusAddress_lt
    (c : Rk05) :
    c.getBusAddress.toNat < 2 ^ 18 := by
  have := (c.get RK05_BA).isLt
  rw [getBusAddress_toNat, extension_toNat]
  omega

/-- The bus address is that of another controller if its two parts are. -/
theorem getBusAddress_congr
    {c c' : Rk05} (hba : c'.get RK05_BA = c.get RK05_BA)
    (hext : c'.extension = c.extension) :
    c'.getBusAddress = c.getBusAddress := by
  rw [getBusAddress_eq, getBusAddress_eq, hba, hext]

theorem updateBusAddress_toNat
    (c : Rk05) (v : Word) :
    (c.updateBusAddress v).getBusAddress.toNat =
      (c.getBusAddress.toNat + v.toNat) % 2 ^ 18 := by
  have hlt := c.getBusAddress_lt
  have hv := v.isLt
  have hsum : (c.getBusAddress + v.setWidth 32).toNat =
      c.getBusAddress.toNat + v.toNat := by
    rw [BitVec.toNat_add, BitVec.toNat_setWidth]
    omega
  have hba : (c.updateBusAddress v).get RK05_BA =
      (c.getBusAddress + v.setWidth 32).setWidth 16 := rfl
  have hext : (c.updateBusAddress v).extension =
      (((c.getBusAddress + v.setWidth 32) >>> 16) &&& 3).setWidth 16 := by
    rw [← extensionBits]
    rfl
  rw [getBusAddress_toNat, hba, hext, BitVec.toNat_setWidth,
    BitVec.toNat_setWidth, BitVec.toNat_and, BitVec.toNat_ushiftRight, hsum,
    Nat.shiftRight_eq_div_pow]
  have hmask : ∀ n, n &&& (3 : BitVec 32).toNat = n % 4 := fun n =>
    Nat.and_two_pow_sub_one_eq_mod n 2
  rw [hmask]
  omega

end BusAddress

section Passes

variable {v : Word} {reads : Bool} {device b : Nat}

/-- The bus address behind `n` bytes, as the controller counts it on: by two
for each byte that it reads from the disk. -/
def advanced (v : Word) (reads : Bool) (b n : Nat) : Nat :=
  if v &&& 2048 ≠ 0 then
    b
  else
    (b + if reads then 2 * n else n) % 2 ^ 18

theorem advanced_zero
    (hb : b < 2 ^ 18) :
    advanced v reads b 0 = b := by
  unfold advanced
  split
  · rfl
  · split <;> omega

theorem advanced_add
    (n m : Nat) :
    advanced v reads (advanced v reads b n) m =
      advanced v reads b (n + m) := by
  unfold advanced
  split
  · rfl
  · split <;> omega

theorem updateBusAddress_iterate
    (n : Nat) (c : Rk05) :
    ((fun c => updateBusAddress c 2)^[n] c).getBusAddress.toNat =
      (c.getBusAddress.toNat + 2 * n) % 2 ^ 18 := by
  induction n generalizing c with
  | zero =>
      exact (Nat.mod_eq_of_lt c.getBusAddress_lt).symm
  | succ n ih =>
      have htwo : (2 : Word).toNat = 2 := rfl
      rw [Function.iterate_succ_apply, ih, updateBusAddress_toNat, htwo]
      omega

/-- Between two passes, the bus address is the given one. -/
def AtBus (b : Nat) (s : Bench Rk05 β) : Prop :=
  s.controller.getBusAddress.toNat = b

/-- A call of a drive leaves the controller, and its answer is in the log. -/
theorem callDrive_answered
    {α : Type} {P : Rk05 → Prop} (call : DiskCall β α)
    (log : Option α → List DiskEvent) :
    Triple (fun s => P s.controller)
      (callDrive device call log : Command Rk05 β α)
      (fun a s => P s.controller ∧ ∃ older, s.trace = log (some a) ++ older)
      (fun _ _ => True) := by
  intro s hs
  unfold callDrive
  split
  · trivial
  · trivial
  · split
    · exact ⟨hs, _, rfl⟩
    · trivial

variable [DiskBackend β]

/-- The pass of the loop for the direction of the transfer. -/
def piece (reads : Bool) (v : Word) : Nat → (memory disk : BitVec 32) →
    (cur left : Nat) → Place → Command Rk05 β (Bool × Place) :=
  if reads then readPiece v else writePiece v

theorem readPiece_advances
    (memory disk : BitVec 32) {cur : Nat} (left : Nat) (place : Place) :
    Triple (AtBus b)
      (readPiece v device memory disk cur left place :
        Command Rk05 β (Bool × Place))
      (fun r s =>
        if r.1 then r.2 = place.next ∧ AtBus (advanced v true b cur) s
        else Failed s)
      (fun _ _ => True) := by
  refine .view_bind_any fun buffer => ?_
  refine .bind (callDrive_answered
    (P := fun c : Rk05 => c.getBusAddress.toNat = b) _ _) fun result => ?_
  obtain ⟨ok, buffer⟩ := result
  cases ok with
  | false =>
      refine .bind (Q := fun _ => Failed) (.update fun s hs => ?_) fun _ =>
        modifyController_failed _ _ fun _ hs => hs
      obtain ⟨older, htrace⟩ := hs.2
      exact failed_of_call (by simp) htrace
  | true =>
      refine .bind (Q := fun _ => AtBus b) (.update fun s hs => hs.1)
        fun _ => ?_
      refine .bind (Q := fun _ => AtBus b) (storeBytes_controller
        (P := fun c : Rk05 => c.getBusAddress.toNat = b) _ _ _ _) fun _ => ?_
      refine .bind (Q := fun _ => AtBus (advanced v true b cur))
        (.update fun s hs => ?_) fun _ => .pure fun s hs => ⟨rfl, hs⟩
      unfold AtBus advanced at *
      dsimp only
      split
      · next hzero =>
          rw [updateBusAddress_iterate, hs, if_neg (not_not.mpr hzero)]
          rfl
      · exact hs

theorem writePiece_advances
    (memory disk : BitVec 32) {cur : Nat} (hcur : cur ≤ 512) (left : Nat)
    (place : Place) :
    Triple (AtBus b)
      (writePiece v device memory disk cur left place :
        Command Rk05 β (Bool × Place))
      (fun r s =>
        if r.1 then r.2 = place.next ∧ AtBus (advanced v false b cur) s
        else Failed s)
      (fun _ _ => True) := by
  refine .view_bind_any fun buffer => ?_
  refine .bind (Q := fun _ => AtBus b) (loadBytes_controller
    (P := fun c : Rk05 => c.getBusAddress.toNat = b) _ _ _ _) fun buffer => ?_
  refine .bind (Q := fun _ => AtBus b) (.update fun s hs => hs) fun _ => ?_
  refine .bind (callDrive_answered
    (P := fun c : Rk05 => c.getBusAddress.toNat = b) _ _) fun ok => ?_
  cases ok with
  | false =>
      refine Triple.strengthen_pre (modifyController_failed (fail 32)
        (false, place) fun _ hs => hs) fun s hs => ?_
      obtain ⟨older, htrace⟩ := hs.2
      exact failed_of_call (by simp) htrace
  | true =>
      refine .bind (Q := fun _ => AtBus (advanced v false b cur))
        (.update fun s hs => ?_) fun _ => .pure fun s hs => ⟨rfl, hs⟩
      have hb := hs.1
      unfold AtBus advanced
      dsimp only
      split
      · exact hb
      · rw [updateBusAddress_toNat, hb, BitVec.toNat_ofNat,
          Nat.mod_eq_of_lt (show cur < 2 ^ 16 by omega)]
        rfl

/-- A pass counts on the bus address and the place. -/
theorem piece_advances
    (memory disk : BitVec 32) {cur : Nat} (hcur : cur ≤ 512) (left : Nat)
    (place : Place) :
    Triple (AtBus b)
      (piece reads v device memory disk cur left place :
        Command Rk05 β (Bool × Place))
      (fun r s =>
        if r.1 then r.2 = place.next ∧ AtBus (advanced v reads b cur) s
        else Failed s)
      (fun _ _ => True) := by
  cases reads with
  | false =>
      exact writePiece_advances memory disk hcur left place
  | true =>
      exact readPiece_advances memory disk left place

/-- The sectors that a number of bytes takes. -/
def sectorsOf (n : Nat) : Nat :=
  (n + 511) / 512

/-- The loop counts on the bus address by its bytes and the place by its
sectors, unless it fails. -/
theorem transferLoop_advances
    (passes : Nat) (memory disk : BitVec 32) (left : Nat) (place : Place)
    (hpasses : left ≤ passes) (hb : b < 2 ^ 18) :
    Triple (AtBus b)
      (transferLoop 512 (piece reads v device) passes memory disk left place :
        Command Rk05 β Place)
      (fun p s =>
        p = Place.next^[sectorsOf left] place ∧
          AtBus (advanced v reads b left) s ∨ Failed s)
      (fun _ _ => True) := by
  induction passes generalizing b memory disk left place with
  | zero =>
      obtain rfl : left = 0 := by omega
      refine .pure fun s hs => .inl ⟨rfl, ?_⟩
      rw [advanced_zero hb]
      exact hs
  | succ passes ih =>
      refine .ite (fun hzero => ?_) fun hleft => ?_
      · subst hzero
        refine .pure fun s hs => .inl ⟨rfl, ?_⟩
        rw [advanced_zero hb]
        exact hs
      · refine .bind (piece_advances memory disk (Nat.min_le_left 512 left)
          left place) fun result => ?_
        obtain ⟨goOn, place'⟩ := result
        cases goOn with
        | false =>
            exact .pure fun s hs => .inr hs
        | true =>
            rintro s ⟨rfl, hs⟩
            have hnext := ih (b := advanced v reads b (min 512 left))
              (memory + BitVec.ofNat 32 (min 512 left))
              (disk + BitVec.ofNat 32 (min 512 left)) (left - min 512 left)
              place.next (by omega) (by
                unfold advanced
                split
                · exact hb
                · exact Nat.mod_lt _ (by decide)) s hs
            have hsectors : sectorsOf left =
                sectorsOf (left - min 512 left) + 1 := by
              unfold sectorsOf
              omega
            rw [advanced_add, Nat.add_sub_cancel' (Nat.min_le_right _ _)]
              at hnext
            rw [hsectors]
            exact hnext

end Passes

section Places

/-- The sector of the disk that a disk address register names, cylinder and
surface being twelve sectors each. -/
def sectorNumber (da : Word) : Nat :=
  da.toNat / 16 % 512 * 12 + da.toNat % 16

/-- Where a transfer starts. -/
def place (da : Word) : Place :=
  ⟨da &&& 15, (da >>> 4) &&& 1, (da >>> 5) &&& 255⟩

namespace Place

/-- A sector of a track of a cylinder. -/
structure Fits (p : Place) : Prop where
  sector : p.sector.toNat < 12
  surface : p.surface.toNat < 2

/-- The sectors in front of a place. -/
def number (p : Place) : Nat :=
  (p.cylinder.toNat * 2 + p.surface.toNat) * 12 + p.sector.toNat

/-- The disk address register that write_word leaves. -/
def address (p : Place) : Word :=
  p.sector ||| (p.surface <<< 4) ||| (p.cylinder <<< 5)

theorem ext_toNat
    {p q : Place} (hsector : p.sector.toNat = q.sector.toNat)
    (hsurface : p.surface.toNat = q.surface.toNat)
    (hcylinder : p.cylinder.toNat = q.cylinder.toNat) :
    p = q := by
  obtain ⟨sector, surface, cylinder⟩ := p
  obtain ⟨sector', surface', cylinder'⟩ := q
  obtain rfl := BitVec.eq_of_toNat_eq hsector
  obtain rfl := BitVec.eq_of_toNat_eq hsurface
  obtain rfl := BitVec.eq_of_toNat_eq hcylinder
  rfl

theorem next_number
    {p : Place} (h : p.Fits) (hlt : p.cylinder.toNat < 65535) :
    p.next.Fits ∧ p.next.number = p.number + 1 := by
  obtain ⟨hsector, hsurface⟩ := h
  obtain ⟨sector, surface, cylinder⟩ := p
  have hone : (1 : Word).toNat = 1 := rfl
  have hinc : ∀ w : Word, w.toNat < 65535 → (w + 1).toNat = w.toNat + 1 := by
    intro w hw
    rw [BitVec.toNat_add, hone]
    omega
  dsimp only at hsector hsurface hlt
  have hnext : next ⟨sector, surface, cylinder⟩ =
      if 12 ≤ sector + 1 then
        if 2 ≤ surface + 1 then ⟨0, 0, cylinder + 1⟩
        else ⟨0, surface + 1, cylinder⟩
      else ⟨sector + 1, surface, cylinder⟩ := rfl
  have htwelve : (12 : Word).toNat = 12 := rfl
  have htwo : (2 : Word).toNat = 2 := rfl
  have hzero : (0 : Word).toNat = 0 := rfl
  rw [hnext]
  unfold number
  split
  · next htrack =>
      rw [BitVec.le_def, hinc sector (by omega), htwelve] at htrack
      split
      · next hside =>
          rw [BitVec.le_def, hinc surface (by omega), htwo] at hside
          refine ⟨⟨Nat.succ_pos 11, Nat.succ_pos 1⟩, ?_⟩
          dsimp only
          rw [hinc cylinder hlt, hzero]
          omega
      · next hside =>
          rw [BitVec.le_def, hinc surface (by omega), htwo] at hside
          refine ⟨⟨Nat.succ_pos 11, ?_⟩, ?_⟩
          · dsimp only
            rw [hinc surface (by omega)]
            omega
          · dsimp only
            rw [hinc surface (by omega), hzero]
            omega
  · next htrack =>
    rw [BitVec.le_def, hinc sector (by omega), htwelve] at htrack
    refine ⟨⟨?_, hsurface⟩, ?_⟩
    · dsimp only
      rw [hinc sector (by omega)]
      omega
    · dsimp only
      rw [hinc sector (by omega)]
      omega

theorem iterate_number
    {p : Place} (h : p.Fits) (k : Nat) (hlt : p.number + k < 24 * 65535) :
    (next^[k] p).Fits ∧ (next^[k] p).number = p.number + k := by
  induction k with
  | zero =>
      exact ⟨h, rfl⟩
  | succ k ih =>
      obtain ⟨hfits, hnumber⟩ := ih (by omega)
      rw [Function.iterate_succ_apply']
      have hcylinder : (next^[k] p).cylinder.toNat < 65535 := by
        unfold number at hnumber hlt
        omega
      obtain ⟨hfits', hnumber'⟩ := next_number hfits hcylinder
      exact ⟨hfits', by omega⟩

theorem address_toNat
    {p : Place} (h : p.Fits) :
    p.address.toNat = p.sector.toNat + p.surface.toNat * 16 +
      p.cylinder.toNat * 32 % 65536 := by
  have hsector := h.sector
  have hsurface := h.surface
  have hlow : p.sector.toNat ||| p.surface.toNat * 16 =
      p.sector.toNat + p.surface.toNat * 16 := by
    have := Nat.two_pow_add_eq_or_of_lt (show p.sector.toNat < 2 ^ 4 by omega)
      p.surface.toNat
    rw [Nat.or_comm, show p.surface.toNat * 16 = 2 ^ 4 * p.surface.toNat by
      omega]
    omega
  have hhigh : (p.sector.toNat + p.surface.toNat * 16) |||
      p.cylinder.toNat * 32 % 65536 =
        p.sector.toNat + p.surface.toNat * 16 +
          p.cylinder.toNat * 32 % 65536 := by
    have := Nat.two_pow_add_eq_or_of_lt
      (show p.sector.toNat + p.surface.toNat * 16 < 2 ^ 5 by omega)
      (p.cylinder.toNat % 2048)
    rw [Nat.or_comm, show p.cylinder.toNat * 32 % 65536 =
      2 ^ 5 * (p.cylinder.toNat % 2048) by omega]
    omega
  unfold address
  rw [BitVec.toNat_or, BitVec.toNat_or, BitVec.toNat_shiftLeft,
    BitVec.toNat_shiftLeft, Nat.shiftLeft_eq, Nat.shiftLeft_eq,
    Nat.mod_eq_of_lt (show p.surface.toNat * 2 ^ 4 < 2 ^ 16 by omega)]
  exact (congrArg (· ||| _) hlow).trans hhigh

end Place

theorem place_toNat
    (da : Word) :
    (place da).sector.toNat = da.toNat % 16 ∧
      (place da).surface.toNat = da.toNat / 16 % 2 ∧
      (place da).cylinder.toNat = da.toNat / 32 % 256 := by
  refine ⟨?_, ?_, ?_⟩
  · unfold place
    rw [BitVec.toNat_and]
    exact Nat.and_two_pow_sub_one_eq_mod _ 4
  · unfold place
    rw [BitVec.toNat_and, BitVec.toNat_ushiftRight, Nat.shiftRight_eq_div_pow]
    exact Nat.and_two_pow_sub_one_eq_mod _ 1
  · unfold place
    rw [BitVec.toNat_and, BitVec.toNat_ushiftRight, Nat.shiftRight_eq_div_pow]
    exact Nat.and_two_pow_sub_one_eq_mod _ 8

theorem place_number
    {da : Word} (h : da.toNat % 16 < 12) :
    (place da).Fits ∧ (place da).number = sectorNumber da := by
  obtain ⟨hsector, hsurface, hcylinder⟩ := place_toNat da
  refine ⟨⟨by omega, by omega⟩, ?_⟩
  unfold Place.number sectorNumber
  omega

/-- A place on the disk is found again in the register. -/
theorem place_address
    {p : Place} (h : p.Fits) (hlt : p.cylinder.toNat < 256) :
    place p.address = p := by
  obtain ⟨hsector, hsurface, hcylinder⟩ := place_toNat p.address
  rw [Place.address_toNat h] at hsector hsurface hcylinder
  have hs := h.sector
  have hf := h.surface
  refine Place.ext_toNat ?_ ?_ ?_
  · rw [hsector]
    omega
  · rw [hsurface]
    omega
  · rw [hcylinder]
    omega

end Places

section Commands

variable {v : Word} {reads : Bool}

/-- The state in which the function of a command starts. -/
def begun (v : Word) (s : Bench Rk05 β) : Bench Rk05 β :=
  { s with
    controller := (s.controller.set RK05_CS v).modify RK05_CS
      (· &&& ~~~(1#16 <<< 13)) }

theorem begun_bus
    (v : Word) (s : Bench Rk05 β) :
    (begun v s).controller.getBusAddress =
      (s.controller.set RK05_CS v).getBusAddress := by
  refine getBusAddress_congr rfl ?_
  have hset : (s.controller.set RK05_CS v).get RK05_CS = v := get_set_self _ _ _
  have hmodify : (begun v s).controller.get RK05_CS =
      v &&& ~~~(1#16 <<< 13) := by
    unfold begun modify
    dsimp only
    rw [get_set_self, hset]
  unfold extension
  rw [hset, hmodify]
  ext i hi
  interval_cases i <;> simp

/-- What is left of a transfer behind its loop. -/
structure Concluded (p : Place) (t u : Bench Rk05 β) : Prop where
  fhs : u.fhs = t.fhs
  ram : u.ram = t.ram
  trace : u.trace = t.trace
  buffer : u.controller.xferBuffer = t.controller.xferBuffer
  count : u.controller.get RK05_WC = 0
  address : u.controller.get RK05_DA = p.address
  bus : u.controller.getBusAddress = t.controller.getBusAddress

theorem finish_concluded
    (v : Word) (device : Nat) (p : Place) (t : Bench Rk05 β) :
    ∃ u, (do
        modifyController fun c => c.set RK05_DA p.address
        finish v device : Command Rk05 β Unit) t = .ok () u ∧
      Concluded p t u := by
  have hready : ∀ cs : Word,
      ((cs ||| 128) >>> 4) &&& 3 = (cs >>> 4) &&& 3 := by
    intro cs
    ext i hi
    interval_cases i <;> simp
  unfold finish modifyController queueInterrupt
  rw [update_bind_apply, update_bind_apply, ite_apply_state]
  split
  · refine ⟨_, rfl, rfl, rfl, rfl, rfl, rfl, rfl, ?_⟩
    exact getBusAddress_congr rfl (hready (t.controller.get RK05_CS))
  · refine ⟨_, rfl, rfl, rfl, rfl, rfl, rfl, rfl, ?_⟩
    exact getBusAddress_congr rfl (hready (t.controller.get RK05_CS))

variable [DiskBackend β]

theorem execute_transfers
    (hv : Transfers v reads) (device : Nat) (da : Word) (reclen : Nat)
    (memoff : BitVec 32) :
    (execute v device da reclen memoff : Command Rk05 β Unit) =
      transfer (piece reads v) device da reclen memoff := by
  unfold execute
  rw [hv.2]
  cases reads <;> rfl

omit [DiskBackend β] in
theorem transfer_of_present
    {s : Bench Rk05 β} {device : Nat}
    (piece : Nat → (memory disk : BitVec 32) → (cur left : Nat) → Place →
      Command Rk05 β (Bool × Place))
    (da : Word) (reclen : Nat) (memoff : BitVec 32)
    (h : device < s.fhs.length) :
    transfer piece device da reclen memoff s =
      (do
        let p ← transferLoop 512 (piece device) reclen memoff (diskOffset da)
          reclen (place da)
        modifyController fun c => c.set RK05_DA p.address :
          Command Rk05 β Unit) s := by
  unfold transfer driveExists
  rw [view_bind_apply, decide_eq_true h]
  rfl

/-- The loop of a command and what comes behind it. -/
theorem writeWord_begun
    (hv : Transfers v reads) {s : Bench Rk05 β}
    (hpresent : s.controller.selected < s.fhs.length) :
    writeWord RK05_CS v s =
      (do
        let p ← transferLoop 512 (piece reads v s.controller.selected)
          (recordLength (s.controller.get RK05_WC))
          (s.controller.set RK05_CS v).getBusAddress
          (diskOffset (s.controller.get RK05_DA))
          (recordLength (s.controller.get RK05_WC))
          (place (s.controller.get RK05_DA))
        modifyController fun c => c.set RK05_DA p.address
        finish v s.controller.selected : Command Rk05 β Unit) (begun v s) := by
  obtain ⟨hgo, hfunction⟩ := hv
  have hrun : writeWord RK05_CS v s =
      (execute v s.controller.selected (s.controller.get RK05_DA)
          (recordLength (s.controller.get RK05_WC))
          (s.controller.set RK05_CS v).getBusAddress >>= fun _ =>
        finish v s.controller.selected) (begun v s) := by
    unfold writeWord modifyController
    rw [update_bind_apply, if_pos ⟨rfl, hgo⟩]
    rfl
  rw [hrun, execute_transfers ⟨hgo, hfunction⟩, bind_apply_congr
    (transfer_of_present (s := begun v s) _ _ _ _ hpresent)]
  exact congrFun (bind_assoc _ _ _) (begun v s)

theorem writeWord_of_loop
    (hv : Transfers v reads) {s t : Bench Rk05 β} {p : Place}
    (hpresent : s.controller.selected < s.fhs.length)
    (hloop : transferLoop 512 (piece reads v s.controller.selected)
        (recordLength (s.controller.get RK05_WC))
        (s.controller.set RK05_CS v).getBusAddress
        (diskOffset (s.controller.get RK05_DA))
        (recordLength (s.controller.get RK05_WC))
        (place (s.controller.get RK05_DA)) (begun v s) = .ok p t) :
    ∃ u, writeWord RK05_CS v s = .ok () u ∧ Concluded p t u := by
  obtain ⟨u, hu, hconcluded⟩ :=
    finish_concluded v s.controller.selected p t
  refine ⟨u, ?_, hconcluded⟩
  rw [writeWord_begun hv hpresent, bind_of_ok hloop]
  exact hu

theorem loop_of_writeWord
    (hv : Transfers v reads) {s u : Bench Rk05 β}
    (hpresent : s.controller.selected < s.fhs.length)
    (hrun : writeWord RK05_CS v s = .ok () u) :
    ∃ p t, transferLoop 512 (piece reads v s.controller.selected)
        (recordLength (s.controller.get RK05_WC))
        (s.controller.set RK05_CS v).getBusAddress
        (diskOffset (s.controller.get RK05_DA))
        (recordLength (s.controller.get RK05_WC))
        (place (s.controller.get RK05_DA)) (begun v s) = .ok p t ∧
      Concluded p t u := by
  rw [writeWord_begun hv hpresent] at hrun
  obtain ⟨p, t, hloop, hrest⟩ := bind_eq_ok hrun
  obtain ⟨u', hu', hconcluded⟩ :=
    finish_concluded v s.controller.selected p t
  have heq : EStateM.Result.ok () u' = .ok () u := hu'.symm.trans hrest
  injection heq with _ heq
  exact ⟨p, t, hloop, heq ▸ hconcluded⟩

end Commands

section Registers

variable {v : Word} {reads : Bool}

/-- The registers that a driver expects behind a transfer: the bus address
counted on by the bytes unless that is inhibited, and the disk address of the
same drive counted on by the sectors. -/
structure CountedOn (v : Word) (c c' : Rk05) : Prop where
  count : c'.get RK05_WC = 0
  bus : c'.getBusAddress.toNat =
    if v &&& 2048 ≠ 0 then
      c.programmedBus v
    else
      (c.programmedBus v + wordCountBytes (c.get RK05_WC)) % 2 ^ 18
  drive : c'.selected = c.selected
  sector_lt : (c'.get RK05_DA).toNat % 16 < 12
  sector : sectorNumber (c'.get RK05_DA) =
    sectorNumber (c.get RK05_DA) +
      sectorsOf (wordCountBytes (c.get RK05_WC))

theorem recordLength_toNat
    (w : Word) :
    recordLength w =
      if w.toNat < 0x8000 then w.toNat * 2 else (65536 - w.toNat) * 2 := by
  have hw := w.isLt
  unfold recordLength
  rw [BitVec.toInt_eq_toNat_cond]
  split <;> split <;> split <;> omega

theorem programmedBus_lt
    (v : Word) (c : Rk05) :
    c.programmedBus v < 2 ^ 18 := by
  have := (c.get RK05_BA).isLt
  unfold programmedBus
  omega

/-- The drive and the sector that the register names behind a transfer. -/
theorem address_fields
    {p : Place} (h : p.Fits) :
    (p.address >>> 13).toNat = p.cylinder.toNat / 256 % 8 ∧
      p.address.toNat % 16 < 12 ∧
      sectorNumber p.address =
        (p.cylinder.toNat % 256 * 2 + p.surface.toNat) * 12 +
          p.sector.toNat := by
  have hsector := h.sector
  have hsurface := h.surface
  have haddress := Place.address_toNat h
  refine ⟨?_, by omega, ?_⟩
  · rw [BitVec.toNat_ushiftRight, Nat.shiftRight_eq_div_pow]
    omega
  · unfold sectorNumber
    omega

/-- Where a transfer of so many bytes ends. -/
theorem iterate_place
    {da : Word} (h : da.toNat % 16 < 12) {k : Nat} (hk : k ≤ 128) :
    (Place.next^[k] (place da)).Fits ∧
      (Place.next^[k] (place da)).number = sectorNumber da + k := by
  obtain ⟨hfits, hnumber⟩ := place_number h
  rw [← hnumber]
  refine Place.iterate_number hfits k ?_
  rw [hnumber]
  unfold sectorNumber
  omega

variable [DiskBackend β]

theorem countedOn_iff
    (hv : Transfers v reads) {s u : Bench Rk05 β}
    (hpresent : s.controller.selected < s.fhs.length)
    (hsector : (s.controller.get RK05_DA).toNat % 16 < 12)
    (hrun : writeWord RK05_CS v s = .ok () u) (hu : ¬ Failed u) :
    CountedOn v s.controller u.controller ↔
      0x8000 ≤ (s.controller.get RK05_WC).toNat ∧
        s.controller.selected = 0 ∧
        sectorNumber (s.controller.get RK05_DA) +
          sectorsOf (wordCountBytes (s.controller.get RK05_WC)) < 6144 ∧
        (reads = true → v &&& 2048 ≠ 0) := by
  obtain ⟨p, t, hloop, hconcluded⟩ := loop_of_writeWord hv hpresent hrun
  have ht : ¬ Failed t := by
    unfold Failed at hu ⊢
    rw [← hconcluded.trace]
    exact hu
  have hbus : AtBus (s.controller.programmedBus v) (begun v s) := by
    unfold AtBus
    rw [begun_bus, toNat_getBusAddress]
  obtain ⟨rfl, hend⟩ := ((transferLoop_advances _ _ _ _ _ (Nat.le_refl _)
    (programmedBus_lt v _)).ok hbus hloop).resolve_right ht
  have hw := (s.controller.get RK05_WC).isLt
  have hlength := recordLength_toNat (s.controller.get RK05_WC)
  have hk : sectorsOf (recordLength (s.controller.get RK05_WC)) ≤ 128 := by
    unfold sectorsOf
    split at hlength <;> omega
  obtain ⟨hfits, hnumber⟩ := iterate_place hsector hk
  obtain ⟨hdrive, hlt, hsector'⟩ := address_fields hfits
  have hstart : sectorNumber (s.controller.get RK05_DA) < 6144 := by
    unfold sectorNumber
    omega
  unfold AtBus at hend
  rw [← hconcluded.bus] at hend
  unfold Place.number at hnumber
  have hfields := hfits.sector
  have hsides := hfits.surface
  have hselected : u.controller.selected =
      (Place.next^[sectorsOf (recordLength (s.controller.get RK05_WC))]
        (place (s.controller.get RK05_DA))).cylinder.toNat / 256 % 8 := by
    unfold selected
    rw [hconcluded.address]
    exact hdrive
  rw [← hconcluded.address] at hlt hsector'
  generalize Place.next^[sectorsOf (recordLength (s.controller.get RK05_WC))]
    (place (s.controller.get RK05_DA)) = p at *
  unfold advanced at hend
  have hbytes : wordCountBytes (s.controller.get RK05_WC) =
      (65536 - (s.controller.get RK05_WC).toNat) * 2 := rfl
  constructor
  · intro h
    have hb := h.bus
    have hd := h.drive
    have hs := h.sector
    rw [hend] at hb
    rw [hselected] at hd
    rw [hsector'] at hs
    unfold sectorsOf at *
    have hcylinder : p.cylinder.toNat < 256 := by
      omega
    have hcount : 0x8000 ≤ (s.controller.get RK05_WC).toNat := by
      split at hlength <;> omega
    refine ⟨hcount, by omega, by omega, fun hreads => ?_⟩
    intro hclear
    rw [if_neg (not_not.mpr hclear), if_neg (not_not.mpr hclear),
      if_pos hreads] at hb
    split at hlength <;> omega
  · rintro ⟨hcount, hzero, hdisk, hinhibit⟩
    rw [if_neg (by omega)] at hlength
    rw [← hbytes] at hlength
    rw [hlength] at hend hnumber
    refine ⟨hconcluded.count, ?_, ?_, hlt, ?_⟩
    · rw [hend]
      split
      · rfl
      · next hclear =>
          rw [if_neg fun hreads => hclear (hinhibit hreads)]
    · omega
    · omega

end Registers

end Rk05

end KekPdp11
