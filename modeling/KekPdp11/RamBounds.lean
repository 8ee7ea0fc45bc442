import KekPdp11.RamCalls

/-!
# KEK PDP-11: the bounds of memory

The checks before a call of class memory look at the first byte of a word only,
and the TM-11 makes none.  All bytes that a call touches are in memory if and
only if no word is accessed at the last byte and no block of the TM-11 reaches
past the end.
-/

namespace KekPdp11

namespace MemoryCall

/-- The bytes of the array that a call touches. -/
def touched (call : MemoryCall) : List Nat :=
  call.address.toNat :: if call.isWord then [call.address.toNat + 1] else []

/-- The call does not access a word at the last byte. -/
def AvoidsEnd (size : PhysAddr) (call : MemoryCall) : Prop :=
  call.isWord = true → call.address.toNat + 1 ≠ size.toNat

end MemoryCall

/-- Every byte that is touched lies in a memory of that size. -/
def Inside (size : PhysAddr) (calls : List MemoryCall) : Prop :=
  ∀ call ∈ calls, ∀ i ∈ call.touched, i < size.toNat

instance (size : PhysAddr) (calls : List MemoryCall) :
    Decidable (Inside size calls) :=
  inferInstanceAs (Decidable (∀ call ∈ calls, ∀ i ∈ call.touched, _))

section Tape

namespace TapeFile

/-- What is left of the file. -/
def left (f : TapeFile) : Nat :=
  f.content.length - f.position

end TapeFile

namespace Tm11

/-- The number of bytes that a read moves: none if no record is found, if more
is asked for than xfer_buffer holds or if the file ends in the record. -/
def readSize (passes count : Nat) (f : TapeFile) : Nat :=
  match f.findDataRecordForward passes with
  | some (some length, f) =>
      if count ≤ xferSize ∧ min count length ≤ f.left then min count length
      else 0
  | _ => 0

/-- The number of bytes that a write moves. -/
def writeSize (passes count : Nat) (f : TapeFile) : Nat :=
  match f.findDataRecordBackward passes with
  | some (some _, _) => if count ≤ xferSize then count else 0
  | _ => 0

/-- The number of bytes that a register write moves. -/
def transferSize (passes : Nat) (t : Tm11) (addr v : Word) : Nat :=
  let count := reclen (t.registers (regNr mtbrc))
  if addr = mtc ∧ v &&& 1 ≠ 0 then
    if func v = 1 then readSize passes count t.file
    else if func v = 2 then writeSize passes count t.file
    else 0
  else
    0

end Tm11

end Tape

namespace RamAccess

variable {δ : Type} (s : Machine δ)

/-- The access reads or writes no word at the last byte of memory, and no block
of the tape past it. -/
def AvoidsEnd : RamAccess → Prop
  | .read a wordMode runMode space | .write a wordMode _ runMode space =>
      wordMode = .wmWord → ∀ p page, s.target runMode a space = .ram p page →
        p &&& 1 = 0 → p.toNat + 1 ≠ s.ram.size.toNat
  | .readPhysical a | .writePhysical a _ => a.toNat + 1 ≠ s.ram.size.toNat
  | .readPhysicalByte _ => True
  | .peekWord runMode a =>
      ∀ addresses, s.mmu.calculatePhysicalAddressConst runMode a =
        some addresses → ¬ s.mmu.ioBase ≤ addresses.physicalInstruction →
        addresses.physicalInstruction.toNat + 1 ≠ s.ram.size.toNat
  | .unibus call => call.AvoidsEnd s.ram.size
  | .receiver _ p =>
      p + 12 ≤ s.ram.size → ∀ a ∈ rxWords s.ram p,
        a.toNat + 1 ≠ s.ram.size.toNat
  | .transmitter _ p =>
      p + 12 ≤ s.ram.size → ∀ a ∈ txWords s.ram p,
        a.toNat + 1 ≠ s.ram.size.toNat
  | .tm11 passes t addr v =>
      Tm11.transferSize passes t addr v = 0 ∨
        (t.registers (Tm11.regNr Tm11.mtcma)).toNat +
          Tm11.transferSize passes t addr v ≤ s.ram.size.toNat

end RamAccess

section Bounds

variable {size : PhysAddr}

theorem avoidsEnd_readWord
    (size a : PhysAddr) :
    (MemoryCall.readWord a).AvoidsEnd size ↔ a.toNat + 1 ≠ size.toNat :=
  forall_prop_of_true rfl

theorem avoidsEnd_writeWord
    (size a : PhysAddr) (v : Word) :
    (MemoryCall.writeWord a v).AvoidsEnd size ↔ a.toNat + 1 ≠ size.toNat :=
  forall_prop_of_true rfl

theorem inside_nil :
    Inside size [] :=
  fun _ h => absurd h List.not_mem_nil

/-- A call whose first byte is in memory. -/
theorem inside_singleton
    {call : MemoryCall} (h : call.address < size) :
    Inside size [call] ↔ call.AvoidsEnd size := by
  have hlt : call.address.toNat < size.toNat := h
  unfold Inside MemoryCall.touched MemoryCall.AvoidsEnd
  simp only [List.mem_singleton, forall_eq, List.forall_mem_cons, hlt,
    true_and]
  cases call.isWord with
  | false =>
      simp
  | true =>
      simp only [if_true, List.mem_singleton, forall_eq, forall_const]
      omega

/-- A call that is made if its first byte is in memory. -/
theorem inside_guarded
    (call : MemoryCall) :
    Inside size (if call.address < size then [call] else []) ↔
      call.AvoidsEnd size := by
  split
  · next hlt =>
      exact inside_singleton hlt
  · next hge =>
      have hle : size.toNat ≤ call.address.toNat := Nat.le_of_not_lt hge
      exact iff_of_true inside_nil fun _ => by omega

theorem inside_checked
    (call : MemoryCall) :
    Inside size (RamAccess.checkedCalls size call) ↔ call.AvoidsEnd size := by
  rw [← inside_guarded]
  unfold RamAccess.checkedCalls
  by_cases h : size ≤ call.address
  · rw [if_pos h, if_neg (BitVec.not_lt.mpr h)]
  · rw [if_neg h, if_pos (BitVec.not_le.mp h)]

theorem inside_flatMap_unibus
    {r : Ram} (calls : List MemoryCall) :
    Inside r.size (calls.flatMap r.unibus) ↔
      ∀ call ∈ calls, call.AvoidsEnd r.size := by
  have heach : Inside r.size (calls.flatMap r.unibus) ↔
      ∀ call ∈ calls, Inside r.size (r.unibus call) := by
    unfold Inside
    simp only [List.mem_flatMap, forall_exists_index, and_imp]
    exact ⟨fun h call hcall c hc => h c call hcall hc,
      fun h c call hcall hc => h call hcall c hc⟩
  rw [heach]
  exact forall₂_congr fun call _ => inside_guarded call

/-- A block of bytes. -/
theorem inside_block
    {a : PhysAddr} {n : Nat} {calls : List MemoryCall}
    (hcalls : calls.map MemoryCall.touched =
      (List.range n).map fun i => [(a + BitVec.ofNat 32 i).toNat])
    (hn : a.toNat + n ≤ 2 ^ 32) :
    Inside size calls ↔ n = 0 ∨ a.toNat + n ≤ size.toNat := by
  have hplace : ∀ i < n, (a + BitVec.ofNat 32 i).toNat = a.toNat + i := by
    intro i hi
    rw [BitVec.toNat_add, BitVec.toNat_ofNat]
    omega
  have hinside : Inside size calls ↔ ∀ i < n, a.toNat + i < size.toNat := by
    have hmap : Inside size calls ↔
        ∀ bytes ∈ calls.map MemoryCall.touched, ∀ i ∈ bytes,
          i < size.toNat := by
      rw [List.forall_mem_map]
      rfl
    rw [hmap, hcalls, List.forall_mem_map]
    simp only [List.mem_range, List.mem_singleton, forall_eq]
    exact forall₂_congr fun i hi => by rw [hplace i hi]
  rw [hinside]
  constructor
  · intro h
    rcases Nat.eq_zero_or_pos n with hzero | hpos
    · exact .inl hzero
    · have hlast := h (n - 1) (by omega)
      omega
  · intro h i hi
    omega

end Bounds

section Accesses

variable {δ : Type} {s : Machine δ}

/-- A reference of the CPU that memory serves is below its size. -/
theorem inside_busCalls
    {runMode : RunMode} {a : Word} {space : Space}
    {byteCall wordCall : PhysAddr → MemoryCall}
    (hbyte : ∀ p, (byteCall p).address = p ∧ (byteCall p).isWord = false)
    (hword : ∀ p, (wordCall p).address = p ∧ (wordCall p).isWord = true)
    (wordMode : WordMode) :
    Inside s.ram.size (RamAccess.busCalls (s.target runMode a space) byteCall
      wordCall wordMode) ↔
      (wordMode = .wmWord → ∀ p page,
        s.target runMode a space = .ram p page → p &&& 1 = 0 →
        p.toNat + 1 ≠ s.ram.size.toNat) := by
  cases htarget : s.target runMode a space with
  | ram p page =>
      have hlt : p < s.ram.size :=
        BitVec.not_le.mp (Mmu.target_ram htarget).2.2.2.2
      cases wordMode with
      | wmByte =>
          refine iff_of_true ?_ nofun
          refine (inside_singleton ((hbyte p).1.symm ▸ hlt)).mpr fun h => ?_
          rw [(hbyte p).2] at h
          cases h
      | wmWord =>
          have hcall : ∀ q page', Target.ram p page = .ram q page' → q = p :=
            fun _ _ h => (Target.ram.inj h).1.symm
          unfold RamAccess.busCalls
          dsimp only
          by_cases hodd : p &&& 1 ≠ 0
          · rw [if_pos hodd]
            refine iff_of_true inside_nil fun _ q page' h heven => ?_
            rw [hcall q page' h] at heven
            exact absurd heven hodd
          · rw [if_neg hodd, inside_singleton ((hword p).1.symm ▸ hlt),
              MemoryCall.AvoidsEnd, (hword p).1, (hword p).2]
            constructor
            · intro h _ q page' hq _
              rw [hcall q page' hq]
              exact h rfl
            · intro h _
              exact h rfl p page rfl (not_not.mp hodd)
  | _ =>
      cases wordMode <;>
        exact iff_of_true inside_nil fun _ _ _ h => by cases h

theorem inside_peekWord
    (runMode : RunMode) (a : Word) :
    Inside s.ram.size ((RamAccess.peekWord runMode a).calls s) ↔
      (RamAccess.peekWord runMode a).AvoidsEnd s := by
  rw [RamAccess.calls, RamAccess.AvoidsEnd]
  cases s.mmu.calculatePhysicalAddressConst runMode a with
  | none =>
      exact iff_of_true inside_nil fun _ h => by cases h
  | some addresses =>
      dsimp only
      by_cases hio : s.mmu.ioBase ≤ addresses.physicalInstruction
      · rw [if_pos hio]
        refine iff_of_true inside_nil fun _ h hnot => ?_
        cases h
        exact absurd hio hnot
      · rw [if_neg hio, inside_checked, avoidsEnd_readWord]
        constructor
        · intro h _ hsome _
          cases hsome
          exact h
        · intro h
          exact h addresses rfl hio

theorem isWord_stores
    {a : PhysAddr} {d : List Byte} {call : MemoryCall}
    (h : call ∈ Tm11.stores a d) :
    call.isWord = false := by
  obtain ⟨b, -, rfl⟩ := List.mem_map.mp h
  rfl

theorem isWord_reads
    {a : PhysAddr} {n : Nat} {call : MemoryCall}
    (h : call ∈ (List.range n).map fun i =>
      MemoryCall.readByte (a + BitVec.ofNat 32 i)) :
    call.isWord = false := by
  obtain ⟨i, -, rfl⟩ := List.mem_map.mp h
  rfl

/-- Calls for bytes avoid the end whatever they are. -/
theorem avoidsEnd_bytes_iff
    {calls : List MemoryCall} (size : PhysAddr)
    (h : ∀ call ∈ calls, call.isWord = false) :
    (∀ call ∈ calls, call.AvoidsEnd size) ↔ True := by
  refine iff_true_intro fun call hcall hword => ?_
  rw [h call hcall] at hword
  cases hword

theorem inside_rxCalls
    {r : Ram} (frame : List Byte) (p : PhysAddr) :
    Inside r.size ((rxCalls frame p r).flatMap r.unibus) ↔
      (p + 12 ≤ r.size → ∀ a ∈ rxWords r p, a.toNat + 1 ≠ r.size.toNat) := by
  rw [inside_flatMap_unibus]
  unfold rxCalls rxWords
  by_cases hroom : p + 12 ≤ r.size
  · rw [if_pos hroom, forall_prop_of_true hroom]
    cases (r.descriptor p).isValid && !(r.descriptor p).isChain with
    | false =>
        simp [avoidsEnd_readWord]
    | true =>
        have hstores := avoidsEnd_bytes_iff r.size fun _ h =>
          isWord_stores (a := (r.descriptor p).chain)
            (d := frame.take (r.descriptor p).length) h
        simp only [if_true, List.forall_mem_append, List.forall_mem_cons,
          hstores, avoidsEnd_readWord, avoidsEnd_writeWord]
        grind
  · rw [if_neg hroom]
    exact iff_of_true (fun _ h => absurd h List.not_mem_nil)
      fun h => absurd h hroom

theorem inside_txCalls
    {r : Ram} (n : Nat) (p : PhysAddr) :
    Inside r.size ((txCalls n p r).flatMap r.unibus) ↔
      (p + 12 ≤ r.size → ∀ a ∈ txWords r p, a.toNat + 1 ≠ r.size.toNat) := by
  rw [inside_flatMap_unibus]
  unfold txCalls txWords
  by_cases hroom : p + 12 ≤ r.size
  · rw [if_pos hroom, forall_prop_of_true hroom]
    by_cases htakes : r.Takes p
    · have hfits : ((r.descriptor p).isChain ||
          TxState.fits (r.descriptor p) r.size) = true := by
        rw [Bool.or_eq_true]
        exact htakes.2.2
      have hbytes : ∀ call ∈ (if (r.descriptor p).isChain then []
          else (List.range (min (r.descriptor p).length (txBufferSize - n))).map
            fun i => MemoryCall.readByte
              ((r.descriptor p).chain + BitVec.ofNat 32 i)),
          call.isWord = false := by
        split
        · exact fun _ h => absurd h List.not_mem_nil
        · exact fun _ h => isWord_reads h
      rw [if_pos htakes.2.1, if_pos hfits]
      have htrue := avoidsEnd_bytes_iff r.size hbytes
      cases hend : (r.descriptor p).isEnd with
      | false =>
          simp only [Bool.false_eq_true, and_false, if_false,
            List.forall_mem_append, List.forall_mem_cons, htrue,
            avoidsEnd_readWord, avoidsEnd_writeWord]
          grind
      | true =>
          simp only [htakes, true_and, if_true, List.forall_mem_append,
            List.forall_mem_cons, htrue, avoidsEnd_readWord,
            avoidsEnd_writeWord]
          grind
    · have hnotEnd : ¬ (r.Takes p ∧ (r.descriptor p).isEnd = true) :=
        fun h => htakes h.1
      rw [if_neg hnotEnd]
      by_cases hvalid : (r.descriptor p).isValid = true
      · have hunfit : ¬ ((r.descriptor p).isChain ||
            TxState.fits (r.descriptor p) r.size) = true := by
          rw [Bool.or_eq_true]
          exact fun h => htakes ⟨hroom, hvalid, h⟩
        rw [if_pos hvalid, if_neg hunfit]
        simp only [List.forall_mem_append, List.forall_mem_cons,
          avoidsEnd_readWord, avoidsEnd_writeWord]
        grind
      · rw [if_neg hvalid]
        simp only [List.forall_mem_append, List.forall_mem_cons,
          avoidsEnd_readWord]
        grind
  · rw [if_neg hroom]
    exact iff_of_true (fun _ h => absurd h List.not_mem_nil)
      fun h => absurd h hroom

end Accesses

section Blocks

theorem touched_stores
    (a : PhysAddr) (data : List Byte) :
    (Tm11.stores a data).map MemoryCall.touched =
      (List.range data.length).map
        fun i => [(a + BitVec.ofNat 32 i).toNat] := by
  have hindices : data.zipIdx.map Prod.snd = List.range data.length := by
    rw [List.zipIdx_map_snd, List.range_eq_range']
  unfold Tm11.stores
  rw [← hindices, List.map_map, List.map_map]
  rfl

/-- The calls of a command move a block of that size from or to an address. -/
def IsBlock (a : PhysAddr) (n : Nat) (calls : List MemoryCall) : Prop :=
  calls.map MemoryCall.touched =
    (List.range n).map fun i => [(a + BitVec.ofNat 32 i).toNat]

theorem isBlock_read
    {passes count : Nat} {a : PhysAddr} {f : TapeFile} {outcome : TapeOutcome}
    (h : Tm11.read passes count a f = some outcome) :
    IsBlock a (Tm11.readSize passes count f) outcome.calls := by
  unfold Tm11.read at h
  unfold Tm11.readSize
  cases hsearch : f.findDataRecordForward passes with
  | none =>
      rw [hsearch] at h
      cases h
  | some found =>
      obtain ⟨length, f'⟩ := found
      cases length with
      | none =>
          rw [hsearch] at h
          cases h
          rfl
      | some length =>
          rw [hsearch] at h
          dsimp only at h ⊢
          by_cases hlarge : Tm11.xferSize < count
          · rw [if_pos hlarge] at h
            cases h
            rw [if_neg (by omega)]
            rfl
          · rw [if_neg hlarge] at h
            have hlength := f'.fread_length (min count length)
            cases hread : f'.fread (min count length) with
            | mk data g =>
                rw [hread] at h hlength
                dsimp only at h hlength
                by_cases hleft : min count length ≤ f'.left
                · have hall : data.length = min count length :=
                    hlength.trans (Nat.min_eq_left hleft)
                  rw [if_neg (not_not.mpr hall), TapeFile.fseekCur_nat] at h
                  rw [if_pos ⟨by omega, hleft⟩, ← hall]
                  split at h <;> cases h <;> exact touched_stores a data
                · have hshort : data.length ≠ min count length := by
                    rw [hlength]
                    change min (min count length) f'.left ≠ min count length
                    omega
                  rw [if_pos hshort] at h
                  cases h
                  rw [if_neg fun h => hleft h.2]
                  rfl

theorem isBlock_write
    {passes count : Nat} {a : PhysAddr} {f : TapeFile} {outcome : TapeOutcome}
    (h : Tm11.write passes count a f = some outcome) :
    IsBlock a (Tm11.writeSize passes count f) outcome.calls := by
  unfold Tm11.write at h
  unfold Tm11.writeSize
  split at h
  · cases h
  · next hsearch =>
      cases h
      rw [hsearch]
      rfl
  · next hsearch =>
      rw [hsearch]
      dsimp only
      split at h
      · next hlarge =>
          cases h
          rw [if_neg (by omega)]
          rfl
      · next hsmall =>
          cases h
          rw [if_pos (by omega)]
          exact List.map_map

theorem spaceForward_calls
    {passes : Nat} {f : TapeFile} {outcome : TapeOutcome}
    (h : Tm11.spaceForward passes f = some outcome) :
    outcome.calls = [] := by
  unfold Tm11.spaceForward at h
  split at h
  · cases h
  · cases h
    rfl
  · split at h <;> cases h <;> rfl

theorem spaceBackward_calls
    {passes : Nat} {f : TapeFile} {outcome : TapeOutcome}
    (h : Tm11.spaceBackward passes f = some outcome) :
    outcome.calls = [] := by
  unfold Tm11.spaceBackward at h
  split at h
  · cases h
  · cases h
    rfl
  · split at h <;> cases h <;> rfl

theorem isBlock_command
    {passes : Nat} {t : Tm11} {v : Word} {outcome : TapeOutcome}
    (hgo : v &&& 1 ≠ 0) (h : Tm11.command passes v t = some outcome) :
    IsBlock ((t.registers (Tm11.regNr Tm11.mtcma)).setWidth 32)
      (Tm11.transferSize passes t Tm11.mtc v) outcome.calls := by
  unfold Tm11.command at h
  unfold Tm11.transferSize
  dsimp only at h ⊢
  rw [if_pos ⟨rfl, hgo⟩]
  by_cases hread : Tm11.func v = 1
  · rw [if_pos hread] at h ⊢
    exact isBlock_read h
  · rw [if_neg hread] at h ⊢
    by_cases hwrite : Tm11.func v = 2
    · rw [if_pos hwrite] at h ⊢
      exact isBlock_write h
    · rw [if_neg hwrite] at h ⊢
      have hnone : outcome.calls = [] := by
        split_ifs at h
        · exact spaceForward_calls h
        · exact spaceBackward_calls h
        · cases h
          rfl
        · cases h
          rfl
      rw [hnone]
      rfl

theorem transferSize_le
    (passes : Nat) (t : Tm11) (addr v : Word) :
    Tm11.transferSize passes t addr v ≤ Tm11.xferSize := by
  have hread : ∀ count (f : TapeFile),
      Tm11.readSize passes count f ≤ Tm11.xferSize := by
    intro count f
    unfold Tm11.readSize
    split
    · split <;> omega
    · exact Nat.zero_le _
  have hwrite : ∀ count (f : TapeFile),
      Tm11.writeSize passes count f ≤ Tm11.xferSize := by
    intro count f
    unfold Tm11.writeSize
    split
    · split <;> omega
    · exact Nat.zero_le _
  unfold Tm11.transferSize
  dsimp only
  split_ifs
  · exact hread _ _
  · exact hwrite _ _
  · exact Nat.zero_le _
  · exact Nat.zero_le _

theorem readSize_of_none
    {passes count : Nat} {a : PhysAddr} {f : TapeFile}
    (h : Tm11.read passes count a f = none) :
    Tm11.readSize passes count f = 0 := by
  unfold Tm11.read at h
  unfold Tm11.readSize
  split at h
  · next hsearch =>
      rw [hsearch]
  · cases h
  · next length f' hsearch =>
      unfold TapeFile.fread at h
      dsimp only at h
      rw [TapeFile.fseekCur_nat] at h
      split_ifs at h

theorem writeSize_of_none
    {passes count : Nat} {a : PhysAddr} {f : TapeFile}
    (h : Tm11.write passes count a f = none) :
    Tm11.writeSize passes count f = 0 := by
  unfold Tm11.write at h
  unfold Tm11.writeSize
  split at h
  · next hsearch =>
      rw [hsearch]
  · cases h
  · split at h <;> cases h

/-- A command that does not return has made no call. -/
theorem transferSize_of_none
    {passes : Nat} {t : Tm11} {v : Word} (h : Tm11.command passes v t = none) :
    Tm11.transferSize passes t Tm11.mtc v = 0 := by
  unfold Tm11.command at h
  unfold Tm11.transferSize
  dsimp only at h ⊢
  split_ifs at h ⊢
  · exact readSize_of_none h
  · exact writeSize_of_none h
  all_goals rfl

/-- The calls of a register write are the block that it moves. -/
theorem inside_writeWord
    (size : PhysAddr) (passes : Nat) (t : Tm11) (addr v : Word) :
    Inside size
        (match Tm11.writeWord passes t addr v with
          | some e => e.calls
          | none => []) ↔
      Tm11.transferSize passes t addr v = 0 ∨
        (t.registers (Tm11.regNr Tm11.mtcma)).toNat +
          Tm11.transferSize passes t addr v ≤ size.toNat := by
  by_cases hgo : addr = Tm11.mtc ∧ v &&& 1 ≠ 0
  · obtain ⟨rfl, hgo⟩ := hgo
    rw [Tm11.writeWord, if_pos rfl, if_pos hgo]
    cases hcommand : Tm11.command passes v t with
    | none =>
        exact iff_of_true inside_nil (.inl (transferSize_of_none hcommand))
    | some outcome =>
        have hlow : ((t.registers (Tm11.regNr Tm11.mtcma)).setWidth 32 :
            PhysAddr).toNat = (t.registers (Tm11.regNr Tm11.mtcma)).toNat := by
          rw [BitVec.toNat_setWidth]
          omega
        have hsize := transferSize_le passes t Tm11.mtc v
        have hblock : Inside size outcome.calls ↔ _ :=
          inside_block (isBlock_command hgo hcommand) (by
            rw [hlow]
            unfold Tm11.xferSize at hsize
            omega)
        rw [hlow] at hblock
        exact hblock
  · have hzero : Tm11.transferSize passes t addr v = 0 := by
      unfold Tm11.transferSize
      exact if_neg hgo
    have hcalls : ∃ e, Tm11.writeWord passes t addr v = some e ∧
        e.calls = [] := by
      unfold Tm11.writeWord
      split_ifs with hmtc hbit hmtcma
      · exact absurd ⟨hmtc, hbit⟩ hgo
      · exact ⟨_, rfl, rfl⟩
      · exact ⟨_, rfl, rfl⟩
      · exact ⟨_, rfl, rfl⟩
    obtain ⟨e, he, hnone⟩ := hcalls
    rw [he]
    dsimp only
    rw [hnone]
    exact iff_of_true inside_nil (.inl hzero)

end Blocks

/-- For every size of memory and every access: each byte that class memory
touches is in memory if and only if the access avoids the end. -/
theorem ram_access_inside_iff
    {δ : Type} (s : Machine δ) (access : RamAccess) :
    Inside s.ram.size (access.calls s) ↔ access.AvoidsEnd s := by
  cases access with
  | read a wordMode runMode space =>
      exact inside_busCalls (fun _ => ⟨rfl, rfl⟩) (fun _ => ⟨rfl, rfl⟩) wordMode
  | write a wordMode value runMode space =>
      exact inside_busCalls (fun _ => ⟨rfl, rfl⟩) (fun _ => ⟨rfl, rfl⟩) wordMode
  | readPhysical a =>
      exact (inside_checked _).trans (avoidsEnd_readWord _ a)
  | readPhysicalByte a =>
      exact iff_of_true ((inside_checked _).mpr nofun) trivial
  | writePhysical a value =>
      exact (inside_checked _).trans (avoidsEnd_writeWord _ a value)
  | peekWord runMode a =>
      exact inside_peekWord runMode a
  | unibus call =>
      exact inside_guarded call
  | receiver frame p =>
      exact inside_rxCalls frame p
  | transmitter n p =>
      exact inside_txCalls n p
  | tm11 passes t addr v =>
      exact inside_writeWord s.ram.size passes t addr v

/-- A word is read at the last byte of 8 KB. -/
theorem last_byte_read_physical :
    ¬ Inside (bareMachine 0o20000 []).ram.size
      ((RamAccess.readPhysical 0o17777).calls (bareMachine 0o20000 [])) := by
  decide

section Visits

variable {q : Deqna} {r r' : Ram} {p : PhysAddr}

/-- Words of a descriptor that lies in memory are not at its last byte. -/
theorem descriptor_avoidsEnd
    (hp : p.toNat + 12 < 2 ^ 32) (hroom : p + 12 ≤ r.size) :
    ∀ a ∈ [p, p + 2, p + 4, p + 6, p + 8, p + 10],
      a.toNat + 1 ≠ r.size.toNat := by
  intro a ha
  simp only [List.mem_cons, List.not_mem_nil, or_false] at ha
  rcases ha with rfl | rfl | rfl | rfl | rfl | rfl <;> bv_omega

/-- The receiver accesses no word at the last byte. -/
theorem receiver_avoidsEnd
    (h : Walks.Reaches (rxNext r) (q.listAddress 2) p)
    (hroom : p + 12 ≤ r.size) :
    ∀ a ∈ rxWords r p, a.toNat + 1 ≠ r.size.toNat := by
  have hp := reaches_lt h
  intro a ha
  refine descriptor_avoidsEnd (by omega) hroom a ?_
  unfold rxWords at ha
  split at ha <;> simp only [List.mem_append, List.mem_cons] at ha ⊢ <;> grind

/-- The walk of the transmitter stays in memory or in 22 bits. -/
theorem transmitter_reaches
    (h : Walks.Reaches txNext (q.listAddress 4, r) (p, r'))
    (hsize : r.size.toNat + 12 < 2 ^ 32) :
    r'.size = r.size ∧ (p.toNat < 2 ^ 22 ∨ p.toNat ≤ r.size.toNat) := by
  obtain ⟨n, hn⟩ := h
  induction n generalizing p r' with
  | zero =>
      cases hn
      exact ⟨rfl, .inl (low_address_lt _ _)⟩
  | succ n ih =>
      obtain ⟨⟨p', s⟩, hwalk, hnext⟩ := Option.bind_eq_some_iff.mp hn
      obtain ⟨hs, hp'⟩ := ih hwalk
      unfold txNext at hnext
      split at hnext
      · next htakes =>
          cases hnext
          refine ⟨(s.within_taken p').size.trans hs, ?_⟩
          unfold Descriptor.after
          split
          · exact .inl (low_address_lt _ _)
          · have hroom : p' + 12 ≤ s.size := htakes.1
            rw [hs] at hroom
            have hwrap : p'.toNat + 12 < 2 ^ 32 := by
              rcases hp' with hlow | hend
              · omega
              · exact Nat.lt_of_le_of_lt (Nat.add_le_add_right hend 12) hsize
            bv_omega
      · cases hnext

/-- Nor does the transmitter, unless memory reaches up to 12 bytes before the
end of the addresses. -/
theorem transmitter_avoidsEnd
    (h : Walks.Reaches txNext (q.listAddress 4, r) (p, r'))
    (hsize : r.size.toNat + 12 < 2 ^ 32) (hroom : p + 12 ≤ r'.size) :
    ∀ a ∈ txWords r' p, a.toNat + 1 ≠ r'.size.toNat := by
  obtain ⟨-, hp⟩ := transmitter_reaches h hsize
  intro a ha
  refine descriptor_avoidsEnd (by omega) hroom a ?_
  unfold txWords at ha
  split at ha <;> simp only [List.mem_append, List.mem_cons] at ha ⊢ <;> grind

end Visits

end KekPdp11
