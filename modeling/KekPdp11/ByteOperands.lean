import KekPdp11.ArithmeticFlags
import KekPdp11.Lib.Stops
import Mathlib.Tactic.FinCases

/-!
# KEK PDP-11: byte operands

A byte instruction asserts that its operands fit a byte.  Whether they do is
up to bus::read, which masks what it returns at byte width in most of its
branches: the console switches, the system identification, the line clock and
the system size are returned as words.

**Result.**  A byte read returns less than 256 unless it reaches one of these
registers while its value is larger, and the assertions on byte operands fail
in exactly the instructions that read a byte operand there.
-/

namespace KekPdp11

open StateExcept

variable {δ : Type}

section WideRegisters

variable [UnibusDevices δ]

/-- The registers that a byte read does not mask. -/
def wideRegisters : List Word :=
  [addrConsw, addrSystemId, addrLfc, addrSyssize + 2, addrSyssize]

/-- What a byte read of such a register returns; zero for the others. -/
def wordAtByte (s : Machine δ) (a : Word) : Word :=
  if a = addrConsw then s.consoleSwitches
  else if a = addrSystemId then 0o011064
  else if a = addrLfc then (UnibusDevices.readWord .kw11l a s.devices).value
  else if a = addrSyssize + 2 then
    ((systemSize s.ram.size) >>> 16).setWidth 16
  else if a = addrSyssize then (systemSize s.ram.size).setWidth 16
  else 0

theorem wordAtByte_of_notMem
    {a : Word} (h : a ∉ wideRegisters) (s : Machine δ) :
    wordAtByte s a = 0 := by
  simp only [wideRegisters, List.mem_cons, List.not_mem_nil, or_false,
    not_or] at h
  obtain ⟨hconsw, hid, hlfc, hhigh, hlow⟩ := h
  unfold wordAtByte
  rw [if_neg hconsw, if_neg hid, if_neg hlfc, if_neg hhigh, if_neg hlow]

omit [UnibusDevices δ] in
/-- No device has the addresses of the system size. -/
theorem deviceAt_syssize
    (attached : Slot → Bool) {a : Word}
    (h : a = addrSyssize ∨ a = addrSyssize + 2) :
    deviceAt attached a = none := by
  have hout : ∀ r ∈ deviceRanges,
      ¬ (r.2.1 ≤ addrSyssize ∧ addrSyssize < r.2.2) ∧
      ¬ (r.2.1 ≤ addrSyssize + 2 ∧ addrSyssize + 2 < r.2.2) := by
    decide
  unfold deviceAt
  rw [Option.map_eq_none_iff, List.find?_eq_none]
  intro r hr hfound
  simp only [Bool.and_eq_true, decide_eq_true_eq] at hfound
  rcases h with rfl | rfl
  · exact (hout r hr).1 ⟨hfound.1.2, hfound.2⟩
  · exact (hout r hr).2 ⟨hfound.1.2, hfound.2⟩

/-- A byte read of one of them returns its word. -/
theorem readIo_wide
    {a : Word} (h : a ∈ wideRegisters) (apf : BitVec 3) (s : Machine δ) :
    ∃ t, readIoVia trap a .wmByte apf s = .ok (wordAtByte s a) t := by
  simp only [wideRegisters, List.mem_cons, List.not_mem_nil, or_false] at h
  rcases h with rfl | rfl | rfl | rfl | rfl
  · exact ⟨_, rfl⟩
  · exact ⟨_, rfl⟩
  · let r := UnibusDevices.readWord .kw11l addrLfc s.devices
    exact ⟨{ s.log (.readIo addrLfc .wmByte) with
      devices := r.devices
      cpu := s.cpu.applyRequests r.requests }, rfl⟩
  · refine ⟨s.log (.readIo (addrSyssize + 2) .wmByte), ?_⟩
    change readDeviceIoVia trap (addrSyssize + 2) .wmByte
      (s.log (.readIo (addrSyssize + 2) .wmByte)) = _
    unfold readDeviceIoVia
    rw [view_bind_apply, deviceAt_syssize _ (.inr rfl)]
    rfl
  · refine ⟨s.log (.readIo addrSyssize .wmByte), ?_⟩
    change readDeviceIoVia trap addrSyssize .wmByte
      (s.log (.readIo addrSyssize .wmByte)) = _
    unfold readDeviceIoVia
    rw [view_bind_apply, deviceAt_syssize _ (.inl rfl)]
    rfl

omit [UnibusDevices δ] in
theorem setWidth_byte_lt
    (v : Byte) :
    (v.setWidth 16 : Word) < 256 := by
  rw [BitVec.lt_def, BitVec.toNat_setWidth_of_le (by omega)]
  exact v.isLt

theorem mask_byte_lt
    (v : Word) :
    v &&& 0xff < 256 := by
  rw [BitVec.lt_def, BitVec.toNat_and]
  exact Nat.lt_succ_of_le Nat.and_le_right

theorem high_byte_lt
    (v : Word) :
    v >>> 8 < 256 := by
  rw [BitVec.lt_def, BitVec.toNat_ushiftRight]
  rw [Nat.shiftRight_eq_div_pow]
  exact Nat.div_lt_of_lt_mul v.isLt

omit [UnibusDevices δ] in
/-- The registers of the processor and the MMU at byte width. -/
theorem plainRegister_lt
    {s : Machine δ} {a v : Word} (h : plainRegister s a .wmByte = some v) :
    v < 256 := by
  simp only [plainRegister] at h
  split_ifs at h <;> cases h <;>
    first | exact mask_byte_lt _ | exact high_byte_lt _

/-- Every other byte read is masked. -/
theorem readIo_narrow
    {a : Word} (h : a ∉ wideRegisters) {apf : BitVec 3} {s t : Machine δ}
    {v : Word} (hread : readIoVia trap a .wmByte apf s = .ok v t) :
    v < 256 := by
  simp only [wideRegisters, List.mem_cons, List.not_mem_nil, or_false,
    not_or] at h
  obtain ⟨hconsw, hid, hlfc, hhigh, hlow⟩ := h
  have hlt : Triple (fun _ => True)
      (readIoVia trap a .wmByte apf : Exec δ Word) (fun v _ => v < 256)
      (fun _ _ => True) := by
    refine (Triple.any _).bind fun _ => .view_bind_any fun register => ?_
    split
    · exact .pure fun _ _ => mask_byte_lt _
    · refine .ite (fun hodd => nomatch hodd.2) fun _ => ?_
      refine .ite (fun _ => .view fun _ _ => mask_byte_lt _) fun _ => ?_
      refine .ite (fun _ => .pure fun _ _ => by decide) fun _ => ?_
      refine .ite (fun ha => absurd ha hconsw) fun _ => ?_
      refine .ite (fun _ => .view fun _ _ => ?_) fun _ => ?_
      · dsimp only
        split
        · exact mask_byte_lt _
        · exact high_byte_lt _
      refine .ite (fun ha => absurd ha hid) fun _ => ?_
      refine .ite (fun ha => absurd ha hlfc) fun _ => ?_
      refine .ite (fun _ => .pure fun _ _ => by decide) fun _ => ?_
      refine .ite (fun _ => .view fun _ _ => setWidth_byte_lt _) fun _ => ?_
      refine .ite (fun _ => .pure fun _ _ => by decide) fun _ => ?_
      refine .ite (fun _ => .pure fun _ _ => by decide) fun _ => ?_
      refine .ite (fun _ => .pure fun _ _ => by decide) fun _ => ?_
      refine .view_bind fun register => ?_
      split
      · exact .pure fun _ hs => plainRegister_lt hs.2
      · refine .view_bind_any fun slot => ?_
        split
        · refine (Triple.any _).bind fun b => ?_
          exact .pure fun _ _ => setWidth_byte_lt b
        · refine .view_bind_any fun size => ?_
          refine .ite (fun ha => absurd ha hhigh) fun _ => ?_
          refine .ite (fun ha => absurd ha hlow) fun _ => ?_
          exact (Triple.any _).bind fun _ => .raise fun _ _ => trivial
  exact hlt.ok trivial hread

end WideRegisters

section Reads

variable [UnibusDevices δ]

/-- A byte read at this reference returns a word that is no byte. -/
def Machine.WideAt (s : Machine δ) (runMode : RunMode) (a : Word)
    (space : Space) : Prop :=
  ∃ r, s.target runMode a space = .io r ∧ 256 ≤ wordAtByte s r

theorem mem_wideRegisters
    {s : Machine δ} {r : Word} (h : 256 ≤ wordAtByte s r) :
    r ∈ wideRegisters := by
  by_contra hnot
  rw [wordAtByte_of_notMem hnot] at h
  exact absurd h (by decide)

variable {s t : Machine δ} {a v : Word} {runMode : RunMode} {space : Space}

theorem Bus.read_wide
    (h : s.WideAt runMode a space) :
    ∃ v t, Bus.read a .wmByte runMode space s = .ok v t ∧ ¬ v < 256 := by
  obtain ⟨r, htarget, hwide⟩ := h
  obtain ⟨t, hread⟩ := readIo_wide (mem_wideRegisters hwide)
    (activePageField a) s
  refine ⟨wordAtByte s r, t, ?_, BitVec.not_lt.mpr hwide⟩
  rw [Bus.read_eq, htarget]
  exact noteAbort_of_ok hread

/-- A byte read that returns gives a byte unless its register is wide. -/
theorem Bus.read_byte_lt_iff
    (hread : Bus.read a .wmByte runMode space s = .ok v t) :
    v < 256 ↔ ¬ s.WideAt runMode a space := by
  constructor
  · intro hlt hwide
    obtain ⟨v', t', hread', hge⟩ := Bus.read_wide hwide
    cases hread.symm.trans hread'
    exact hge hlt
  · intro hnarrow
    rw [Bus.read_eq] at hread
    cases hserve : serveRead (s.target runMode a space) .wmByte
        (activePageField a) s with
    | error e u =>
        rw [noteAbort_of_error hserve] at hread
        cases hread
    | ok v' u =>
        rw [noteAbort_of_ok hserve] at hread
        cases hread
        cases htarget : s.target runMode a space with
        | accessFault page =>
            obtain ⟨u, hthrow⟩ := abortAccess_throws (α := Word) page s
            rw [htarget] at hserve
            cases hserve.symm.trans hthrow
        | lengthFault page =>
            obtain ⟨u, hthrow⟩ := abortLength_throws (α := Word) page s
            rw [htarget] at hserve
            cases hserve.symm.trans hthrow
        | boundsFault page =>
            obtain ⟨u, hthrow⟩ := abortBounds_throws (α := Word) page s
            rw [htarget] at hserve
            cases hserve.symm.trans hthrow
        | ram p page =>
            rw [htarget] at hserve
            cases hserve
            exact setWidth_byte_lt _
        | io r =>
            rw [htarget] at hserve
            by_cases hmem : r ∈ wideRegisters
            · obtain ⟨u', hwide⟩ := readIo_wide hmem (activePageField a) s
              cases hserve.symm.trans hwide
              exact BitVec.not_le.mp fun hge => hnarrow ⟨r, htarget, hge⟩
            · exact readIo_narrow hmem hserve

end Reads

section Calm

/-- The program does not fail the assertion on byte operands. -/
abbrev Calm {α : Type} (m : Exec δ α) : Prop :=
  Avoids (.assertion .byteOperand) m

theorem Calm.of_throws
    {α : Type} {m : Exec δ α}
    (h : Triple (fun _ => True) m (fun _ _ => True) Throws) :
    Calm m :=
  .of_triple h fun t hthrows => by
    obtain ⟨number, heq⟩ := hthrows
    cases heq

theorem Calm.of_setsCodes
    {f : ConditionCodes → ConditionCodes} {m : Exec δ Unit}
    (h : SetsCodes f m) :
    Calm m :=
  .of_returns fun s => by
    obtain ⟨c, hrun, -⟩ := h s
    exact ⟨_, _, hrun⟩

theorem calm_assertThat
    {failed : Assertion} {c : Bool}
    (h : failed = .byteOperand → c = true) :
    Calm (assertThat failed c : Exec δ Unit) :=
  .ite (fun _ => .pure _) fun hc => .raise fun heq => by
    cases heq
    exact hc (h rfl)

theorem calm_onlyIf
    (c : Bool) {m : Exec δ Unit} (h : Calm m) :
    Calm (onlyIf c m) :=
  .ite (fun _ => h) fun _ => .pure _

theorem calm_addRegister
    (nr : RegNr) (value : Word) :
    Calm (addRegister nr value : Exec δ Word) :=
  .of_returns fun _ => ⟨_, _, rfl⟩

theorem calm_addToMMR1
    (reg : RegNr) {delta : Int} (hdelta : -2 ≤ delta ∧ delta ≤ 2) :
    Calm (addToMMR1 reg delta : Exec δ Unit) :=
  .of_returns fun s => ⟨_, _, addToMMR1_apply reg s hdelta⟩

theorem calm_mmuAddToMMR1
    (delta : Int) (reg : RegNr) :
    Calm (mmuAddToMMR1 delta reg : Exec δ Unit) := by
  unfold mmuAddToMMR1
  refine .bind (calm_assertThat ?_) fun _ => .view_bind fun locked =>
    .bind (calm_assertThat ?_) fun _ => .update _
  · nofun
  · nofun

variable [UnibusDevices δ]

theorem calm_read
    (a : Word) (wordMode : WordMode) (runMode : RunMode) (space : Space) :
    Calm (Bus.read a wordMode runMode space : Exec δ Word) :=
  .of_throws (Bus.read_throws _ _ _ _)

theorem calm_write
    (a : Word) (wordMode : WordMode) (value : Word) (runMode : RunMode)
    (space : Space) :
    Calm (Bus.write a wordMode value runMode space : Exec δ Bool) :=
  .of_throws (Bus.write_throws _ _ _ _ _)

theorem calm_trap
    (vector : Word) (newIpl : Option Level) :
    Calm (trap vector newIpl : Exec δ Unit) :=
  .of_returns fun s => ⟨(), trap_returns vector newIpl s⟩

theorem calm_pushStack
    (v : Word) :
    Calm (pushStack v : Exec δ Unit) :=
  .of_throws (Alike.throws (trap_alike.pushStack (Nat.zero_le _) v))

theorem calm_popStack :
    Calm (popStack : Exec δ Word) := by
  refine .view_bind fun a => .bind ?_ fun temp => ?_
  · exact .view_bind fun runMode => calm_read _ _ _ _
  · exact (calm_addRegister _ _).bind fun _ => .pure _

theorem calm_gamAddress
    (mode reg : RegNr) (wordMode : WordMode) (runMode : RunMode) :
    Calm (gamAddress mode reg wordMode runMode :
      Exec δ (Word × Space × Space)) := by
  unfold gamAddress
  dsimp only
  split
  · exact .view_bind fun addr => .pure _
  · refine .view_bind fun addr => (calm_addRegister _ _).bind fun _ => ?_
    exact (calm_addToMMR1 _ (autoDelta_range _ _)).bind fun _ => .pure _
  · refine .view_bind fun pointer => (calm_read _ _ _ _).bind fun addr => ?_
    refine (calm_addToMMR1 _ (by omega)).bind fun _ => ?_
    exact (calm_addRegister _ _).bind fun _ => .pure _
  · refine (calm_addRegister _ _).bind fun addr => ?_
    exact (calm_addToMMR1 _ (neg_autoDelta_range _ _)).bind fun _ => .pure _
  · refine (calm_addRegister _ _).bind fun pointer => ?_
    refine (calm_addToMMR1 _ (by omega)).bind fun _ => ?_
    exact (calm_read _ _ _ _).bind fun addr => .pure _
  · refine .view_bind fun pc => (calm_read _ _ _ _).bind fun nextWord => ?_
    refine (calm_addRegister _ _).bind fun _ => .view_bind fun base => ?_
    exact .pure _
  · refine .view_bind fun pc => (calm_read _ _ _ _).bind fun nextWord => ?_
    refine (calm_addRegister _ _).bind fun _ => .view_bind fun base => ?_
    exact (calm_read _ _ _ _).bind fun addr => .pure _

theorem calm_destination
    (mode reg : RegNr) (wordMode : WordMode) :
    Calm (destination mode reg wordMode :
      Exec δ (DestinationRef × DestinationRef)) :=
  .view_bind fun _ => (calm_gamAddress _ _ _ _).bind fun _ => .pure _

theorem calm_writeOperand
    (g : GamRc) (value : Word) :
    Calm (writeOperand g value : Exec δ Bool) :=
  .view_bind fun _ => (calm_write _ _ _ _ _).bind fun _ => .pure _

/-- putGAM of a result that fits. -/
theorem calm_putGAM
    {g : GamRc} {value : Word} (h : fits value g.wordMode = true) :
    Calm (putGAM g value : Exec δ Bool) := by
  refine (calm_assertThat fun _ => h).bind fun _ => ?_
  refine .ite (fun _ => calm_writeOperand _ _) fun _ => ?_
  exact (Avoids.update _).bind fun _ => .pure _

/-- getGAM of a word, and getGAMAddress. -/
theorem calm_getGAM
    (mode reg : RegNr) {wordMode : WordMode} {readValue : Bool}
    (h : wordMode = .wmWord ∨ readValue = false) :
    Calm (getGAM mode reg wordMode readValue : Exec δ GamRc) := by
  refine .ite (fun _ => .view_bind fun v => .pure _) fun _ => ?_
  refine .view_bind fun runMode => ?_
  refine (calm_gamAddress _ _ _ _).bind fun target => ?_
  dsimp only
  rcases h with rfl | rfl
  · refine .bind (.ite (fun _ => calm_read _ _ _ _) fun _ => .pure _)
      fun value => ?_
    exact (calm_assertThat fun _ => fits_word value).bind fun _ => .pure _
  · rw [if_neg (by decide), pure_bind]
    exact (calm_assertThat fun _ => fits_zero wordMode).bind fun _ => .pure _

end Calm

section Operands

variable [UnibusDevices δ]

/-- The program fails the assertion on a byte operand. -/
abbrev Asserts {α : Type} (m : Exec δ α) (s t : Machine δ) : Prop :=
  m s = .error (.assertion .byteOperand) t

/-- The operand is in memory, and its register is wide when it is read. -/
def Machine.WideOperand (s : Machine δ) (mode reg : RegNr) : Prop :=
  mode ≠ 0 ∧ ∃ refs t, destination mode reg .wmByte s = .ok refs t ∧
    t.WideAt refs.1.runMode refs.1.addr refs.1.space

variable {s : Machine δ} {mode reg : RegNr} {wordMode : WordMode}

/-- getGAM asserts on the wide operands. -/
theorem getGAM_asserts_iff :
    (∃ t, Asserts (getGAM mode reg .wmByte true) s t) ↔
      s.WideOperand mode reg := by
  by_cases hmode : mode = 0
  · subst hmode
    constructor
    · rintro ⟨t, ht⟩
      cases ht
    · rintro ⟨hne, -⟩
      exact absurd rfl hne
  · rw [getGAM_memory reg .wmByte hmode]
    constructor
    · rintro ⟨t, ht⟩
      obtain ⟨refs, u, hrefs, ht⟩ :=
        (bind_eq_error_right (calm_destination _ _ _)).mp ht
      obtain ⟨value, u', hread, ht⟩ :=
        (bind_eq_error_right (calm_read _ _ _ _)).mp ht
      refine ⟨hmode, refs, u, hrefs, not_not.mp fun hnarrow => ?_⟩
      have hlt := (Bus.read_byte_lt_iff hread).mpr hnarrow
      rw [decide_eq_true hlt] at ht
      cases ht
    · rintro ⟨-, refs, u, hrefs, hwide⟩
      obtain ⟨value, u', hread, hge⟩ := Bus.read_wide hwide
      refine ⟨u', (bind_of_ok hrefs).trans ((bind_of_ok hread).trans ?_)⟩
      rw [decide_eq_false hge]
      rfl

/-- What getGAM returns fits the assertion of putGAM. -/
theorem fits_getGAM
    {g : GamRc} {t : Machine δ}
    (h : getGAM mode reg wordMode true s = .ok g t) :
    fits g.value wordMode = true := by
  have hlt := getGAM_lt h
  cases wordMode with
  | wmWord =>
      exact fits_word _
  | wmByte =>
      rw [fits, decide_eq_true (BitVec.lt_def.mpr hlt), Bool.true_or]

theorem getGAM_wordMode
    {readValue : Bool} {g : GamRc} {t : Machine δ}
    (h : getGAM mode reg wordMode readValue s = .ok g t) :
    g.wordMode = wordMode := by
  have hpost : Triple (fun _ => True)
      (getGAM mode reg wordMode readValue : Exec δ GamRc)
      (fun g _ => g.wordMode = wordMode) (fun _ _ => True) := by
    refine .ite (fun _ => .view_bind_any fun v => .pure fun _ _ => rfl)
      fun _ => .view_bind_any fun runMode => ?_
    refine (Triple.any _).bind fun target => (Triple.any _).bind fun value => ?_
    exact (Triple.any _).bind fun _ => .pure fun _ _ => rfl
  exact hpost.ok trivial h

end Operands

section Instructions

variable [UnibusDevices δ]

namespace Modification

variable {i : Modification} {src : Word} {wordMode : WordMode}
  {mode reg srcMode srcReg : RegNr} {s t : Machine δ}

omit [UnibusDevices δ] in
theorem calm_early
    (i : Modification) (value : Word) :
    Calm (i.early value : Exec δ Unit) :=
  .of_setsCodes (i.early_sets value)

theorem calm_writeBack
    (hword : i.WordOnly → wordMode = .wmWord) (src : Word)
    (result : DestinationRef) (value : Word) :
    Calm (i.writeBack src wordMode result value : Exec δ Bool) := by
  refine .view_bind fun codes => (i.calm_early value).bind fun _ => ?_
  refine (calm_write _ _ _ _ _).bind fun isPsw => ?_
  obtain ⟨f, hf, -⟩ := flags_sets (δ := δ) hword src value codes
  exact (calm_onlyIf _ (.of_setsCodes hf)).bind fun _ => .pure _

/-- An instruction without a source operand has none to return from. -/
theorem execute_of_source_error
    {e : Stop} (hword : i.WordOnly → wordMode = .wmWord)
    (h : i.source srcMode srcReg wordMode s = .error e t) :
    i.execute srcMode srcReg mode reg wordMode s = .error e t := by
  have hgam : (getGAM srcMode srcReg wordMode true >>= fun g =>
      pure g.value : Exec δ Word) s = .error e t →
        getGAM srcMode srcReg wordMode true s = .error e t := by
    intro h
    refine (bind_eq_error_left fun g u _ => ?_).mp h
    nofun
  cases i with
  | add | sub =>
      cases hword trivial
      exact bind_of_error (hgam h)
  | bic | bis =>
      exact bind_of_error (hgam h)
  | _ =>
      cases h

/-- An instruction that modifies its destination asserts on its operands. -/
theorem execute_asserts_iff
    (hword : i.WordOnly → wordMode = .wmWord) :
    Asserts (i.execute srcMode srcReg mode reg wordMode) s t ↔
      Asserts (do
        let _ ← i.source srcMode srcReg wordMode
        getGAM mode reg wordMode true) s t := by
  rw [Asserts, Asserts, bind_eq_error_iff]
  cases hsrc : i.source srcMode srcReg wordMode s with
  | error e u =>
      rw [execute_of_source_error hword hsrc]
      constructor
      · intro h
        cases h
        exact .inl rfl
      · rintro (h | ⟨src, u', h, -⟩)
        · cases h
          rfl
        · cases h
  | ok src u =>
      by_cases hmode : mode = 0
      · subst hmode
        obtain ⟨t', ht', -⟩ :=
          i.execute_register srcMode srcReg hword hsrc
        rw [ht']
        constructor
        · intro h
          cases h
        · rintro (h | ⟨src', u', h, hgam⟩)
          · cases h
          · cases hgam
      · have hforms : Asserts (i.readModifyWrite src wordMode mode reg) u t ↔
            Asserts (getGAM mode reg wordMode true) u t := by
          rw [getGAM_memory reg wordMode hmode]
          unfold readModifyWrite
          rw [Asserts, Asserts, bind_eq_error_right (calm_destination _ _ _),
            bind_eq_error_right (calm_destination _ _ _)]
          refine exists_congr fun refs => exists_congr fun u₁ =>
            and_congr_right fun _ => ?_
          have hread : Calm (refs.1.read wordMode : Exec δ Word) :=
            calm_read _ _ _ _
          dsimp only
          rw [bind_eq_error_right hread, bind_eq_error_right hread]
          refine exists_congr fun value => exists_congr fun u₂ =>
            and_congr_right fun _ => ?_
          rw [bind_eq_error_left fun _ _ _ =>
              calm_writeBack hword src refs.2 value _ _,
            bind_eq_error_left fun _ _ _ => Avoids.pure _ _ _]
          rfl
        rw [i.execute_eq_readModifyWrite wordMode srcMode srcReg reg hword
          hmode, bind_of_ok hsrc]
        constructor
        · intro h
          exact .inr ⟨src, u, rfl, hforms.mp h⟩
        · rintro (h | ⟨src', u', h, hgam⟩)
          · cases h
          · cases h
            exact hforms.mpr hgam

/-- None of them asserts on words. -/
theorem calm_word
    (i : Modification) (srcMode srcReg mode reg : RegNr) :
    Calm (i.execute srcMode srcReg mode reg .wmWord : Exec δ Bool) := by
  intro s t hstop
  have hsource : Calm (i.source srcMode srcReg .wmWord : Exec δ Word) := by
    cases i with
    | add | sub | bic | bis =>
        exact (calm_getGAM _ _ (.inl rfl)).bind fun _ => .pure _
    | xor =>
        exact .view _
    | _ =>
        exact .pure _
  have hoperands : Calm (do
      let _ ← i.source srcMode srcReg .wmWord
      getGAM mode reg .wmWord true : Exec δ GamRc) :=
    hsource.bind fun _ => calm_getGAM _ _ (.inl rfl)
  exact hoperands s t ((execute_asserts_iff fun _ => rfl).mp hstop)

end Modification

variable {mode reg srcMode srcReg : RegNr} {wordMode : WordMode}
  {s t : Machine δ}

/-- MOV asserts on its source. -/
theorem opMov_asserts_iff :
    Asserts (opMov srcMode srcReg mode reg wordMode) s t ↔
      Asserts (getGAM srcMode srcReg wordMode true) s t := by
  refine bind_eq_error_left fun g u hg => ?_
  have hrest : Calm (do
      let setFlags ←
        (if wordMode = .wmByte ∧ mode = 0 then do
          setRegister reg ((g.value.setWidth 8).signExtend 16)
          pure true
        else do
          let gDst ← getGAMAddress mode reg wordMode
          putGAM gDst g.value)
      onlyIf setFlags (setPSWFlagsNzv g.value wordMode)
      pure true : Exec δ Bool) := by
    refine .bind (.ite (fun _ => ?_) fun _ => ?_) fun setFlags => ?_
    · exact (Avoids.update _).bind fun _ => .pure _
    · intro s t hstop
      obtain ⟨gDst, u, hdst, hstop⟩ :=
        (bind_eq_error_right (calm_getGAM _ _ (.inr rfl))).mp hstop
      refine calm_putGAM ?_ _ _ hstop
      rw [getGAM_wordMode hdst]
      exact fits_getGAM hg
    · refine (calm_onlyIf _ ?_).bind fun _ => .pure _
      exact .of_setsCodes (.setPSWFlagsNzv _ _)
  exact hrest u t

/-- CMP asserts on its operands. -/
theorem opCmp_asserts_iff :
    Asserts (opCmp srcMode srcReg mode reg wordMode) s t ↔
      Asserts (do
        let _ ← getGAM srcMode srcReg wordMode true
        getGAM mode reg wordMode true) s t := by
  rw [Asserts, Asserts, bind_eq_error_iff]
  unfold opCmp
  rw [bind_eq_error_iff]
  refine or_congr_right (exists_congr fun g => exists_congr fun u =>
    and_congr_right fun _ => ?_)
  refine bind_eq_error_left fun gDst u' _ => ?_
  refine Avoids.bind (Calm.of_setsCodes (.setNZ _ _)) (fun _ => ?_) u' t
  exact (Avoids.update _).bind fun _ => (Avoids.update _).bind fun _ => .pure _

/-- BIT asserts on its operands. -/
theorem opBit_asserts_iff :
    Asserts (opBit srcMode srcReg mode reg wordMode) s t ↔
      Asserts (do
        let _ ← getGAM srcMode srcReg wordMode true
        getGAM mode reg wordMode true) s t := by
  rw [Asserts, Asserts, bind_eq_error_iff]
  unfold opBit
  rw [bind_eq_error_iff]
  refine or_congr_right (exists_congr fun g => exists_congr fun u =>
    and_congr_right fun _ => ?_)
  refine bind_eq_error_left fun gDst u' _ => ?_
  exact (Avoids.update _).bind (fun _ => .pure true) u' t

/-- TST asserts on its operand. -/
theorem opTst_asserts_iff :
    Asserts (opTst mode reg wordMode) s t ↔
      Asserts (getGAM mode reg wordMode true) s t := by
  refine bind_eq_error_left fun g u _ => ?_
  exact (Avoids.update _).bind (fun _ => (Avoids.update _).bind fun _ =>
    .pure true) u t

/-- CLR does not read its operand. -/
theorem calm_opClr
    (mode reg : RegNr) (wordMode : WordMode) :
    Calm (opClr mode reg wordMode : Exec δ Bool) := by
  refine .bind (.ite (fun _ => ?_) fun _ => ?_) fun setFlags => ?_
  · exact .view_bind fun v => (Avoids.update _).bind fun _ => .pure _
  · exact (calm_getGAM _ _ (.inr rfl)).bind fun gDst =>
      calm_putGAM (fits_zero _)
  · exact (calm_onlyIf _ (.of_setsCodes OperandInstruction.clr_sets)).bind
      fun _ => .pure _

end Instructions

section OtherInstructions

theorem calm_registerPair
    (reg : RegNr) :
    Calm (registerPair reg : Exec δ (BitVec 32)) :=
  .of_returns fun _ => ⟨_, _, rfl⟩

theorem calm_shifter
    (value : BitVec 32) (shift : Nat) (is32b : Bool) :
    Calm (shifter value shift is32b : Exec δ (BitVec 32)) := by
  refine (Avoids.update _).bind fun _ => .bind ?_ fun value => ?_
  · refine .ite (fun _ => ?_) fun _ => .ite (fun _ => ?_) fun _ =>
      .ite (fun _ => ?_) fun _ => ?_
    · exact (Avoids.update _).bind fun _ => .pure _
    · refine (Avoids.update _).bind fun _ => ?_
      exact (calm_onlyIf _ (.update _)).bind fun _ => .pure _
    · refine (Avoids.update _).bind fun _ => ?_
      exact (Avoids.update _).bind fun _ => .pure _
    · refine (Avoids.update _).bind fun _ => ?_
      exact (Avoids.update _).bind fun _ => .pure _
  · refine (Avoids.update _).bind fun _ => ?_
    exact (Avoids.update _).bind fun _ => .pure _

theorem calm_conditionalBranchInstructions
    (instr : Word) :
    Calm (conditionalBranchInstructions instr : Exec δ Bool) := by
  refine .view_bind fun take => ?_
  cases take with
  | none =>
      exact .pure _
  | some take =>
      refine (calm_onlyIf take ?_).bind fun _ => .pure _
      exact (calm_addRegister _ _).bind fun _ => .pure _

theorem calm_conditionCodeOperations
    (instr : Word) :
    Calm (conditionCodeOperations instr : Exec δ Bool) := by
  refine .ite (fun _ => .pure _) fun _ => .ite (fun _ => ?_) fun _ =>
    .ite (fun _ => ?_) fun _ => .pure _
  · refine .view_bind fun runMode => ?_
    exact (calm_onlyIf _ (.update _)).bind fun _ => .pure _
  · refine (calm_onlyIf _ (.update _)).bind fun _ => ?_
    refine (calm_onlyIf _ (.update _)).bind fun _ => ?_
    refine (calm_onlyIf _ (.update _)).bind fun _ => ?_
    exact (calm_onlyIf _ (.update _)).bind fun _ => .pure _

variable [UnibusDevices δ]

section Words

variable (reg dstMode dstReg : RegNr)

theorem calm_opMul :
    Calm (opMul reg dstMode dstReg : Exec δ Bool) :=
  .view_bind fun _ => (calm_getGAM _ _ (.inl rfl)).bind fun _ =>
    .of_returns fun _ => ⟨_, _, rfl⟩

theorem calm_opDiv :
    Calm (opDiv reg dstMode dstReg : Exec δ Bool) := by
  refine (calm_getGAM _ _ (.inl rfl)).bind fun r2g => ?_
  refine (calm_registerPair _).bind fun r0r1 => ?_
  refine .ite (fun _ => .of_returns fun _ => ⟨_, _, rfl⟩) fun _ => ?_
  refine .ite (fun _ => .of_returns fun _ => ⟨_, _, rfl⟩) fun _ => ?_
  refine (Avoids.update _).bind fun _ => (Avoids.update _).bind fun _ => ?_
  refine (Avoids.update _).bind fun _ => .ite (fun _ => ?_) fun _ => ?_
  · exact (Avoids.update _).bind fun _ => .pure _
  · exact .of_returns fun _ => ⟨_, _, rfl⟩

theorem calm_opAsh :
    Calm (opAsh reg dstMode dstReg : Exec δ Bool) := by
  refine .view_bind fun r => (calm_getGAM _ _ (.inl rfl)).bind fun gDst => ?_
  exact (calm_shifter _ _ _).bind fun _ =>
    (Avoids.update _).bind fun _ => .pure _

theorem calm_opAshc :
    Calm (opAshc reg dstMode dstReg : Exec δ Bool) := by
  refine (calm_registerPair _).bind fun r0r1 => ?_
  refine (calm_getGAM _ _ (.inl rfl)).bind fun gDst => ?_
  exact (calm_shifter _ _ _).bind fun _ => .of_returns fun _ => ⟨_, _, rfl⟩

theorem calm_additionalDoubleOperandInstructions
    (instr : Word) :
    Calm (additionalDoubleOperandInstructions instr : Exec δ Bool) := by
  unfold additionalDoubleOperandInstructions
  dsimp only
  split
  · exact calm_opMul _ _ _
  · exact calm_opDiv _ _ _
  · exact calm_opAsh _ _ _
  · exact calm_opAshc _ _ _
  · exact Modification.xor.calm_word 0 _ _ _
  · refine (calm_addRegister _ _).bind fun v => ?_
    refine (calm_onlyIf _ ?_).bind fun _ => .pure _
    exact .view_bind fun pc => .update _
  · exact .pure _

end Words

section Stack

variable (dstMode dstReg : RegNr) (wordMode : WordMode)

theorem calm_opMfp :
    Calm (opMfp dstMode dstReg wordMode : Exec δ Bool) := by
  refine .bind (.ite (fun _ => .ite (fun _ => .view _) fun _ => .view _)
    fun _ => ?_) fun v => ?_
  · refine (calm_getGAM _ _ (.inl rfl)).bind fun a => ?_
    exact .view_bind fun prev => calm_read _ _ _ _
  · refine (Calm.of_setsCodes (.setPSWFlagsNzv _ _)).bind fun _ => ?_
    exact (calm_pushStack v).bind fun _ => .pure _

theorem calm_opMtp :
    Calm (opMtp dstMode dstReg wordMode : Exec δ Bool) := by
  refine calm_popStack.bind fun v => .bind (.ite (fun _ => ?_) fun _ => ?_)
    fun setFlags => ?_
  · refine .bind (.ite (fun _ => .update _) fun _ => .update _) fun _ => ?_
    exact .pure _
  · refine (calm_getGAM _ _ (.inl rfl)).bind fun a => .view_bind fun prev => ?_
    exact (calm_write _ _ _ _ _).bind fun _ => .pure _
  · refine (calm_onlyIf _ ?_).bind fun _ => .pure _
    exact .of_setsCodes (.setPSWFlagsNzv _ _)

theorem calm_opMark
    (dst : Word) :
    Calm (opMark dst : Exec δ Bool) := by
  refine .view_bind fun pc => (Avoids.update _).bind fun _ => ?_
  refine .view_bind fun r5 => (Avoids.update _).bind fun _ => ?_
  exact calm_popStack.bind fun v => (Avoids.update _).bind fun _ => .pure _

theorem calm_reservedInstruction :
    Calm (reservedInstruction : Exec δ Bool) :=
  (calm_trap _ _).bind fun _ => .pure _

theorem calm_opRti :
    Calm (opRti : Exec δ Bool) := by
  refine calm_popStack.bind fun pc => (Avoids.update _).bind fun _ => ?_
  refine calm_popStack.bind fun v => .view_bind fun runMode => ?_
  exact (Avoids.update _).bind fun _ => .pure _

theorem calm_opReset :
    Calm (opReset : Exec δ Bool) := by
  refine .view_bind fun runMode => .bind (calm_onlyIf _ ?_) fun _ => .pure _
  refine .bind (.of_returns fun s => ?_) fun _ => .update _
  obtain ⟨t, ht, -⟩ := Bus.reset_watched s
  exact ⟨(), t, ht⟩

theorem calm_opJsr
    (linkReg : RegNr) :
    Calm (opJsr linkReg dstMode dstReg : Exec δ Bool) := by
  refine .ite (fun _ => .pure _) fun _ => ?_
  refine (calm_getGAM _ _ (.inl rfl)).bind fun a => .view_bind fun link => ?_
  refine (calm_pushStack _).bind fun _ => .view_bind fun locked => ?_
  refine .bind (.ite (fun _ => .pure _) fun _ => ?_) fun _ => ?_
  · exact calm_mmuAddToMMR1 _ _
  · refine .view_bind fun pc => (Avoids.update _).bind fun _ => ?_
    exact (Avoids.update _).bind fun _ => .pure _

theorem calm_opRts
    (linkReg : RegNr) :
    Calm (opRts linkReg : Exec δ Bool) := by
  refine .view_bind fun link => (Avoids.update _).bind fun _ => ?_
  refine .view_bind fun sp => .bind ?_ fun wordOnStack => ?_
  · exact .view_bind fun runMode => calm_read _ _ _ _
  · refine (Avoids.update _).bind fun _ => ?_
    refine (calm_onlyIf _ ?_).bind fun _ => .pure _
    exact (calm_addRegister _ _).bind fun _ => .pure _

theorem calm_miscOperations
    (instr : Word) :
    Calm (miscOperations instr : Exec δ Bool) := by
  have htrap : ∀ vector, Calm (opTrap vector : Exec δ Bool) :=
    fun vector => (calm_trap vector none).bind fun _ => .pure _
  unfold miscOperations
  split
  · refine .view_bind fun runMode => .ite (fun _ => ?_) fun _ => ?_
    · exact (Avoids.update _).bind fun _ => .pure _
    · exact calm_reservedInstruction
  · exact .view_bind fun pending => .ite (fun _ => .pure _) fun _ =>
      .raise nofun
  · exact calm_opRti
  · exact htrap _
  · exact htrap _
  · exact calm_opReset
  · exact calm_opRti
  · exact htrap _
  · refine .ite (fun _ => htrap _) fun _ => .ite (fun _ => htrap _) fun _ =>
      .ite (fun _ => ?_) fun _ => .ite (fun _ => calm_opJsr _ _ _) fun _ =>
      .ite (fun _ => calm_opRts _) fun _ => .pure _
    refine .ite (fun _ => .pure _) fun _ => ?_
    exact (calm_getGAM _ _ (.inl rfl)).bind fun g =>
      (Avoids.update _).bind fun _ => .pure _

end Stack

end OtherInstructions

section Dispatch

/-- The byte instructions with a source operand. -/
def HasByteSource (instr : Word) : Prop :=
  instrWordMode instr = .wmByte ∧ field instr 12 ∈ [1, 2, 3, 4, 5]

/-- The byte instructions that read their destination: all with a source but
MOVB, and those with one operand from COMB to ASLB. -/
def ReadsByteDestination (instr : Word) : Prop :=
  instrWordMode instr = .wmByte ∧
    (field instr 12 ∈ [2, 3, 4, 5] ∨
      field instr 12 = 0 ∧ (instr >>> 6).setWidth 9 ∈
        ([0o51, 0o52, 0o53, 0o54, 0o55, 0o56, 0o57, 0o60, 0o61, 0o62, 0o63] :
          List (BitVec 9)))

variable [UnibusDevices δ]

/-- The byte operands that an instruction reads, by mode and register, with
the state in which it computes each of them. -/
inductive ByteOperand (instr : Word) (s : Machine δ) :
    RegNr → RegNr → Machine δ → Prop
  | source (h : HasByteSource instr) :
      ByteOperand instr s (field instr 9) (field instr 6) s
  | second {g : GamRc} {u : Machine δ} (h : HasByteSource instr)
      (hreads : ReadsByteDestination instr)
      (hsource : getGAM (field instr 9) (field instr 6) .wmByte true s =
        .ok g u) :
      ByteOperand instr s (field instr 3) (field instr 0) u
  | only (h : ¬ HasByteSource instr) (hreads : ReadsByteDestination instr) :
      ByteOperand instr s (field instr 3) (field instr 0) s

/-- The state in which one of the operands asserts. -/
def OperandAsserts (instr : Word) (s t : Machine δ) : Prop :=
  ∃ mode reg u, ByteOperand instr s mode reg u ∧
    Asserts (getGAM mode reg .wmByte true) u t

variable {instr : Word} {s t : Machine δ}

theorem not_operandAsserts
    (h : ¬ HasByteSource instr) (hreads : ¬ ReadsByteDestination instr) :
    ¬ OperandAsserts instr s t := by
  rintro ⟨mode, reg, u, hoperand, -⟩
  cases hoperand with
  | source h' =>
      exact h h'
  | second h' hreads' hsource =>
      exact h h'
  | only h' hreads' =>
      exact hreads hreads'

theorem operandAsserts_source
    (h : HasByteSource instr) (hreads : ¬ ReadsByteDestination instr) :
    OperandAsserts instr s t ↔
      Asserts (getGAM (field instr 9) (field instr 6) .wmByte true) s t := by
  constructor
  · rintro ⟨mode, reg, u, hoperand, hstop⟩
    cases hoperand with
    | source h' =>
        exact hstop
    | second h' hreads' hsource =>
        exact absurd hreads' hreads
    | only h' hreads' =>
        exact absurd hreads' hreads
  · intro hstop
    exact ⟨_, _, _, .source h, hstop⟩

theorem operandAsserts_both
    (h : HasByteSource instr) (hreads : ReadsByteDestination instr) :
    OperandAsserts instr s t ↔
      Asserts (do
        let _ ← getGAM (field instr 9) (field instr 6) .wmByte true
        getGAM (field instr 3) (field instr 0) .wmByte true) s t := by
  rw [Asserts, bind_eq_error_iff]
  constructor
  · rintro ⟨mode, reg, u, hoperand, hstop⟩
    cases hoperand with
    | source h' =>
        exact .inl hstop
    | second h' hreads' hsource =>
        exact .inr ⟨_, _, hsource, hstop⟩
    | only h' hreads' =>
        exact absurd h h'
  · rintro (hstop | ⟨g, u, hsource, hstop⟩)
    · exact ⟨_, _, _, .source h, hstop⟩
    · exact ⟨_, _, _, .second h hreads hsource, hstop⟩

theorem operandAsserts_only
    (h : ¬ HasByteSource instr) (hreads : ReadsByteDestination instr) :
    OperandAsserts instr s t ↔
      Asserts (getGAM (field instr 3) (field instr 0) .wmByte true) s t := by
  constructor
  · rintro ⟨mode, reg, u, hoperand, hstop⟩
    cases hoperand with
    | source h' =>
        exact absurd h' h
    | second h' hreads' hsource =>
        exact absurd h' h
    | only h' hreads' =>
        exact hstop
  · intro hstop
    exact ⟨_, _, _, .only h hreads, hstop⟩

/-- A program that never asserts, and no operand to assert on. -/
theorem calm_iff
    {m : Exec δ Bool} (hcalm : Calm m) (h : ¬ HasByteSource instr)
    (hreads : ¬ ReadsByteDestination instr) :
    Asserts m s t ↔ OperandAsserts instr s t :=
  ⟨fun hstop => absurd hstop (hcalm s t),
    fun hstop => absurd hstop (not_operandAsserts h hreads)⟩

/-- The instructions without a source operand. -/
theorem modification_iff
    (i : Modification) (hword : ¬ i.WordOnly)
    (hsource : ∀ s : Machine δ, i.source 0 0 .wmByte s = .ok 0 s)
    (h : ¬ HasByteSource instr) (hreads : ReadsByteDestination instr) :
    Asserts (i.execute 0 0 (field instr 3) (field instr 0) .wmByte) s t ↔
      OperandAsserts instr s t := by
  rw [i.execute_asserts_iff fun h => absurd h hword, Asserts,
    bind_of_ok (hsource s), operandAsserts_only h hreads]

/-- The single operand instructions. -/
theorem single_asserts_iff
    (hclass : field instr 12 = 0) :
    Asserts (singleOperandInstructions instr) s t ↔
      OperandAsserts instr s t := by
  have hsource : ¬ HasByteSource instr := by
    rintro ⟨-, hmem⟩
    rw [hclass] at hmem
    exact absurd hmem (by decide)
  unfold singleOperandInstructions
  dsimp only
  cases hmode : instrWordMode instr with
  | wmWord =>
      have hreads : ¬ ReadsByteDestination instr := fun hreads => by
        cases hmode.symm.trans hreads.1
      refine calm_iff ?_ hsource hreads
      split
      · exact Modification.swab.calm_word 0 0 _ _
      · exact calm_opClr _ _ _
      · exact Modification.com.calm_word 0 0 _ _
      · exact Modification.inc.calm_word 0 0 _ _
      · exact Modification.dec.calm_word 0 0 _ _
      · exact Modification.neg.calm_word 0 0 _ _
      · exact Modification.adc.calm_word 0 0 _ _
      · exact Modification.sbc.calm_word 0 0 _ _
      · intro s t hstop
        exact calm_getGAM _ _ (.inl rfl) s t (opTst_asserts_iff.mp hstop)
      · exact Modification.ror.calm_word 0 0 _ _
      · exact Modification.rol.calm_word 0 0 _ _
      · exact Modification.asr.calm_word 0 0 _ _
      · exact Modification.asl.calm_word 0 0 _ _
      · exact calm_opMfp _ _ _
      · exact calm_opMtp _ _ _
      · exact calm_opMark _
      · exact Modification.sxt.calm_word 0 0 _ _
      · exact .pure _
  | wmByte =>
      have hnone : (instr >>> 6).setWidth 9 ∉
          ([0o51, 0o52, 0o53, 0o54, 0o55, 0o56, 0o57, 0o60, 0o61, 0o62, 0o63] :
            List (BitVec 9)) → ¬ ReadsByteDestination instr := by
        rintro hnot ⟨-, hmem | ⟨-, hmem⟩⟩
        · rw [hclass] at hmem
          exact absurd hmem (by decide)
        · exact hnot hmem
      have hsome : (instr >>> 6).setWidth 9 ∈
          ([0o51, 0o52, 0o53, 0o54, 0o55, 0o56, 0o57, 0o60, 0o61, 0o62, 0o63] :
            List (BitVec 9)) → ReadsByteDestination instr :=
        fun hmem => ⟨hmode, .inr ⟨hclass, hmem⟩⟩
      split
      · next h =>
          exact calm_iff (.pure _) hsource (hnone (by rw [h]; decide))
      · next h =>
          exact calm_iff (calm_opClr _ _ _) hsource
            (hnone (by rw [h]; decide))
      · next h =>
          exact modification_iff .com nofun (fun _ => rfl) hsource
            (hsome (by rw [h]; decide))
      · next h =>
          exact modification_iff .inc nofun (fun _ => rfl) hsource
            (hsome (by rw [h]; decide))
      · next h =>
          exact modification_iff .dec nofun (fun _ => rfl) hsource
            (hsome (by rw [h]; decide))
      · next h =>
          exact modification_iff .neg nofun (fun _ => rfl) hsource
            (hsome (by rw [h]; decide))
      · next h =>
          exact modification_iff .adc nofun (fun _ => rfl) hsource
            (hsome (by rw [h]; decide))
      · next h =>
          exact modification_iff .sbc nofun (fun _ => rfl) hsource
            (hsome (by rw [h]; decide))
      · next h =>
          rw [opTst_asserts_iff, operandAsserts_only hsource
            (hsome (by rw [h]; decide))]
      · next h =>
          exact modification_iff .ror nofun (fun _ => rfl) hsource
            (hsome (by rw [h]; decide))
      · next h =>
          exact modification_iff .rol nofun (fun _ => rfl) hsource
            (hsome (by rw [h]; decide))
      · next h =>
          exact modification_iff .asr nofun (fun _ => rfl) hsource
            (hsome (by rw [h]; decide))
      · next h =>
          exact modification_iff .asl nofun (fun _ => rfl) hsource
            (hsome (by rw [h]; decide))
      · next h =>
          exact calm_iff (calm_opMfp _ _ _) hsource
            (hnone (by rw [h]; decide))
      · next h =>
          exact calm_iff (calm_opMtp _ _ _) hsource
            (hnone (by rw [h]; decide))
      · next h =>
          exact calm_iff calm_reservedInstruction hsource
            (hnone (by rw [h]; decide))
      · next h =>
          exact calm_iff calm_reservedInstruction hsource
            (hnone (by rw [h]; decide))
      · next hswab hclr hcom hinc hdec hneg hadc hsbc htst hror hrol hasr hasl
          hmfp hmtp hmark hsxt =>
          refine calm_iff (.pure _) hsource (hnone ?_)
          simp only [List.mem_cons, List.not_mem_nil, or_false, not_or]
          exact ⟨hcom, hinc, hdec, hneg, hadc, hsbc, htst, hror, hrol, hasr,
            hasl⟩

/-- On words no dispatcher asserts. -/
theorem calm_double_word
    (hmode : instrWordMode instr = .wmWord) :
    Calm (doubleOperandInstructions instr : Exec δ Bool) := by
  have hoperands : ∀ srcMode srcReg dstMode dstReg : RegNr, Calm (do
      let _ ← getGAM srcMode srcReg .wmWord true
      getGAM dstMode dstReg .wmWord true : Exec δ GamRc) :=
    fun _ _ _ _ => (calm_getGAM _ _ (.inl rfl)).bind fun _ =>
      calm_getGAM _ _ (.inl rfl)
  unfold doubleOperandInstructions
  dsimp only
  rw [hmode]
  split
  · next hclass =>
      intro s t hstop
      refine not_operandAsserts ?_ ?_ ((single_asserts_iff hclass).mp hstop)
      · rintro ⟨hbyte, -⟩
        cases hmode.symm.trans hbyte
      · rintro ⟨hbyte, -⟩
        cases hmode.symm.trans hbyte
  · intro s t hstop
    exact calm_getGAM _ _ (.inl rfl) s t (opMov_asserts_iff.mp hstop)
  · intro s t hstop
    exact hoperands _ _ _ _ s t (opCmp_asserts_iff.mp hstop)
  · intro s t hstop
    exact hoperands _ _ _ _ s t (opBit_asserts_iff.mp hstop)
  · exact Modification.bic.calm_word _ _ _ _
  · exact Modification.bis.calm_word _ _ _ _
  · cases decide (instr &&& 0x8000 ≠ 0) with
    | true =>
        exact Modification.sub.calm_word _ _ _ _
    | false =>
        exact Modification.add.calm_word _ _ _ _
  · exact calm_additionalDoubleOperandInstructions _

/-- The first dispatcher asserts on the byte operands. -/
theorem double_asserts_iff :
    Asserts (doubleOperandInstructions instr) s t ↔
      OperandAsserts instr s t := by
  cases hmode : instrWordMode instr with
  | wmWord =>
      refine calm_iff (calm_double_word hmode) ?_ ?_
      · rintro ⟨hbyte, -⟩
        cases hmode.symm.trans hbyte
      · rintro ⟨hbyte, -⟩
        cases hmode.symm.trans hbyte
  | wmByte =>
      have hsource : field instr 12 ∈ ([1, 2, 3, 4, 5] : List RegNr) →
          HasByteSource instr :=
        fun hmem => ⟨hmode, hmem⟩
      have hboth : field instr 12 ∈ ([2, 3, 4, 5] : List RegNr) →
          ReadsByteDestination instr :=
        fun hmem => ⟨hmode, .inl hmem⟩
      have hneither : field instr 12 ∉ ([0, 1, 2, 3, 4, 5] : List RegNr) →
          ¬ HasByteSource instr ∧ ¬ ReadsByteDestination instr := by
        intro hnot
        constructor
        · rintro ⟨-, hmem⟩
          exact hnot (List.mem_cons_of_mem _ hmem)
        · rintro ⟨-, hmem | ⟨hzero, -⟩⟩
          · exact hnot (List.mem_cons_of_mem _ (List.mem_cons_of_mem _ hmem))
          · exact hnot (hzero ▸ List.mem_cons_self)
      have hcombine : ∀ i : Modification,
          (∀ s : Machine δ, i.source (field instr 9) (field instr 6) .wmByte s =
            (do
              let g ← getGAM (field instr 9) (field instr 6) .wmByte true
              pure g.value : Exec δ Word) s) → ¬ i.WordOnly →
          field instr 12 ∈ ([2, 3, 4, 5] : List RegNr) →
          (Asserts (i.execute (field instr 9) (field instr 6) (field instr 3)
            (field instr 0) .wmByte) s t ↔ OperandAsserts instr s t) := by
        intro i hgam hword hmem
        have heq : (i.source (field instr 9) (field instr 6) .wmByte :
            Exec δ Word) = _ := funext hgam
        rw [i.execute_asserts_iff fun h => absurd h hword, heq, bind_assoc,
          operandAsserts_both (hsource (List.mem_cons_of_mem _ hmem))
            (hboth hmem)]
        rfl
      unfold doubleOperandInstructions
      dsimp only
      rw [hmode]
      split
      · next hclass =>
          exact single_asserts_iff hclass
      · next hclass =>
          rw [opMov_asserts_iff, operandAsserts_source
            (hsource (by rw [hclass]; decide))]
          rintro ⟨-, hmem | ⟨hzero, -⟩⟩
          · rw [hclass] at hmem
            exact absurd hmem (by decide)
          · rw [hclass] at hzero
            exact absurd hzero (by decide)
      · next hclass =>
          rw [opCmp_asserts_iff, operandAsserts_both
            (hsource (by rw [hclass]; decide)) (hboth (by rw [hclass]; decide))]
      · next hclass =>
          rw [opBit_asserts_iff, operandAsserts_both
            (hsource (by rw [hclass]; decide)) (hboth (by rw [hclass]; decide))]
      · next hclass =>
          exact hcombine .bic (fun _ => rfl) nofun (by rw [hclass]; decide)
      · next hclass =>
          exact hcombine .bis (fun _ => rfl) nofun (by rw [hclass]; decide)
      · next hclass =>
          obtain ⟨h, hreads⟩ := hneither (by rw [hclass]; decide)
          refine calm_iff ?_ h hreads
          cases decide (instr &&& 0x8000 ≠ 0) with
          | true =>
              exact Modification.sub.calm_word _ _ _ _
          | false =>
              exact Modification.add.calm_word _ _ _ _
      · next hsingle hmov hcmp hbit hbic hbis haddSub =>
          obtain ⟨h, hreads⟩ := hneither (by
            simp only [List.mem_cons, List.not_mem_nil, or_false, not_or]
            exact ⟨hsingle, hmov, hcmp, hbit, hbic, hbis⟩)
          exact calm_iff (.pure _) h hreads

/-- An instruction asserts on its byte operands, and on nothing else. -/
theorem executeInstruction_asserts_iff :
    Asserts (executeInstruction instr) s t ↔ OperandAsserts instr s t := by
  rw [← double_asserts_iff]
  refine bind_eq_error_left fun done u _ => ?_
  refine Avoids.ite (fun _ => .pure _) (fun _ => ?_) u t
  refine (calm_conditionalBranchInstructions instr).bind fun done => ?_
  refine .ite (fun _ => .pure _) fun _ => ?_
  refine (calm_conditionCodeOperations instr).bind fun done => ?_
  exact .ite (fun _ => .pure _) fun _ => calm_miscOperations instr

end Dispatch

section Steps

/-- A handler does not see the assertion. -/
theorem catchInt_asserts_iff
    {α : Type} {m : Exec δ α} {handler : Nat → Exec δ α}
    (h : ∀ number, Calm (handler number)) {s t : Machine δ} :
    Asserts (catchInt m handler) s t ↔ Asserts m s t := by
  constructor
  · intro hstop
    cases hm : m s with
    | ok a u =>
        rw [Asserts, catchInt, rescue_of_ok hm] at hstop
        cases hstop
    | error e u =>
        cases hexception : e.exception? with
        | some number =>
            rw [Asserts, catchInt, rescue_of_error hm hexception] at hstop
            exact absurd hstop (h number u t)
        | none =>
            simp only [Asserts, catchInt, rescue, hm, hexception] at hstop
            exact hm.trans hstop
  · intro hstop
    simp only [Asserts, catchInt, rescue, hstop, Stop.exception?]

variable [UnibusDevices δ]

theorem calm_executeAnyPendingFrom
    (startLevel : Nat) (levels : List Level) :
    Calm (executeAnyPendingFrom startLevel levels : Exec δ Unit) := by
  induction levels with
  | nil =>
      exact .pure _
  | cons i levels ih =>
      refine .view_bind fun first => ?_
      cases first with
      | none =>
          exact ih
      | some v =>
          refine (Avoids.update _).bind fun _ => .ite (fun _ => ih) fun _ => ?_
          refine (Avoids.update _).bind fun _ => (Avoids.update _).bind fun _ => ?_
          exact calm_trap v (some i)

theorem calm_serviceInterrupts :
    Calm (serviceInterrupts : Exec δ Unit) := by
  refine .view_bind fun any => (Avoids.update _).bind fun _ =>
    calm_onlyIf _ (.bind (.view_bind fun delayed => ?_) fun _ => ?_)
  · cases delayed with
    | none =>
        exact .pure _
    | some vector =>
        exact (calm_trap _ _).bind fun _ => .update _
  · exact .view_bind fun level => calm_executeAnyPendingFrom _ _

theorem calm_fetchInstruction :
    Calm (fetchInstruction : Exec δ Word) := by
  refine .view_bind fun pc => (Avoids.update _).bind fun _ => .bind ?_
    fun instr => (calm_addRegister _ _).bind fun _ => .pure _
  exact .view_bind fun runMode => calm_read _ _ _ _

/-- A step from this state executes the word `instr`, and `u` is the state in
which it does. -/
def Machine.Executes (s : Machine δ) (instr : Word) (u : Machine δ) : Prop :=
  ∃ v, serviceInterrupts (counted s) = .ok () v ∧
    fetchInstruction v = .ok instr u

/-- The next instruction reads a byte operand from a wide register. -/
def Machine.ReadsWide (s : Machine δ) : Prop :=
  ∃ instr u, s.Executes instr u ∧
    ∃ mode reg v, ByteOperand instr u mode reg v ∧ v.WideOperand mode reg

theorem step_asserts_iff
    {s t : Machine δ} :
    Asserts step s t ↔
      ∃ instr u, s.Executes instr u ∧ OperandAsserts instr u t := by
  have hexecuted : ∀ instr u, Asserts (do
      let done ← executeInstruction instr
      if done then pure true
      else do
        trap 0o10 none
        pure false : Exec δ Bool) u t ↔ OperandAsserts instr u t := by
    intro instr u
    rw [← executeInstruction_asserts_iff]
    refine bind_eq_error_left fun done u' _ => ?_
    exact Avoids.ite (fun _ => .pure _)
      (fun _ => (calm_trap _ _).bind fun _ => .pure _) u' t
  change Asserts (serviceInterrupts >>= fun _ => runInstruction) (counted s) t ↔
    _
  rw [Asserts, bind_eq_error_right calm_serviceInterrupts]
  constructor
  · rintro ⟨⟨⟩, v, hservice, hrun⟩
    have hfetch := (catchInt_asserts_iff fun _ => .pure true).mp hrun
    obtain ⟨instr, u, hinstr, hstop⟩ :=
      (bind_eq_error_right calm_fetchInstruction).mp hfetch
    exact ⟨instr, u, ⟨v, hservice, hinstr⟩, (hexecuted instr u).mp hstop⟩
  · rintro ⟨instr, u, ⟨v, hservice, hinstr⟩, hstop⟩
    refine ⟨(), v, hservice, (catchInt_asserts_iff fun _ => .pure true).mpr ?_⟩
    exact (bind_of_ok hinstr).trans ((hexecuted instr u).mpr hstop)

/-- A byte read that returns gives a byte unless it reaches a wide register
with a larger value.  The only assertion on a byte operand that an instruction
can fail is the one that getGAM makes on what it has read, so that putGAM and
set_registerLowByte are handed bytes; and a step fails it exactly when its
instruction reads an operand from a wide register. -/
theorem byte_operands_are_bytes_iff
    (s : Machine δ) :
    (∀ a runMode space v t, Bus.read a .wmByte runMode space s = .ok v t →
      (v < 256 ↔ ¬ s.WideAt runMode a space)) ∧
    (∀ instr t, executeInstruction instr s =
        .error (.assertion .byteOperand) t ↔
      ∃ mode reg u, ByteOperand instr s mode reg u ∧
        getGAM mode reg .wmByte true u =
          .error (.assertion .byteOperand) t) ∧
    ((∃ t, step s = .error (.assertion .byteOperand) t) ↔ s.ReadsWide) := by
  refine ⟨fun _ _ _ _ _ hread => Bus.read_byte_lt_iff hread,
    fun _ _ => executeInstruction_asserts_iff, ?_⟩
  constructor
  · rintro ⟨t, hstop⟩
    obtain ⟨instr, u, hexec, mode, reg, v, hoperand, hgam⟩ :=
      step_asserts_iff.mp hstop
    exact ⟨instr, u, hexec, mode, reg, v, hoperand,
      getGAM_asserts_iff.mp ⟨t, hgam⟩⟩
  · rintro ⟨instr, u, hexec, mode, reg, v, hoperand, hwide⟩
    obtain ⟨t, hgam⟩ := getGAM_asserts_iff.mpr hwide
    exact ⟨t, step_asserts_iff.mpr
      ⟨instr, u, hexec, mode, reg, v, hoperand, hgam⟩⟩

/-- A machine that is about to execute TSTB (R0). -/
def tstbMachine (address : Word) : Machine LineClock :=
  (bareMachine 0o20000 [(0, 0o105710)]).withPSW fun c => c.setRegister 0 address

/-- TSTB of the system identification. -/
theorem system_id_is_wide :
    (tstbMachine addrSystemId).ReadsWide :=
  (byte_operands_are_bytes_iff (tstbMachine addrSystemId)).2.2.mp ⟨_, rfl⟩

/-- TSTB of the system identification reads 011064, and aborts the emulator. -/
theorem tstb_of_system_id :
    (∃ t, Bus.read addrSystemId .wmByte 0 .dSpace (tstbMachine addrSystemId) =
      .ok 0o11064 t) ∧
    ∃ t, step (tstbMachine addrSystemId) =
      .error (.assertion .byteOperand) t :=
  ⟨⟨_, rfl⟩, ⟨_, rfl⟩⟩

end Steps

end KekPdp11
