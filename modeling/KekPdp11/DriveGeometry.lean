import KekPdp11.Lib.Documents
import KekPdp11.Lib.MixedRadix
import KekPdp11.Rp06
import Mathlib.Data.Set.Function

/-!
# KEK PDP-11: the geometry of RP06 and RP07 drives

The sectors of a track and the tracks of a cylinder are global variables of
rp06.cpp: all objects of the process compute their offsets with them, and the
constructor of an RP07 changes them.  The member is_rp07, which goes into
snapshots, is not set by the constructor.

A run is a list of events: objects are created, saved and restored, and the
emulator is started again.

* `addressed_of_hasGeometry`: the offsets with the geometry of the drive run
  through its sectors.
* `run_globals`: which geometry a process has.
* `addressed_iff`: which objects address their drive properly.
-/

namespace KekPdp11

open MixedRadix JsonDocument

variable {D : Type}

section Geometry

/-- What a drive is created as. -/
inductive DriveType where
  | rp06
  | rp07
deriving DecidableEq, Repr

structure Geometry where
  cylinders : Nat
  tracks : Nat
  sectors : Nat

def DriveType.geometry : DriveType → Geometry
  | .rp06 => ⟨815, 19, 22⟩
  | .rp07 => ⟨630, 32, 50⟩

/-- A place on a drive. -/
structure DiskAddress where
  cylinder : Nat
  track : Nat
  sector : Nat

/-- The order of the places: cylinder, track, sector. -/
def DiskAddress.Before (a b : DiskAddress) : Prop :=
  a.cylinder < b.cylinder ∨ a.cylinder = b.cylinder ∧
    (a.track < b.track ∨ a.track = b.track ∧ a.sector < b.sector)

namespace Geometry

variable (g : Geometry)

/-- The places of the drive. -/
def addresses : Set DiskAddress :=
  {a | a.cylinder < g.cylinders ∧ a.track < g.tracks ∧ a.sector < g.sectors}

/-- The bytes of the drive. -/
def capacity : Nat :=
  g.cylinders * g.tracks * g.sectors * Rp06.sectorSize

/-- The number of the sector at a place. -/
def sectorNumber (a : DiskAddress) : Nat :=
  pair g.sectors (pair g.tracks a.cylinder a.track) a.sector

/-- The offsets of the sectors. -/
def offsets : Set Nat :=
  {n | Rp06.sectorSize ∣ n ∧ n < g.capacity}

variable {g} {a b : DiskAddress}

theorem sectorNumber_lt
    (ha : a ∈ g.addresses) :
    g.sectorNumber a < g.cylinders * g.tracks * g.sectors :=
  pair_lt (pair_lt ha.1 ha.2.1) ha.2.2

theorem sectorNumber_lt_sectorNumber
    (ha : a ∈ g.addresses) (h : a.Before b) :
    g.sectorNumber a < g.sectorNumber b := by
  unfold sectorNumber
  rcases h with hcylinder | ⟨hcylinder, htrack | ⟨htrack, hsector⟩⟩
  · exact pair_lt_of_first ha.2.2 (pair_lt_of_first ha.2.1 hcylinder)
  · rw [hcylinder]
    exact pair_lt_of_first ha.2.2 (pair_lt_of_second htrack)
  · rw [hcylinder, htrack]
    exact pair_lt_of_second hsector

theorem sectorNumber_inj
    (ha : a ∈ g.addresses) (hb : b ∈ g.addresses)
    (h : g.sectorNumber a = g.sectorNumber b) :
    a = b := by
  obtain ⟨hrow, hsector⟩ := pair_inj ha.2.2 hb.2.2 h
  obtain ⟨hcylinder, htrack⟩ := pair_inj ha.2.1 hb.2.1 hrow
  cases a
  cases b
  simp_all

theorem exists_sectorNumber
    {k : Nat} (h : k < g.cylinders * g.tracks * g.sectors) :
    ∃ a ∈ g.addresses, g.sectorNumber a = k := by
  obtain ⟨row, sector, hrow, hsector, rfl⟩ := exists_pair h
  obtain ⟨cylinder, track, hcylinder, htrack, rfl⟩ := exists_pair hrow
  exact ⟨⟨cylinder, track, sector⟩, ⟨hcylinder, htrack, hsector⟩, rfl⟩

/-- The offsets of the sectors are one for each place. -/
theorem bijOn_offset :
    Set.BijOn (fun a => g.sectorNumber a * Rp06.sectorSize) g.addresses
      g.offsets := by
  have hsize : 0 < Rp06.sectorSize := by decide
  refine ⟨?_, ?_, ?_⟩
  · intro a ha
    exact ⟨Nat.dvd_mul_left _ _,
      Nat.mul_lt_mul_of_pos_right (sectorNumber_lt ha) hsize⟩
  · intro a ha b hb h
    exact sectorNumber_inj ha hb (Nat.eq_of_mul_eq_mul_right hsize h)
  · rintro n ⟨⟨k, rfl⟩, hlt⟩
    unfold capacity at hlt
    rw [Nat.mul_comm Rp06.sectorSize k] at hlt
    obtain ⟨a, ha, rfl⟩ :=
      exists_sectorNumber (Nat.lt_of_mul_lt_mul_right hlt)
    exact ⟨a, ha, Nat.mul_comm _ _⟩

end Geometry

end Geometry

section Objects

/-- An object of class rp06, with what it was created as. -/
structure Rp06Object where
  drive : DriveType
  registers : RegisterFile
  isRp07 : Bool

/-- The emulator: the global variables of rp06.cpp and the objects of the
process, and the snapshots that there are. -/
structure Rp06World (D : Type) where
  nsect : BitVec 32
  ntrac : BitVec 32
  objects : List Rp06Object
  snapshots : List (DriveType × D)

/-- What happens to the objects. -/
inductive Rp06Event where
  | create (drive : DriveType)
  | save (i : Nat)
  | restore (i : Nat)
  /-- A new process. -/
  | restart
deriving DecidableEq

namespace Rp06Object

/-- The members of an object after its constructor and begin; the constructor
does not set is_rp07. -/
def begun (drive : DriveType) : Rp06Object where
  drive := drive
  registers :=
    Function.update (fun _ => 0) (Rp06.regNum Rp06.RP06_DS) Rp06.defaultDS
  isRp07 := false

def serialize [JsonDocument D] (o : Rp06Object) : D :=
  null |> put "is-rp07" (bool o.isRp07)

end Rp06Object

namespace Rp06World

/-- A process that has just started. -/
def fresh (snapshots : List (DriveType × D)) : Rp06World D where
  nsect := 22
  ntrac := 19
  objects := []
  snapshots := snapshots

/-- The constructor, called with its argument is_rp07, and begin. -/
def construct (w : Rp06World D) (drive : DriveType) (isRp07 : Bool) :
    Rp06World D where
  nsect := if isRp07 then 50 else w.nsect
  ntrac := if isRp07 then 32 else w.ntrac
  objects := w.objects ++ [Rp06Object.begun drive]
  snapshots := w.snapshots

/-- deserialize, of what was saved of a drive. -/
def deserialize [JsonDocument D] (w : Rp06World D) (drive : DriveType)
    (j : D) : Rp06World D :=
  w.construct drive (toBool (member "is-rp07" j))

def save [JsonDocument D] (w : Rp06World D) (i : Nat) : Rp06World D :=
  match w.objects[i]? with
  | some o => { w with snapshots := w.snapshots ++ [(o.drive, o.serialize)] }
  | none => w

def restore [JsonDocument D] (w : Rp06World D) (i : Nat) : Rp06World D :=
  match w.snapshots[i]? with
  | some (drive, j) => w.deserialize drive j
  | none => w

def step [JsonDocument D] (w : Rp06World D) : Rp06Event → Rp06World D
  | .create drive => w.construct drive (decide (drive = .rp07))
  | .save i => w.save i
  | .restore i => w.restore i
  | .restart => fresh w.snapshots

def run (D : Type) [JsonDocument D] (events : List Rp06Event) : Rp06World D :=
  events.foldl step (fresh [])

/-- An object with the global variables. -/
def controller (w : Rp06World D) (o : Rp06Object) : Rp06 where
  registers := o.registers
  isRp07 := o.isRp07
  nsect := w.nsect
  ntrac := w.ntrac

/-- The registers when the guest wants to go to a place. -/
def desired (c : Rp06) (a : DiskAddress) : Rp06 :=
  (c.set Rp06.RP06_DC (BitVec.ofNat 16 a.cylinder)).set Rp06.RP06_DA
    (BitVec.ofNat 16 (a.track * 256 + a.sector))

/-- compute_offset for a place. -/
def offset (w : Rp06World D) (o : Rp06Object) (a : DiskAddress) : Nat :=
  (desired (w.controller o) a).computeOffset.toNat

/-- The offset without a bound on the numbers. -/
def exactOffset (w : Rp06World D) (a : DiskAddress) : Nat :=
  (a.cylinder * w.nsect.toNat * w.ntrac.toNat + a.track * w.nsect.toNat +
    a.sector) * Rp06.sectorSize

/-- compute_offset runs through the sectors of the drive of the object. -/
structure Addressed (w : Rp06World D) (o : Rp06Object) : Prop where
  bijective : Set.BijOn (w.offset o) o.drive.geometry.addresses
    o.drive.geometry.offsets
  increasing : ∀ a ∈ o.drive.geometry.addresses,
    ∀ b ∈ o.drive.geometry.addresses, a.Before b → w.offset o a < w.offset o b
  fits : ∀ a ∈ o.drive.geometry.addresses,
    w.exactOffset a < 2 ^ 32 ∧ w.offset o a = w.exactOffset a

/-- The global variables have the geometry of a drive. -/
def HasGeometry (w : Rp06World D) (drive : DriveType) : Prop :=
  w.nsect.toNat = drive.geometry.sectors ∧
    w.ntrac.toNat = drive.geometry.tracks

end Rp06World

end Objects

section Offsets

namespace Rp06World

variable {w : Rp06World D} {o : Rp06Object} {a : DiskAddress} {drive : DriveType}

theorem toNat_low
    (v : Word) :
    (v &&& 0o377).toNat = v.toNat % 256 := by
  rw [BitVec.toNat_and]
  exact Nat.and_two_pow_sub_one_eq_mod _ 8

theorem desired_da
    (c : Rp06) (a : DiskAddress) :
    (desired c a).get Rp06.RP06_DA =
      BitVec.ofNat 16 (a.track * 256 + a.sector) := by
  unfold desired Rp06.get Rp06.set
  dsimp only
  rw [Function.update_self]

theorem desired_dc
    (c : Rp06) (a : DiskAddress) :
    (desired c a).get Rp06.RP06_DC = BitVec.ofNat 16 a.cylinder := by
  have hne : Rp06.regNum Rp06.RP06_DC ≠ Rp06.regNum Rp06.RP06_DA := by decide
  unfold desired Rp06.get Rp06.set
  dsimp only
  rw [Function.update_of_ne hne, Function.update_self]

/-- The three fields are read back from the registers. -/
theorem desired_fields
    (c : Rp06) (hcylinder : a.cylinder < 65536) (htrack : a.track < 256)
    (hsector : a.sector < 256) :
    (((desired c a).get Rp06.RP06_DC).setWidth 32).toNat = a.cylinder ∧
      ((((desired c a).get Rp06.RP06_DA >>> 8) &&& 0o377).setWidth 32).toNat =
        a.track ∧
      (((desired c a).get Rp06.RP06_DA &&& 0o377).setWidth 32).toNat =
        a.sector := by
  have hwide : ∀ v : Word, (v.setWidth 32).toNat = v.toNat := fun v =>
    BitVec.toNat_setWidth_of_le (by decide)
  rw [desired_da, desired_dc, hwide, hwide, hwide, toNat_low, toNat_low,
    BitVec.toNat_ushiftRight, BitVec.toNat_ofNat, BitVec.toNat_ofNat,
    Nat.shiftRight_eq_div_pow]
  omega

/-- A field times a size is not larger than the product of their bounds. -/
theorem exactOffset_lt
    (hsectors : w.nsect.toNat ≤ 50) (htracks : w.ntrac.toNat ≤ 32)
    (hcylinder : a.cylinder < 1024) (htrack : a.track < 32)
    (hsector : a.sector < 50) :
    w.exactOffset a < 2 ^ 32 := by
  have hrow : a.cylinder * w.nsect.toNat ≤ 1024 * 50 :=
    Nat.mul_le_mul hcylinder.le hsectors
  have hcyl : a.cylinder * w.nsect.toNat * w.ntrac.toNat ≤ 1024 * 50 * 32 :=
    Nat.mul_le_mul hrow htracks
  have htrk : a.track * w.nsect.toNat ≤ 32 * 50 :=
    Nat.mul_le_mul htrack.le hsectors
  unfold exactOffset Rp06.sectorSize
  omega

theorem offset_eq
    (hcylinder : a.cylinder < 65536) (htrack : a.track < 256)
    (hsector : a.sector < 256) (hfits : w.exactOffset a < 2 ^ 32) :
    w.offset o a = w.exactOffset a := by
  obtain ⟨hc, ht, hs⟩ := desired_fields (w.controller o) hcylinder htrack
    hsector
  have hmod : w.offset o a = w.exactOffset a % 2 ^ 32 := by
    unfold offset Rp06.computeOffset exactOffset Rp06.sectorSize
    have hglobals : (desired (w.controller o) a).nsect = w.nsect ∧
        (desired (w.controller o) a).ntrac = w.ntrac := ⟨rfl, rfl⟩
    dsimp only
    rw [hglobals.1, hglobals.2]
    simp only [BitVec.toNat_mul, BitVec.toNat_add, hc, ht, hs]
    simp only [Nat.mod_mul_mod, Nat.add_mod_mod, Nat.mod_add_mod]
    rfl
  rw [hmod, Nat.mod_eq_of_lt hfits]

theorem bounds_of_hasGeometry
    (h : w.HasGeometry drive) :
    w.nsect.toNat ≤ 50 ∧ w.ntrac.toNat ≤ 32 := by
  rw [h.1, h.2]
  cases drive with
  | rp06 =>
      decide
  | rp07 =>
      decide

theorem bounds_of_mem
    (ha : a ∈ drive.geometry.addresses) :
    a.cylinder < 1024 ∧ a.track < 32 ∧ a.sector < 50 := by
  obtain ⟨hcylinder, htrack, hsector⟩ := ha
  cases drive with
  | rp06 =>
      exact ⟨by exact Nat.lt_trans hcylinder (by decide),
        Nat.lt_trans htrack (by decide), Nat.lt_trans hsector (by decide)⟩
  | rp07 =>
      exact ⟨Nat.lt_trans hcylinder (by decide), htrack, hsector⟩

/-- No offset of a drive overflows, whichever of the two geometries there is. -/
theorem offset_fits
    (hw : w.HasGeometry drive) (ha : a ∈ o.drive.geometry.addresses) :
    w.exactOffset a < 2 ^ 32 ∧ w.offset o a = w.exactOffset a := by
  obtain ⟨hsectors, htracks⟩ := bounds_of_hasGeometry hw
  obtain ⟨hcylinder, htrack, hsector⟩ := bounds_of_mem ha
  have hfits := exactOffset_lt hsectors htracks hcylinder htrack hsector
  exact ⟨hfits, offset_eq (by omega) (by omega) (by omega) hfits⟩

theorem exactOffset_eq
    (hw : w.HasGeometry drive) (a : DiskAddress) :
    w.exactOffset a = drive.geometry.sectorNumber a * Rp06.sectorSize := by
  unfold exactOffset Geometry.sectorNumber pair
  rw [hw.1, hw.2, Nat.mul_right_comm a.cylinder, ← Nat.add_mul]

/-- With the geometry of its drive an object addresses it properly. -/
theorem addressed_of_hasGeometry
    (hw : w.HasGeometry o.drive) :
    w.Addressed o := by
  have hoffset : ∀ a ∈ o.drive.geometry.addresses,
      w.offset o a =
        o.drive.geometry.sectorNumber a * Rp06.sectorSize := fun a ha =>
    (offset_fits hw ha).2.trans (exactOffset_eq hw a)
  constructor
  · exact Geometry.bijOn_offset.congr fun a ha => (hoffset a ha).symm
  · intro a ha b hb hbefore
    rw [hoffset a ha, hoffset b hb]
    exact Nat.mul_lt_mul_of_pos_right
      (Geometry.sectorNumber_lt_sectorNumber ha hbefore) (by decide)
  · exact fun a ha => offset_fits hw ha

/-- The last sector of an RP06 is past its end in the geometry of an RP07. -/
theorem not_addressed_rp06
    (hw : w.HasGeometry .rp07) (ho : o.drive = .rp06) :
    ¬ w.Addressed o := by
  intro h
  have ha : (⟨814, 18, 21⟩ : DiskAddress) ∈ o.drive.geometry.addresses := by
    rw [ho]
    exact ⟨by decide, by decide, by decide⟩
  have hlt := (h.bijective.mapsTo ha).2
  rw [(h.fits _ ha).2, exactOffset_eq hw, ho] at hlt
  revert hlt
  decide

/-- Two sectors of an RP07 have one offset in the geometry of an RP06. -/
theorem not_addressed_rp07
    (hw : w.HasGeometry .rp06) (ho : o.drive = .rp07) :
    ¬ w.Addressed o := by
  intro h
  have ha : (⟨0, 0, 22⟩ : DiskAddress) ∈ o.drive.geometry.addresses := by
    rw [ho]
    exact ⟨by decide, by decide, by decide⟩
  have hb : (⟨0, 1, 0⟩ : DiskAddress) ∈ o.drive.geometry.addresses := by
    rw [ho]
    exact ⟨by decide, by decide, by decide⟩
  have hsame : w.offset o ⟨0, 0, 22⟩ = w.offset o ⟨0, 1, 0⟩ := by
    rw [(h.fits _ ha).2, (h.fits _ hb).2, exactOffset_eq hw, exactOffset_eq hw]
    rfl
  have heq := h.bijective.injOn ha hb hsame
  revert heq
  simp

theorem addressed_iff_geometry
    (hw : w.HasGeometry drive) :
    w.Addressed o ↔ o.drive = drive := by
  constructor
  · intro h
    cases drive with
    | rp06 =>
        cases ho : o.drive with
        | rp06 =>
            rfl
        | rp07 =>
            exact absurd h (not_addressed_rp07 hw ho)
    | rp07 =>
        cases ho : o.drive with
        | rp06 =>
            exact absurd h (not_addressed_rp06 hw ho)
        | rp07 =>
            rfl
  · rintro rfl
    exact addressed_of_hasGeometry hw

end Rp06World

end Offsets

section Runs

namespace Rp06World

variable [JsonDocument D] {w : Rp06World D} {events : List Rp06Event}

/-- An RP07 has been created since the emulator was started. -/
def CreatedRp07 (events : List Rp06Event) : Prop :=
  ∃ before after, events = before ++ .create .rp07 :: after ∧
    .restart ∉ after

theorem run_append
    (events : List Rp06Event) (event : Rp06Event) :
    run D (events ++ [event]) = (run D events).step event :=
  List.foldl_append

theorem createdRp07_append
    (events : List Rp06Event) (event : Rp06Event) :
    CreatedRp07 (events ++ [event]) ↔
      event = .create .rp07 ∨ event ≠ .restart ∧ CreatedRp07 events := by
  constructor
  · rintro ⟨before, after, heq, hafter⟩
    rcases List.eq_nil_or_concat after with rfl | ⟨after, last, rfl⟩
    · exact .inl (List.singleton_inj.mp (List.append_inj' heq rfl).2)
    · rw [List.concat_eq_append] at heq hafter
      rw [← List.cons_append, ← List.append_assoc] at heq
      obtain ⟨hevents, hlast⟩ := List.append_inj' heq rfl
      rw [List.singleton_inj.mp hlast]
      refine .inr ⟨?_, before, after, hevents, ?_⟩
      · rintro rfl
        exact hafter (List.mem_append_right _ (List.mem_singleton_self _))
      · exact fun h => hafter (List.mem_append_left _ h)
  · rintro (rfl | ⟨hne, before, after, rfl, hafter⟩)
    · exact ⟨events, [], rfl, List.not_mem_nil⟩
    · refine ⟨before, after ++ [event], by simp, ?_⟩
      intro h
      rcases List.mem_append.mp h with h | h
      · exact hafter h
      · exact hne (List.mem_singleton.mp h).symm

/-- Nothing sets the member is_rp07, so that it is not in a snapshot either. -/
structure Unmarked (w : Rp06World D) : Prop where
  objects : ∀ o ∈ w.objects, o.isRp07 = false
  snapshots : ∀ s ∈ w.snapshots, toBool (member "is-rp07" s.2) = false

theorem unmarked_construct
    (drive : DriveType) (isRp07 : Bool) (h : w.Unmarked) :
    (w.construct drive isRp07).Unmarked := by
  refine ⟨?_, h.snapshots⟩
  intro o ho
  rcases List.mem_append.mp ho with ho | ho
  · exact h.objects o ho
  · rw [List.mem_singleton.mp ho]
    rfl

theorem unmarked_step
    (event : Rp06Event) (h : w.Unmarked) :
    (w.step event).Unmarked := by
  cases event with
  | create drive =>
      exact unmarked_construct _ _ h
  | save i =>
      change (w.save i).Unmarked
      unfold save
      split
      · next o ho =>
          refine ⟨h.objects, ?_⟩
          intro s hs
          rcases List.mem_append.mp hs with hs | hs
          · exact h.snapshots s hs
          · rw [List.mem_singleton.mp hs]
            change toBool (member "is-rp07" (o.serialize : D)) = false
            unfold Rp06Object.serialize
            rw [member_put_self _ _ takesMembers_null, toBool_bool]
            exact h.objects o (List.mem_of_getElem? ho)
      · exact h
  | restore i =>
      change (w.restore i).Unmarked
      unfold restore
      split
      · exact unmarked_construct _ _ h
      · exact h
  | restart =>
      exact ⟨fun o ho => absurd ho List.not_mem_nil, h.snapshots⟩

theorem unmarked_run
    (D : Type) [JsonDocument D] (events : List Rp06Event) :
    (run D events).Unmarked := by
  induction events using List.reverseRecOn with
  | nil =>
      exact ⟨fun o ho => absurd ho List.not_mem_nil,
        fun s hs => absurd hs List.not_mem_nil⟩
  | append_singleton events event ih =>
      rw [run_append]
      exact unmarked_step event ih

/-- Only the creation of an RP07 and a new process change the geometry. -/
theorem step_globals
    (event : Rp06Event) (h : w.Unmarked) :
    ((w.step event).nsect, (w.step event).ntrac) =
      if event = .create .rp07 then (50, 32)
      else if event = .restart then (22, 19)
      else (w.nsect, w.ntrac) := by
  cases event with
  | create drive =>
      cases drive with
      | rp06 =>
          rfl
      | rp07 =>
          rfl
  | save i =>
      change ((w.save i).nsect, (w.save i).ntrac) = (w.nsect, w.ntrac)
      unfold save
      split <;> rfl
  | restore i =>
      change ((w.restore i).nsect, (w.restore i).ntrac) = (w.nsect, w.ntrac)
      unfold restore
      split
      · next drive j hj =>
          have hj := h.snapshots _ (List.mem_of_getElem? hj)
          unfold deserialize
          rw [hj]
          rfl
      · rfl
  | restart =>
      rfl

omit [JsonDocument D] in
theorem hasGeometry_of_globals
    {nsect ntrac : BitVec 32} {drive : DriveType}
    (h : (w.nsect, w.ntrac) = (nsect, ntrac))
    (hnsect : nsect.toNat = drive.geometry.sectors)
    (hntrac : ntrac.toNat = drive.geometry.tracks) :
    w.HasGeometry drive := by
  obtain ⟨hn, ht⟩ := Prod.mk.inj h
  exact ⟨hn ▸ hnsect, ht ▸ hntrac⟩

/-- The geometry of a process is that of an RP07 if and only if one has been
created in it. -/
theorem run_globals
    (D : Type) [JsonDocument D] (events : List Rp06Event) :
    (CreatedRp07 events → (run D events).HasGeometry .rp07) ∧
      (¬ CreatedRp07 events → (run D events).HasGeometry .rp06) := by
  induction events using List.reverseRecOn with
  | nil =>
      refine ⟨?_, fun _ => ⟨rfl, rfl⟩⟩
      rintro ⟨before, after, heq, _⟩
      exact absurd heq (by simp)
  | append_singleton events event ih =>
      have hglobals := step_globals event (unmarked_run D events)
      rw [createdRp07_append, run_append]
      by_cases hcreate : event = .create .rp07
      · rw [if_pos hcreate] at hglobals
        exact ⟨fun _ => hasGeometry_of_globals hglobals rfl rfl,
          fun h => absurd (.inl hcreate) h⟩
      · rw [if_neg hcreate] at hglobals
        by_cases hrestart : event = .restart
        · rw [if_pos hrestart] at hglobals
          refine ⟨?_, fun _ => hasGeometry_of_globals hglobals rfl rfl⟩
          rintro (h | h)
          · exact absurd h hcreate
          · exact absurd hrestart h.1
        · rw [if_neg hrestart] at hglobals
          constructor
          · rintro (h | h)
            · exact absurd h hcreate
            · have hold := ih.1 h.2
              exact hasGeometry_of_globals hglobals hold.1 hold.2
          · intro h
            have hold := ih.2 fun hcreated => h (.inr ⟨hrestart, hcreated⟩)
            exact hasGeometry_of_globals hglobals hold.1 hold.2

/-- An RP06 is addressed properly as long as no RP07 has been created in the
process, an RP07 only after one has been. -/
theorem addressed_iff
    (D : Type) [JsonDocument D] (events : List Rp06Event) (o : Rp06Object) :
    (run D events).Addressed o ↔ (o.drive = .rp07 ↔ CreatedRp07 events) := by
  obtain ⟨hcreated, hnot⟩ := run_globals D events
  by_cases h : CreatedRp07 events
  · rw [addressed_iff_geometry (hcreated h)]
    exact (iff_true_right h).symm
  · rw [addressed_iff_geometry (hnot h)]
    cases o.drive with
    | rp06 =>
        simp [h]
    | rp07 =>
        simp [h]

/-- An RP06 that was there first, and an RP07 from the snapshot of a process
that has ended. -/
theorem other_geometry :
    (∃ o ∈ (run Document [.create .rp06, .create .rp07]).objects,
      ¬ (run Document [.create .rp06, .create .rp07]).Addressed o) ∧
      ∃ o ∈ (run Document [.create .rp07, .save 0, .restart, .restore 0]).objects,
        ¬ (run Document [.create .rp07, .save 0, .restart, .restore 0]).Addressed o :=
  ⟨⟨Rp06Object.begun .rp06, List.mem_cons_self, not_addressed_rp06
      ⟨rfl, rfl⟩ rfl⟩,
    ⟨Rp06Object.begun .rp07, List.mem_cons_self, not_addressed_rp07
      ⟨rfl, rfl⟩ rfl⟩⟩

end Rp06World

end Runs

end KekPdp11
