import KekPdp11.DiskBackend

/-!
# KEK PDP-11: a disk backend as an array of bytes

What a backend holds is an array of bytes: the sectors of the overlay where
there are any, and the image elsewhere.  Writes store into that array; with
the overlay in use they leave the image alone.

Reads are right when every sector after the first comes from the overlay:
pread and the NBD transfer put what they read at the start of the buffer, for
each sector anew.
-/

namespace KekPdp11

open StateExcept Slices

namespace Overlaid

/-- The byte that the disk holds at a position. -/
def byteAt (b : Overlaid) (image : Image) (sectorSize p : Nat) : Byte :=
  match b.getFromOverlay p sectorSize with
  | some data => data.getD (p % sectorSize) 0
  | none => image.bytes p

/-- The sectors of the overlay have the sector size. -/
def WellSized (b : Overlaid) (sectorSize : Nat) : Prop :=
  ∀ id data, b.getObjectFromOverlay id = some data → data.length = sectorSize

/-- The overlay has the sectors from position `p` on. -/
def Hits (b : Overlaid) (sectorSize sectors p : Nat) : Prop :=
  ∀ j, j < sectors →
    (b.getFromOverlay (p + j * sectorSize) sectorSize).isSome = true

variable {b : Overlaid} {image : Image} {sectorSize : Nat}

/-- The positions of one sector have one overlay entry. -/
theorem getFromOverlay_add
    (hsize : 0 < sectorSize) {p i : Nat} (haligned : sectorSize ∣ p)
    (hi : i < sectorSize) :
    b.getFromOverlay (p + i) sectorSize = b.getFromOverlay p sectorSize := by
  obtain ⟨id, rfl⟩ := haligned
  unfold getFromOverlay
  rw [Nat.mul_add_div hsize, Nat.div_eq_of_lt hi,
    Nat.mul_div_cancel_left _ hsize, Nat.add_zero]

theorem WellSized.storeObject
    (h : b.WellSized sectorSize) {id : Nat} {data : List Byte}
    (hdata : data.length = sectorSize) :
    (b.storeObjectInOverlay id data).WellSized sectorSize := by
  intro id' data' hlookup
  unfold getObjectFromOverlay storeObjectInOverlay at hlookup
  by_cases hid : id' = id
  · subst hid
    rw [AList.lookup_insert] at hlookup
    injection hlookup with heq
    rw [← heq]
    exact hdata
  · rw [AList.lookup_insert_ne hid] at hlookup
    exact h id' data' hlookup

/-- A sector that goes to the overlay is stored in the array. -/
theorem byteAt_storeObject
    (hsize : 0 < sectorSize) (huse : b.useOverlay = true)
    (id : Nat) {data : List Byte} (hdata : data.length = sectorSize) :
    (b.storeObjectInOverlay id data).byteAt image sectorSize =
      overwrite (b.byteAt image sectorSize) (id * sectorSize) data := by
  funext p
  have hmod := Nat.mod_lt p hsize
  have hp : p = p / sectorSize * sectorSize + p % sectorSize :=
    (Nat.div_add_mod' p sectorSize).symm
  by_cases hid : p / sectorSize = id
  · subst hid
    have hlookup : (b.storeObjectInOverlay (p / sectorSize)
        data).getFromOverlay p sectorSize = some data := by
      simp [getFromOverlay, getObjectFromOverlay, storeObjectInOverlay, huse]
    have hoffset : p - p / sectorSize * sectorSize = p % sectorSize := by
      omega
    rw [byteAt, hlookup, overwrite_inside_of_le (by omega) (by omega)]
    simp [hoffset, hdata, hmod]
  · have hlookup : (b.storeObjectInOverlay id data).getFromOverlay p
        sectorSize = b.getFromOverlay p sectorSize := by
      simp [getFromOverlay, getObjectFromOverlay, storeObjectInOverlay, huse,
        hid]
    rw [byteAt, hlookup, overwrite_outside]
    · rfl
    · rw [hdata]
      rcases Nat.lt_or_gt_of_ne hid with hlt | hgt
      · left
        have := Nat.mul_le_mul_right sectorSize (Nat.succ_le_of_lt hlt)
        rw [Nat.succ_mul] at this
        omega
      · right
        have := Nat.mul_le_mul_right sectorSize (Nat.succ_le_of_lt hgt)
        rw [Nat.succ_mul] at this
        omega

section Store

variable (offset : Nat) (source : Buffer)

@[simp] theorem storeSectors_useOverlay
    (k : Nat) :
    (b.storeSectors offset source sectorSize k).useOverlay =
      b.useOverlay := by
  induction k with
  | zero =>
      rfl
  | succ k ih =>
      exact ih

theorem storeSectors_wellSized
    (h : b.WellSized sectorSize) (k : Nat) :
    (b.storeSectors offset source sectorSize k).WellSized sectorSize := by
  induction k with
  | zero =>
      exact h
  | succ k ih =>
      exact ih.storeObject (length_slice _ _ _)

theorem byteAt_storeSectors
    (hsize : 0 < sectorSize) (huse : b.useOverlay = true)
    (haligned : sectorSize ∣ offset) (k : Nat) :
    (b.storeSectors offset source sectorSize k).byteAt image sectorSize =
      overwrite (b.byteAt image sectorSize) offset
        (slice source 0 (k * sectorSize)) := by
  induction k with
  | zero =>
      simp [storeSectors]
  | succ k ih =>
      have hid : (offset + k * sectorSize) / sectorSize * sectorSize =
          offset + k * sectorSize :=
        Nat.div_mul_cancel (Nat.dvd_add haligned ⟨k, Nat.mul_comm _ _⟩)
      have hjoined := overwrite_slices (b.byteAt image sectorSize) source
        offset 0 (k * sectorSize) sectorSize
      rw [Nat.zero_add] at hjoined
      rw [storeSectors, byteAt_storeObject hsize (by simpa using huse) _
        (length_slice _ _ _), ih, hid, hjoined, Nat.succ_mul]

end Store

section Copy

/-- The buffer after sectors of the overlay have been copied to it. -/
def copyHits (b : Overlaid) (offsetIn sectorSize : Nat) :
    (sectors o : Nat) → Buffer → Buffer
  | 0, _, target => target
  | k + 1, o, target =>
      copyHits b offsetIn sectorSize k (o + sectorSize)
        (overwrite target o
          (((b.getFromOverlay (offsetIn + o) sectorSize).getD []).take
            sectorSize))

variable {offsetIn : Nat}

/-- The rest of the sectors, when the overlay has them all. -/
theorem Hits.tail
    {k p : Nat} (h : b.Hits sectorSize (k + 1) p) :
    b.Hits sectorSize k (p + sectorSize) := by
  intro j hj
  have := h (j + 1) (by omega)
  rwa [Nat.succ_mul, Nat.add_comm (j * sectorSize), ← Nat.add_assoc] at this

theorem Hits.head
    {k p : Nat} (h : b.Hits sectorSize (k + 1) p) :
    ∃ data, b.getFromOverlay p sectorSize = some data := by
  have := h 0 (by omega)
  rw [Nat.zero_mul, Nat.add_zero] at this
  exact Option.isSome_iff_exists.mp this

/-- A sector of the overlay, byte by byte. -/
theorem byteAt_of_hit
    (image : Image) (hsize : 0 < sectorSize) (hsized : b.WellSized sectorSize)
    {p i : Nat} {data : List Byte} (haligned : sectorSize ∣ p)
    (hdata : b.getFromOverlay p sectorSize = some data) (hi : i < sectorSize) :
    ∃ h : i < data.length, b.byteAt image sectorSize (p + i) = data[i] := by
  have hlength : data.length = sectorSize := by
    unfold getFromOverlay at hdata
    split at hdata
    · exact hsized _ _ hdata
    · cases hdata
  refine ⟨by omega, ?_⟩
  rw [byteAt, getFromOverlay_add hsize haligned hi, hdata]
  obtain ⟨id, rfl⟩ := haligned
  simp [Nat.mod_eq_of_lt hi, hlength, hi]

/-- A sector of the overlay at the start of the buffer. -/
theorem overwrite_hit
    (hsize : 0 < sectorSize) (hsized : b.WellSized sectorSize)
    {p i : Nat} {data : List Byte} {target : Buffer}
    (haligned : sectorSize ∣ p)
    (hdata : b.getFromOverlay p sectorSize = some data) (hi : i < sectorSize) :
    overwrite target 0 (data.take sectorSize) i =
      b.byteAt image sectorSize (p + i) := by
  obtain ⟨hlength, hbyte⟩ :=
    byteAt_of_hit image hsize hsized haligned hdata hi
  rw [hbyte, overwrite_inside_of_le (Nat.zero_le i) (by simp; omega)]
  simp

/-- Copying sectors of the overlay leaves what is in front of them. -/
theorem copyHits_before
    (k o : Nat) (target : Buffer) {i : Nat} (hi : i < o) :
    copyHits b offsetIn sectorSize k o target i = target i := by
  induction k generalizing o target with
  | zero =>
      rfl
  | succ k ih =>
      rw [copyHits, ih _ _ (by omega), overwrite_before hi]

/-- Copying sectors of the overlay copies what the disk holds. -/
theorem copyHits_inside
    (image : Image) (hsize : 0 < sectorSize) (hsized : b.WellSized sectorSize)
    (k o : Nat) (target : Buffer)
    (haligned : sectorSize ∣ offsetIn + o)
    (hhits : b.Hits sectorSize k (offsetIn + o))
    {i : Nat} (hi : i < k * sectorSize) :
    copyHits b offsetIn sectorSize k o target (o + i) =
      b.byteAt image sectorSize (offsetIn + o + i) := by
  induction k generalizing o target i with
  | zero =>
      simp at hi
  | succ k ih =>
      rw [Nat.succ_mul] at hi
      rcases Nat.lt_or_ge i sectorSize with hlt | hge
      · obtain ⟨data, hdata⟩ := hhits.head
        obtain ⟨hlength, hbyte⟩ :=
          byteAt_of_hit image hsize hsized haligned hdata hlt
        rw [copyHits, copyHits_before _ _ _ (by omega), hdata, hbyte,
          Option.getD_some, overwrite_inside (by simp; omega)]
        simp
      · obtain ⟨j, rfl⟩ := Nat.exists_eq_add_of_le hge
        have hnext := ih (o + sectorSize)
          (overwrite target o
            (((b.getFromOverlay (offsetIn + o) sectorSize).getD []).take
              sectorSize))
          (by rw [← Nat.add_assoc]; exact Nat.dvd_add haligned (Nat.dvd_refl _))
          (by rw [← Nat.add_assoc]; exact hhits.tail) (i := j) (by omega)
        rw [copyHits, ← Nat.add_assoc, hnext]
        congr 1
        omega

/-- The first sector of a request is right and the overlay has the others. -/
theorem copyHits_request
    (hsize : 0 < sectorSize) (hsized : b.WellSized sectorSize)
    {k : Nat} {target : Buffer} (haligned : sectorSize ∣ offsetIn)
    (hfirst : ∀ i, i < sectorSize →
      target i = b.byteAt image sectorSize (offsetIn + i))
    (hhits : b.Hits sectorSize k (offsetIn + sectorSize))
    {i : Nat} (hi : i < (k + 1) * sectorSize) :
    copyHits b offsetIn sectorSize k sectorSize target i =
      b.byteAt image sectorSize (offsetIn + i) := by
  rcases Nat.lt_or_ge i sectorSize with hlt | hge
  · rw [copyHits_before _ _ _ hlt, hfirst i hlt]
  · obtain ⟨j, rfl⟩ := Nat.exists_eq_add_of_le hge
    rw [Nat.succ_mul] at hi
    rw [copyHits_inside image hsize hsized _ _ _
      (Nat.dvd_add haligned (Nat.dvd_refl _)) hhits (by omega), Nat.add_assoc]

end Copy

end Overlaid

section Calls

variable {β : Type}

@[simp] theorem diskAssert_bind_apply
    {α : Type} (c : Bool) (k : Unit → DiskCall β α) (b : β) :
    (diskAssert c >>= k) b = if c then k () b else .error .assertion b := by
  cases c <;> rfl

end Calls

namespace FileBackend

variable (f : FileBackend) (offsetIn n sectorSize : Nat)

theorem getElem_preadFd
    {n offset i : Nat} (h : i < (f.preadFd n offset).length) :
    (f.preadFd n offset)[i] = f.image.bytes (offset + i) := by
  unfold preadFd at h ⊢
  split
  · simp [Image.pread, slice]
  · rename_i hclosed
    rw [if_neg hclosed] at h
    cases h

/-- One pass of the loop of read. -/
theorem readSectors_succ
    (k o : Nat) (target : Buffer) :
    readSectors offsetIn n sectorSize (k + 1) o target f =
      if (offsetIn + o) % sectorSize = 0 then
        match f.getFromOverlay (offsetIn + o) sectorSize with
        | some data =>
            readSectors offsetIn n sectorSize k (o + sectorSize)
              (overwrite target o (data.take sectorSize)) f
        | none =>
            if (f.preadFd n (offsetIn + o)).length ≠ n then
              .ok (false, overwrite target 0 (f.preadFd n (offsetIn + o))) f
            else
              readSectors offsetIn n sectorSize k (o + sectorSize)
                (overwrite target 0 (f.preadFd n (offsetIn + o))) f
      else
        .error .assertion f := by
  rw [readSectors]
  simp only [diskAssert_bind_apply, view_bind_apply, decide_eq_true_eq, id]
  split
  · cases f.getFromOverlay (offsetIn + o) sectorSize with
    | some data =>
        rfl
    | none =>
        simp only [ite_apply_state, pure_apply]
  · rfl

/-- Reading leaves the backend as it is. -/
theorem final_readSectors
    (k o : Nat) (target : Buffer) :
    final (readSectors offsetIn n sectorSize k o target f) = f := by
  induction k generalizing o target with
  | zero =>
      rfl
  | succ k ih =>
      rw [readSectors_succ]
      split
      · split
        · exact ih _ _
        · split
          · rfl
          · exact ih _ _
      · rfl

variable {f offsetIn n sectorSize}

/-- Sectors of the overlay are copied. -/
theorem readSectors_hits
    (k o : Nat) (target : Buffer) (haligned : sectorSize ∣ offsetIn + o)
    (hhits : f.Hits sectorSize k (offsetIn + o)) :
    readSectors offsetIn n sectorSize k o target f =
      .ok (true, f.copyHits offsetIn sectorSize k o target) f := by
  induction k generalizing o target with
  | zero =>
      rfl
  | succ k ih =>
      obtain ⟨data, hdata⟩ := hhits.head
      rw [readSectors_succ, if_pos (Nat.mod_eq_zero_of_dvd haligned)]
      simp only [hdata, Overlaid.copyHits, Option.getD_some]
      apply ih
      · rw [← Nat.add_assoc]
        exact Nat.dvd_add haligned (Nat.dvd_refl _)
      · rw [← Nat.add_assoc]
        exact hhits.tail

/-- A read of whole sectors of which the overlay has all but the first. -/
theorem readSectors_right
    (hsize : 0 < sectorSize) (hsized : f.WellSized sectorSize)
    {k : Nat} {target t : Buffer} {f' : FileBackend}
    (haligned : sectorSize ∣ offsetIn)
    (hhits : f.Hits sectorSize k (offsetIn + sectorSize))
    (hread : readSectors offsetIn ((k + 1) * sectorSize) sectorSize (k + 1) 0
      target f = .ok (true, t) f')
    {i : Nat} (hi : i < (k + 1) * sectorSize) :
    t i = f.byteAt f.image sectorSize (offsetIn + i) := by
  have hnext := Nat.dvd_add haligned (Nat.dvd_refl sectorSize)
  rw [readSectors_succ, Nat.add_zero,
    if_pos (Nat.mod_eq_zero_of_dvd haligned), Nat.zero_add] at hread
  cases hdata : f.getFromOverlay offsetIn sectorSize with
  | some data =>
      simp only [hdata] at hread
      rw [readSectors_hits _ _ _ hnext hhits] at hread
      injection hread with ht
      injection ht with _ ht
      rw [← ht]
      refine Overlaid.copyHits_request hsize hsized haligned ?_ hhits hi
      intro j hj
      exact Overlaid.overwrite_hit hsize hsized haligned hdata hj
  | none =>
      simp only [hdata] at hread
      split at hread
      · cases hread
      · rename_i hlength
        rw [not_not] at hlength
        rw [readSectors_hits _ _ _ hnext hhits] at hread
        injection hread with ht
        injection ht with _ ht
        rw [← ht]
        refine Overlaid.copyHits_request hsize hsized haligned ?_ hhits hi
        intro j hj
        rw [Overlaid.byteAt, Overlaid.getFromOverlay_add hsize haligned hj,
          hdata]
        have hj' : j < (k + 1) * sectorSize := by
          rw [Nat.succ_mul]
          omega
        rw [overwrite_inside_of_le (Nat.zero_le j) (by omega)]
        exact f.getElem_preadFd _

end FileBackend

namespace NbdBackend

variable (d : NbdBackend) (offsetIn n sectorSize : Nat)

/-- One pass of the loop of read. -/
theorem readSectors_succ
    (k o : Nat) (target : Buffer) :
    readSectors offsetIn sectorSize (k + 1) o target d =
      if (offsetIn + o) % sectorSize = 0 then
        match d.getFromOverlay (offsetIn + o) sectorSize with
        | some data =>
            readSectors offsetIn sectorSize k (o + sectorSize)
              (overwrite target o (data.take sectorSize)) d
        | none =>
            match fetchSector d.server (offsetIn + o) sectorSize d.network
              target with
            | none => .error .blocked d
            | some ((ok, t), rest) =>
                if ok then
                  readSectors offsetIn sectorSize k (o + sectorSize) t
                    { d with network := rest }
                else
                  .ok (false, t) { d with network := rest }
      else
        .error .assertion d := by
  rw [readSectors]
  simp only [diskAssert_bind_apply, view_bind_apply, decide_eq_true_eq, id]
  split
  · cases d.getFromOverlay (offsetIn + o) sectorSize with
    | some data =>
        rfl
    | none =>
        dsimp only
        cases fetchSector d.server (offsetIn + o) sectorSize d.network
          target with
        | none =>
            rfl
        | some result =>
            obtain ⟨⟨ok, t⟩, rest⟩ := result
            cases ok <;> rfl
  · rfl

/-- Reading only uses up what the network does. -/
theorem final_readSectors
    (k o : Nat) (target : Buffer) :
    ∃ rest, final (readSectors offsetIn sectorSize k o target d) =
      { d with network := rest } := by
  induction k generalizing d o target with
  | zero =>
      exact ⟨d.network, rfl⟩
  | succ k ih =>
      rw [readSectors_succ]
      split
      · split
        · exact ih _ _ _
        · split
          · exact ⟨d.network, rfl⟩
          · split
            · exact ih _ _ _
            · exact ⟨_, rfl⟩
      · exact ⟨d.network, rfl⟩

variable {d offsetIn n sectorSize}

/-- Sectors of the overlay are copied. -/
theorem readSectors_hits
    (k o : Nat) (target : Buffer) (haligned : sectorSize ∣ offsetIn + o)
    (hhits : d.Hits sectorSize k (offsetIn + o)) :
    readSectors offsetIn sectorSize k o target d =
      .ok (true, d.copyHits offsetIn sectorSize k o target) d := by
  induction k generalizing o target with
  | zero =>
      rfl
  | succ k ih =>
      obtain ⟨data, hdata⟩ := hhits.head
      rw [readSectors_succ, if_pos (Nat.mod_eq_zero_of_dvd haligned)]
      simp only [hdata, Overlaid.copyHits, Option.getD_some]
      apply ih
      · rw [← Nat.add_assoc]
        exact Nat.dvd_add haligned (Nat.dvd_refl _)
      · rw [← Nat.add_assoc]
        exact hhits.tail

/-- A sector that has been fetched is at the start of the buffer, whatever
the network did before. -/
theorem fetchSector_right
    {server : Image} {offset : Nat} {network rest : List Attempt}
    {target t : Buffer}
    (h : fetchSector server offset sectorSize network target =
      some ((true, t), rest))
    {i : Nat} (hi : i < sectorSize) :
    t i = server.bytes (offset + i) := by
  induction network generalizing target with
  | nil =>
      cases h
  | cons attempt network ih =>
      cases attempt with
      | refused | brokenPipe =>
          cases h
      | notGreeted | requestLost | replyLost =>
          exact ih h
      | payloadLost received =>
          simp only [fetchSector] at h
          split at h
          · cases h
          · exact ih h
      | served =>
          simp only [fetchSector] at h
          split at h
          · cases h
          · rename_i data hdata
            split at h
            · rename_i hlength
              injection h with h
              injection h with h
              injection h with _ ht
              unfold serverRead at hdata
              split at hdata
              · injection hdata with hdata
                subst hdata
                rw [length_slice] at hlength
                rw [← ht, overwrite_inside_of_le (Nat.zero_le i)
                  (by rw [length_slice]; omega)]
                simp [slice]
              · cases hdata
            · exact ih h

/-- A read of whole sectors of which the overlay has all but the first. -/
theorem readSectors_right
    (hsize : 0 < sectorSize) (hsized : d.WellSized sectorSize)
    {k : Nat} {target t : Buffer} {d' : NbdBackend}
    (haligned : sectorSize ∣ offsetIn)
    (hhits : d.Hits sectorSize k (offsetIn + sectorSize))
    (hread : readSectors offsetIn sectorSize (k + 1) 0 target d =
      .ok (true, t) d')
    {i : Nat} (hi : i < (k + 1) * sectorSize) :
    t i = d.byteAt d.server sectorSize (offsetIn + i) := by
  have hnext := Nat.dvd_add haligned (Nat.dvd_refl sectorSize)
  rw [readSectors_succ, Nat.add_zero,
    if_pos (Nat.mod_eq_zero_of_dvd haligned), Nat.zero_add] at hread
  cases hdata : d.getFromOverlay offsetIn sectorSize with
  | some data =>
      simp only [hdata] at hread
      rw [readSectors_hits _ _ _ hnext hhits] at hread
      injection hread with ht
      injection ht with _ ht
      rw [← ht]
      refine Overlaid.copyHits_request hsize hsized haligned ?_ hhits hi
      intro j hj
      exact Overlaid.overwrite_hit hsize hsized haligned hdata hj
  | none =>
      simp only [hdata] at hread
      split at hread
      · cases hread
      · rename_i ok t' rest hfetch
        split at hread
        · rename_i hok
          subst hok
          rw [readSectors_hits (d := { d with network := rest }) _ _ _ hnext
            hhits] at hread
          injection hread with ht
          injection ht with _ ht
          rw [← ht]
          refine Overlaid.copyHits_request hsize hsized haligned ?_ hhits hi
          intro j hj
          rw [Overlaid.byteAt, Overlaid.getFromOverlay_add hsize haligned hj,
            hdata]
          exact fetchSector_right hfetch hj
        · cases hread

/-- The server answers a repeated request like the first one. -/
theorem serverWrite_again
    (server : Image) (offset n : Nat) (source : Buffer) :
    serverWrite ((serverWrite server offset n source).getD server) offset n
      source = serverWrite server offset n source := by
  by_cases hfits : offset + requestLength n ≤ server.size
  · have hfirst : serverWrite server offset n source =
        some (server.pwrite (slice source 0 (requestLength n)) offset) :=
      if_pos hfits
    have hsize : (server.pwrite (slice source 0 (requestLength n))
        offset).size = server.size := by
      simp only [Image.pwrite, length_slice]
      split
      · rfl
      · omega
    rw [hfirst, Option.getD_some]
    unfold serverWrite
    rw [hsize, if_pos hfits]
    congr 1
    ext1
    · rw [hsize]
      simp only [Image.pwrite, length_slice]
      split
      · rfl
      · omega
    · exact overwrite_idem _ _ _
  · have hfirst : serverWrite server offset n source = none :=
      if_neg hfits
    rw [hfirst, Option.getD_none, hfirst]

/-- A write ends as the server's answer to the request, whatever the network
did before. -/
theorem transmit_served
    {offset : Nat} {source : Buffer} {network rest : List Attempt}
    {server server' : Image} {ok : Bool}
    (h : transmit offset n source network server =
      some ((ok, server'), rest)) :
    ok = (serverWrite server offset n source).isSome ∧
      server' = (serverWrite server offset n source).getD server := by
  induction network generalizing server with
  | nil =>
      cases h
  | cons attempt network ih =>
      have hlost : transmit offset n source network
          ((serverWrite server offset n source).getD server) =
            some ((ok, server'), rest) →
          ok = (serverWrite server offset n source).isSome ∧
            server' = (serverWrite server offset n source).getD server := by
        intro hrest
        have hnext := ih hrest
        rw [serverWrite_again] at hnext
        cases hserved : serverWrite server offset n source with
        | none =>
            simpa [hserved] using hnext
        | some served =>
            simpa [hserved] using hnext
      cases attempt with
      | refused | brokenPipe =>
          cases h
      | notGreeted | requestLost =>
          exact ih h
      | replyLost =>
          exact hlost h
      | payloadLost received =>
          exact hlost h
      | served =>
          simp only [transmit] at h
          split at h
          · rename_i hserved
            injection h with h
            injection h with h
            injection h with hok hserver
            exact ⟨by rw [hserved, ← hok]; rfl, by rw [hserved, ← hserver]; rfl⟩
          · rename_i served hserved
            injection h with h
            injection h with h
            injection h with hok hserver
            exact ⟨by rw [hserved, ← hok]; rfl, by rw [hserved, ← hserver]; rfl⟩

end NbdBackend

namespace Backend

variable {b b' : Backend} {offset n sectorSize : Nat}

/-- The byte that the disk holds at a position. -/
def byteAt (b : Backend) (sectorSize p : Nat) : Byte :=
  b.overlaid.byteAt b.image sectorSize p

/-- The overlay has every sector of the request but the first. -/
def ReadFits (b : Backend) (offset n sectorSize : Nat) : Prop :=
  ∀ j, 0 < j → j * sectorSize < n →
    (b.overlaid.getFromOverlay (offset + j * sectorSize) sectorSize).isSome =
      true

/-- What goes to an NBD server has a length of 32 bits. -/
def WriteFits (b : Backend) (n : Nat) : Prop :=
  match b with
  | .file _ => True
  | .nbd d => d.useOverlay = true ∨ n < 2 ^ 32

/-- A call that returned came back from the derived class. -/
theorem received_eq_ok
    {β α : Type} {wrap : β → Backend} {r : EStateM.Result DiskStop β α} {a : α}
    (h : received wrap r = .ok a b') :
    ∃ c, r = .ok a c ∧ b' = wrap c := by
  cases r with
  | ok a' c =>
      injection h with ha hb
      subst ha
      exact ⟨c, rfl, hb.symm⟩
  | error e c =>
      cases h

/-- Reading leaves what the disk holds. -/
theorem read_keeps
    {target : Buffer} {r : Bool × Buffer}
    (h : DiskBackend.read offset n target sectorSize b = .ok r b') :
    b'.overlaid = b.overlaid ∧ b'.image = b.image := by
  cases b with
  | file f =>
      obtain ⟨f', hf', rfl⟩ := received_eq_ok h
      simp only [FileBackend.read, diskAssert_bind_apply] at hf'
      split at hf'
      · split at hf'
        · have hfinal := FileBackend.final_readSectors f offset n sectorSize
            (n / sectorSize) 0 target
          rw [hf', final_ok] at hfinal
          rw [hfinal]
          exact ⟨rfl, rfl⟩
        · cases hf'
      · cases hf'
  | nbd d =>
      obtain ⟨d', hd', rfl⟩ := received_eq_ok h
      obtain ⟨rest, hfinal⟩ := NbdBackend.final_readSectors d offset
        sectorSize ((n + sectorSize - 1) / sectorSize) 0 target
      rw [NbdBackend.read] at hd'
      rw [hd', final_ok] at hfinal
      rw [hfinal]
      exact ⟨rfl, rfl⟩

/-- A read that returns true has read what the disk holds, when the overlay
has every sector but the first. -/
theorem read_right
    (hsize : 0 < sectorSize) (hsized : b.overlaid.WellSized sectorSize)
    (hoffset : sectorSize ∣ offset) (hn : sectorSize ∣ n)
    (hfits : b.ReadFits offset n sectorSize) {target t : Buffer}
    (h : DiskBackend.read offset n target sectorSize b = .ok (true, t) b')
    {i : Nat} (hi : i < n) :
    t i = b.byteAt sectorSize (offset + i) := by
  obtain ⟨m, rfl⟩ := hn
  rw [Nat.mul_comm] at hfits h hi
  obtain ⟨k, rfl⟩ : ∃ k, m = k + 1 := by
    cases m with
    | zero =>
        simp at hi
    | succ k =>
        exact ⟨k, rfl⟩
  have hhits : b.overlaid.Hits sectorSize k (offset + sectorSize) := by
    intro j hj
    have := hfits (j + 1) (by omega)
      (Nat.mul_lt_mul_of_pos_right (by omega) hsize)
    rwa [Nat.succ_mul, Nat.add_comm (j * sectorSize), ← Nat.add_assoc] at this
  cases b with
  | file f =>
      obtain ⟨f', hf', rfl⟩ := received_eq_ok h
      simp only [FileBackend.read, diskAssert_bind_apply,
        Nat.mod_eq_zero_of_dvd hoffset, Nat.mul_mod_left, decide_true,
        if_true, Nat.mul_div_cancel _ hsize] at hf'
      exact FileBackend.readSectors_right hsize hsized hoffset hhits hf' hi
  | nbd d =>
      obtain ⟨d', hd', rfl⟩ := received_eq_ok h
      have hsectors : ((k + 1) * sectorSize + sectorSize - 1) / sectorSize =
          k + 1 := by
        rw [Nat.add_sub_assoc hsize, Nat.mul_comm, Nat.mul_add_div hsize,
          Nat.div_eq_of_lt (by omega), Nat.add_zero]
      rw [NbdBackend.read, hsectors] at hd'
      exact NbdBackend.readSectors_right hsize hsized hoffset hhits hd' hi

/-- What a write that returns true leaves. -/
structure Stores (b b' : Backend) (offset n sectorSize : Nat)
    (source : Buffer) : Prop where
  byteAt : b'.byteAt sectorSize =
    overwrite (b.byteAt sectorSize) offset (slice source 0 n)
  useOverlay : b'.overlaid.useOverlay = b.overlaid.useOverlay
  wellSized : b'.overlaid.WellSized sectorSize
  image : b.overlaid.useOverlay = true → b'.image = b.image

/-- A write that takes place in the overlay. -/
theorem stores_of_overlay
    (hsize : 0 < sectorSize) (hsized : b.overlaid.WellSized sectorSize)
    (huse : b.overlaid.useOverlay = true)
    (hoffset : sectorSize ∣ offset) (hn : sectorSize ∣ n) {source : Buffer}
    (hoverlaid : b'.overlaid =
      b.overlaid.storeMemRangeInOverlay offset n source sectorSize)
    (himage : b'.image = b.image) :
    Stores b b' offset n sectorSize source := by
  have hstore : b'.overlaid =
      b.overlaid.storeSectors offset source sectorSize (n / sectorSize) := by
    rw [hoverlaid, Overlaid.storeMemRangeInOverlay, if_pos huse]
  constructor
  · unfold Backend.byteAt
    rw [hstore, himage, Overlaid.byteAt_storeSectors _ _ hsize huse hoffset,
      Nat.div_mul_cancel hn]
  · rw [hstore, Overlaid.storeSectors_useOverlay]
  · rw [hstore]
    exact Overlaid.storeSectors_wellSized _ _ hsized _
  · intro _
    exact himage

/-- A write that takes place in the image. -/
theorem stores_of_image
    (hsized : b.overlaid.WellSized sectorSize)
    (huse : b.overlaid.useOverlay ≠ true) {source : Buffer}
    (hoverlaid : b'.overlaid = b.overlaid)
    (himage : b'.image.bytes = overwrite b.image.bytes offset
      (slice source 0 n)) :
    Stores b b' offset n sectorSize source := by
  have hmiss : ∀ p, b.overlaid.getFromOverlay p sectorSize = none := by
    intro p
    rw [Overlaid.getFromOverlay, if_neg huse]
  constructor
  · funext p
    have hbyte : b.byteAt sectorSize = b.image.bytes := by
      funext q
      rw [Backend.byteAt, Overlaid.byteAt, hmiss]
    rw [Backend.byteAt, Overlaid.byteAt, hoverlaid, hmiss, hbyte, himage]
  · rw [hoverlaid]
  · rw [hoverlaid]
    exact hsized
  · intro h
    exact absurd h huse

/-- What the server's answer to a write leaves. -/
theorem answered
    {d : NbdBackend} {server : Image} {rest : List Attempt} {source : Buffer}
    (huse : d.useOverlay ≠ true) (hsized : d.WellSized sectorSize)
    (hserver : server =
      (NbdBackend.serverWrite d.server offset n source).getD d.server) :
    ((NbdBackend.serverWrite d.server offset n source).isSome = true →
      (Backend.nbd d).WriteFits n →
      Stores (.nbd d) (.nbd { d with server := server, network := rest })
        offset n sectorSize source) ∧
      ((NbdBackend.serverWrite d.server offset n source).isSome = false →
        d.toOverlaid = d.toOverlaid ∧ server = d.server) := by
  cases hserved : NbdBackend.serverWrite d.server offset n source with
  | none =>
      rw [hserved] at hserver
      exact ⟨nofun, fun _ => ⟨rfl, hserver⟩⟩
  | some served =>
      refine ⟨fun _ hfits => ?_, nofun⟩
      rw [hserved, Option.getD_some] at hserver
      have hlength := hfits.resolve_left huse
      unfold NbdBackend.serverWrite NbdBackend.requestLength at hserved
      rw [Nat.mod_eq_of_lt hlength] at hserved
      split at hserved
      · injection hserved with hserved
        subst hserved
        exact stores_of_image (b := .nbd d) hsized huse rfl
          (congrArg Image.bytes hserver)
      · cases hserved

/-- A write that returns true stores; one that returns false does nothing. -/
theorem write_stores
    (hsize : 0 < sectorSize) (hsized : b.overlaid.WellSized sectorSize)
    (hoffset : sectorSize ∣ offset) (hn : sectorSize ∣ n)
    {source : Buffer} {ok : Bool}
    (h : DiskBackend.write offset n source sectorSize b = .ok ok b') :
    (ok = true → b.WriteFits n → Stores b b' offset n sectorSize source) ∧
      (ok = false → b'.overlaid = b.overlaid ∧ b'.image = b.image) := by
  cases b with
  | file f =>
      obtain ⟨f', hf', rfl⟩ := received_eq_ok h
      simp only [FileBackend.write, diskAssert_bind_apply, view_bind_apply,
        Nat.mod_eq_zero_of_dvd hoffset, Nat.mod_eq_zero_of_dvd hn,
        decide_true, if_true, id, ite_apply_state, update_bind_apply,
        pure_apply] at hf'
      split at hf'
      · rename_i huse
        injection hf' with hok hf'
        subst hok
        subst hf'
        refine ⟨fun _ _ => ?_, nofun⟩
        exact stores_of_overlay hsize hsized huse hoffset hn rfl rfl
      · rename_i huse
        split at hf'
        · injection hf' with hok hf'
          subst hok
          subst hf'
          refine ⟨fun _ _ => ?_, nofun⟩
          exact stores_of_image hsized huse rfl rfl
        · injection hf' with hok hf'
          subst hok
          subst hf'
          exact ⟨nofun, fun _ => ⟨rfl, rfl⟩⟩
  | nbd d =>
      obtain ⟨d', hd', rfl⟩ := received_eq_ok h
      simp only [NbdBackend.write, diskAssert_bind_apply, view_bind_apply,
        Nat.mod_eq_zero_of_dvd hoffset, Nat.mod_eq_zero_of_dvd hn,
        decide_true, if_true, id, ite_apply_state, update_bind_apply,
        pure_apply] at hd'
      split at hd'
      · rename_i hzero
        injection hd' with hok hd'
        subst hok
        subst hd'
        subst hzero
        refine ⟨fun _ _ => ⟨?_, rfl, hsized, fun _ => rfl⟩, nofun⟩
        rw [slice_zero, overwrite_nil]
      · split at hd'
        · rename_i huse
          injection hd' with hok hd'
          subst hok
          subst hd'
          refine ⟨fun _ _ => ?_, nofun⟩
          exact stores_of_overlay hsize hsized huse hoffset hn rfl rfl
        · rename_i huse
          cases htransmit : NbdBackend.transmit offset n source d.network
            d.server with
          | none =>
              rw [htransmit] at hd'
              cases hd'
          | some result =>
              obtain ⟨⟨answer, server⟩, rest⟩ := result
              rw [htransmit] at hd'
              obtain ⟨hanswer, hserver⟩ :=
                NbdBackend.transmit_served htransmit
              injection hd' with hok hd'
              subst hd'
              rw [← hok, hanswer]
              exact answered huse hsized hserver

end Backend

/-- A call of write: where, how much and from which buffer. -/
structure WriteCall where
  offset : Nat
  n : Nat
  source : Buffer

/-- The value of the latest of the writes, newest first, to a position, or
the original one if there was none. -/
def lastWritten (original : Nat → Byte) : List WriteCall → Nat → Byte
  | [], p => original p
  | w :: older, p =>
      if w.offset ≤ p ∧ p < w.offset + w.n then
        w.source (p - w.offset)
      else
        lastWritten original older p

theorem lastWritten_cons
    (original : Nat → Byte) (w : WriteCall) (older : List WriteCall) :
    lastWritten original (w :: older) =
      overwrite (lastWritten original older) w.offset
        (slice w.source 0 w.n) := by
  funext p
  rw [lastWritten]
  split
  · rename_i h
    rw [overwrite_inside_of_le h.1 (by simpa using h.2)]
    simp [slice]
  · rename_i h
    rw [overwrite_outside (by rw [length_slice]; omega)]

/-- The backends that calls of read and write in whole sectors lead to, with
the writes that have returned true, newest first. -/
inductive Served (sectorSize : Nat) (b₀ : Backend) :
    Backend → List WriteCall → Prop where
  | start : Served sectorSize b₀ b₀ []
  | read {b b' : Backend} {history : List WriteCall} {offset n : Nat}
      {target : Buffer} {r : Bool × Buffer}
      (before : Served sectorSize b₀ b history)
      (hoffset : sectorSize ∣ offset) (hn : sectorSize ∣ n)
      (call : DiskBackend.read offset n target sectorSize b = .ok r b') :
      Served sectorSize b₀ b' history
  | write {b b' : Backend} {history : List WriteCall} {offset n : Nat}
      {source : Buffer}
      (before : Served sectorSize b₀ b history)
      (hoffset : sectorSize ∣ offset) (hn : sectorSize ∣ n)
      (hfits : b.WriteFits n)
      (call : DiskBackend.write offset n source sectorSize b = .ok true b') :
      Served sectorSize b₀ b' (⟨offset, n, source⟩ :: history)
  | refused {b b' : Backend} {history : List WriteCall} {offset n : Nat}
      {source : Buffer}
      (before : Served sectorSize b₀ b history)
      (hoffset : sectorSize ∣ offset) (hn : sectorSize ∣ n)
      (call : DiskBackend.write offset n source sectorSize b = .ok false b') :
      Served sectorSize b₀ b' history

/-- What holds after any sequence of calls. -/
structure HoldsWrites (sectorSize : Nat) (b₀ b : Backend)
    (history : List WriteCall) : Prop where
  byteAt : b.byteAt sectorSize = lastWritten b₀.image.bytes history
  wellSized : b.overlaid.WellSized sectorSize
  useOverlay : b.overlaid.useOverlay = b₀.overlaid.useOverlay
  image : b₀.overlaid.useOverlay = true → b.image = b₀.image

theorem HoldsWrites.of_eq
    {sectorSize : Nat} {b₀ b b' : Backend} {history : List WriteCall}
    (h : HoldsWrites sectorSize b₀ b history)
    (hoverlaid : b'.overlaid = b.overlaid) (himage : b'.image = b.image) :
    HoldsWrites sectorSize b₀ b' history := by
  constructor
  · rw [← h.byteAt]
    unfold Backend.byteAt
    rw [hoverlaid, himage]
  · rw [hoverlaid]
    exact h.wellSized
  · rw [hoverlaid]
    exact h.useOverlay
  · rw [himage]
    exact h.image

/-- An empty overlay shows the image. -/
theorem HoldsWrites.start
    (sectorSize : Nat) {b₀ : Backend} (hfresh : b₀.overlaid.overlay = ∅) :
    HoldsWrites sectorSize b₀ b₀ [] := by
  have hlookup : ∀ id, b₀.overlaid.getObjectFromOverlay id = none := by
    intro id
    rw [Overlaid.getObjectFromOverlay, hfresh]
    exact AList.lookup_empty id
  constructor
  · funext p
    have hmiss : b₀.overlaid.getFromOverlay p sectorSize = none := by
      unfold Overlaid.getFromOverlay
      split
      · exact hlookup _
      · rfl
    rw [Backend.byteAt, Overlaid.byteAt, hmiss]
    rfl
  · intro id data hdata
    rw [hlookup] at hdata
    cases hdata
  · rfl
  · intro _
    rfl

/-- Every sequence of calls leaves the array as the writes say. -/
theorem Served.holds
    {sectorSize : Nat} (hsize : 0 < sectorSize) {b₀ b : Backend}
    (hfresh : b₀.overlaid.overlay = ∅) {history : List WriteCall}
    (h : Served sectorSize b₀ b history) :
    HoldsWrites sectorSize b₀ b history := by
  induction h with
  | start =>
      exact HoldsWrites.start sectorSize hfresh
  | read before hoffset hn call ih =>
      obtain ⟨hoverlaid, himage⟩ := Backend.read_keeps call
      exact ih.of_eq hoverlaid himage
  | write before hoffset hn hfits call ih =>
      have hstores := (Backend.write_stores hsize ih.wellSized hoffset hn
        call).1 rfl hfits
      constructor
      · rw [hstores.byteAt, ih.byteAt, lastWritten_cons]
      · exact hstores.wellSized
      · exact hstores.useOverlay.trans ih.useOverlay
      · intro huse
        exact (hstores.image (ih.useOverlay.trans huse)).trans (ih.image huse)
  | refused before hoffset hn call ih =>
      obtain ⟨hoverlaid, himage⟩ := (Backend.write_stores hsize ih.wellSized
        hoffset hn call).2 rfl
      exact ih.of_eq hoverlaid himage

/-- A disk backend is an array of bytes: after any sequence of calls in whole
sectors, a read that returns true, of sectors that the overlay has from the
second on, has read the latest writes; and with the overlay in use the image
is as it was. -/
theorem backend_reads_latest_writes
    {sectorSize : Nat} (hsize : 0 < sectorSize) {b₀ b : Backend}
    (hfresh : b₀.overlaid.overlay = ∅) {history : List WriteCall}
    (hserved : Served sectorSize b₀ b history) :
    (∀ offset n target t b', sectorSize ∣ offset → sectorSize ∣ n →
      b.ReadFits offset n sectorSize →
      DiskBackend.read offset n target sectorSize b = .ok (true, t) b' →
      ∀ i, i < n → t i = lastWritten b₀.image.bytes history (offset + i)) ∧
      (b₀.overlaid.useOverlay = true → b.image = b₀.image) := by
  have hholds := hserved.holds hsize hfresh
  refine ⟨?_, hholds.image⟩
  intro offset n target t b' hoffset hn hfits hread i hi
  rw [Backend.read_right hsize hholds.wellSized hoffset hn hfits hread hi,
    hholds.byteAt]

section Examples

/-- An image file of three sectors, each filled with its number. -/
def threeSectors (snapshots : Bool) : Backend :=
  .file
    { size := 768
      useOverlay := snapshots
      overlay := ∅
      filename := "disk.img"
      opened := true
      image :=
        { size := 768
          bytes := fun i => if i < 768 then BitVec.ofNat 8 (i / 256) else 0
          zero_beyond := fun i hi => if_neg (by omega) } }

/-- The backend after the second sector has been written to the overlay. -/
def secondWritten : Backend :=
  final (DiskBackend.write 256 256 (fun _ => 7) 256 (threeSectors true))

/-- The buffer after the first two sectors have been read. -/
def firstTwoRead (b : Backend) : Option (Bool × Buffer) :=
  value? (DiskBackend.read 0 512 (fun _ => 0) 256 b)

/-- The second sector comes from the overlay. -/
theorem backend_reads_latest_writes_overlay :
    (∀ t, firstTwoRead secondWritten = some (true, t) → ∀ i, i < 512 →
      t i = lastWritten (threeSectors true).image.bytes
        [⟨256, 256, fun _ => 7⟩] (0 + i)) ∧
      secondWritten.image = (threeSectors true).image := by
  have hserved : Served 256 (threeSectors true) secondWritten
      [⟨256, 256, fun _ => 7⟩] :=
    .write .start (by decide) (by decide) trivial rfl
  have h := backend_reads_latest_writes (by decide) rfl hserved
  refine ⟨fun t ht => ?_, h.2 rfl⟩
  refine h.1 0 512 (fun _ => 0) t _ (by decide) (by decide) ?_
    (eq_ok_of_value ht)
  intro j hj hlt
  obtain rfl : j = 1 := by omega
  rfl

/-- The second sector is read over the first one. -/
theorem second_sector_overwrites_first :
    Served 256 (threeSectors false) (threeSectors false) [] ∧
      ∃ t b', DiskBackend.read 0 512 (fun _ => 0) 256 (threeSectors false) =
        .ok (true, t) b' ∧
        t 0 ≠ lastWritten (threeSectors false).image.bytes [] (0 + 0) := by
  refine ⟨.start, ?_⟩
  have hread : (firstTwoRead (threeSectors false)).map
      (fun r => (r.1, r.2 0)) = some (true, 1) := by
    decide +kernel
  rw [Option.map_eq_some_iff] at hread
  obtain ⟨⟨ok, t⟩, hvalue, heq⟩ := hread
  injection heq with hok ht
  dsimp only at hok ht
  subst hok
  refine ⟨t, _, eq_ok_of_value hvalue, ?_⟩
  rw [ht]
  decide

end Examples

end KekPdp11
