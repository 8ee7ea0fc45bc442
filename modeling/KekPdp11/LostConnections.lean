import KekPdp11.Lib.InStep
import KekPdp11.Lib.Retry
import KekPdp11.SectorArray

/-!
# KEK PDP-11: an NBD server behind a network that loses connections

The loops of disk_backend_nbd repeat a request over a new connection until the
server has answered it.  A request whose answer is lost has been served
nevertheless, so that a write can reach the server any number of times, and a
read can leave the beginning of a sector in the buffer.

Both requests are services in the sense of the module Retry, so that calls of
the backend run in step over two networks: with the same answers, the same
overlay and the same server.  They end over a network that no process dies of
and that answers as many requests as are made over a network without losses.
-/

namespace KekPdp11

open StateExcept Slices Retry

/-- The passes that the server answers whatever it is asked. -/
def Attempt.answered : Attempt → Bool
  | .served => true
  | _ => false

theorem Attempt.answered_not_fatal
    (p : Attempt) (h : p.answered = true) :
    ¬ p.fatal = true := by
  cases p with
  | served =>
      exact Bool.false_ne_true
  | notGreeted | refused | brokenPipe | requestLost | replyLost
  | payloadLost _ =>
      cases h

namespace NbdBackend

section Services

/-- One pass that reads a sector. -/
def fetchPass (server : Image) (offset sectorSize : Nat) :
    Attempt → Buffer → Option Bool × Buffer
  | .notGreeted, target | .refused, target | .brokenPipe, target
  | .requestLost, target | .replyLost, target => (none, target)
  | .payloadLost received, target =>
      match serverRead server offset sectorSize with
      | none => (some false, target)
      | some data => (none, overwrite target 0 (data.take received))
  | .served, target =>
      match serverRead server offset sectorSize with
      | none => (some false, target)
      | some data => (some true, overwrite target 0 data)

/-- A sector as the server has it. -/
def fetched (server : Image) (offset sectorSize : Nat) (target : Buffer) :
    Bool × Buffer :=
  match serverRead server offset sectorSize with
  | none => (false, target)
  | some data => (true, overwrite target 0 data)

/-- Reading a sector. -/
def fetchService (server : Image) (offset sectorSize : Nat) :
    Service Attempt Buffer Bool where
  pass := fetchPass server offset sectorSize
  serve := fetched server offset sectorSize
  answered p target r target' h := by
    unfold fetched
    cases p with
    | notGreeted | refused | brokenPipe | requestLost | replyLost =>
        cases h
    | payloadLost received =>
        unfold fetchPass at h
        cases hread : serverRead server offset sectorSize with
        | none =>
            rw [hread] at h
            cases h
            rfl
        | some data =>
            rw [hread] at h
            cases h
    | served =>
        unfold fetchPass at h
        cases hread : serverRead server offset sectorSize with
        | none =>
            rw [hread] at h
            cases h
            rfl
        | some data =>
            rw [hread] at h
            cases h
            rfl
  unanswered p target target' h := by
    unfold fetched
    cases p with
    | notGreeted | refused | brokenPipe | requestLost | replyLost =>
        cases h
        rfl
    | payloadLost received =>
        unfold fetchPass at h
        cases hread : serverRead server offset sectorSize with
        | none =>
            rw [hread] at h
            cases h
        | some data =>
            rw [hread] at h
            cases h
            simp only [overwrite_take]
    | served =>
        unfold fetchPass at h
        cases hread : serverRead server offset sectorSize with
        | none =>
            rw [hread] at h
            cases h
        | some data =>
            rw [hread] at h
            cases h

theorem fetchService_answers
    (server : Image) (offset sectorSize : Nat) :
    (fetchService server offset sectorSize).Answers Attempt.answered := by
  intro p target hp
  cases p with
  | served =>
      change ∃ r t, fetchPass server offset sectorSize .served target =
        (some r, t)
      unfold fetchPass
      cases serverRead server offset sectorSize with
      | none =>
          exact ⟨_, _, rfl⟩
      | some data =>
          exact ⟨_, _, rfl⟩
  | notGreeted | refused | brokenPipe | requestLost | replyLost
  | payloadLost _ =>
      cases hp

/-- The server sends as many bytes as it is asked for. -/
theorem length_serverRead
    {server : Image} {offset n : Nat} {data : List Byte} (hn : n < 2 ^ 32)
    (h : serverRead server offset n = some data) :
    data.length = n := by
  unfold serverRead at h
  split at h
  · injection h with h
    rw [← h, length_slice]
    exact Nat.mod_eq_of_lt hn
  · cases h

/-- The loop that reads a sector repeats this request. -/
theorem fetchSector_eq
    (server : Image) (offset : Nat) {sectorSize : Nat}
    (hsize : sectorSize < 2 ^ 32) (network : List Attempt) (target : Buffer) :
    fetchSector server offset sectorSize network target =
      (fetchService server offset sectorSize).run Attempt.fatal network
        target := by
  induction network generalizing target with
  | nil =>
      rfl
  | cons attempt network ih =>
      cases attempt with
      | refused | brokenPipe =>
          rfl
      | notGreeted | requestLost | replyLost =>
          exact ih target
      | payloadLost received =>
          simp only [fetchSector, Service.run, fetchService, fetchPass,
            Attempt.fatal, Bool.false_eq_true, if_false]
          cases serverRead server offset sectorSize with
          | none =>
              rfl
          | some data =>
              exact ih _
      | served =>
          simp only [fetchSector, Service.run, fetchService, fetchPass,
            Attempt.fatal, Bool.false_eq_true, if_false]
          cases hread : serverRead server offset sectorSize with
          | none =>
              rfl
          | some data =>
              exact if_pos (length_serverRead hsize hread)

/-- One pass that writes. -/
def transmitPass (offset n : Nat) (source : Buffer) :
    Attempt → Image → Option Bool × Image
  | .notGreeted, server | .refused, server | .brokenPipe, server
  | .requestLost, server => (none, server)
  | .replyLost, server =>
      (none, (serverWrite server offset n source).getD server)
  | .payloadLost _, server =>
      (none, (serverWrite server offset n source).getD server)
  | .served, server =>
      (some (serverWrite server offset n source).isSome,
        (serverWrite server offset n source).getD server)

/-- The server's answer to a write, and what is on the disk afterwards. -/
def transmitted (offset n : Nat) (source : Buffer) (server : Image) :
    Bool × Image :=
  ((serverWrite server offset n source).isSome,
    (serverWrite server offset n source).getD server)

/-- A write that has been served is served again without a difference. -/
theorem transmitted_again
    (offset n : Nat) (source : Buffer) (server : Image) :
    transmitted offset n source
        ((serverWrite server offset n source).getD server) =
      transmitted offset n source server := by
  unfold transmitted
  rw [serverWrite_again]
  cases serverWrite server offset n source with
  | none =>
      rfl
  | some served =>
      rfl

/-- Writing. -/
def transmitService (offset n : Nat) (source : Buffer) :
    Service Attempt Image Bool where
  pass := transmitPass offset n source
  serve := transmitted offset n source
  answered p server r server' h := by
    cases p with
    | served =>
        cases h
        rfl
    | notGreeted | refused | brokenPipe | requestLost | replyLost
    | payloadLost _ =>
        cases h
  unanswered p server server' h := by
    cases p with
    | notGreeted | refused | brokenPipe | requestLost =>
        cases h
        rfl
    | replyLost =>
        cases h
        exact transmitted_again offset n source server
    | payloadLost received =>
        cases h
        exact transmitted_again offset n source server
    | served =>
        cases h

theorem transmitService_answers
    (offset n : Nat) (source : Buffer) :
    (transmitService offset n source).Answers Attempt.answered := by
  intro p server hp
  cases p with
  | served =>
      exact ⟨_, _, rfl⟩
  | notGreeted | refused | brokenPipe | requestLost | replyLost
  | payloadLost _ =>
      cases hp

/-- The loop that writes repeats this request. -/
theorem transmit_eq
    (offset n : Nat) (source : Buffer) (network : List Attempt)
    (server : Image) :
    transmit offset n source network server =
      (transmitService offset n source).run Attempt.fatal network server := by
  induction network generalizing server with
  | nil =>
      rfl
  | cons attempt network ih =>
      cases attempt with
      | refused | brokenPipe =>
          rfl
      | notGreeted | requestLost =>
          exact ih server
      | replyLost =>
          exact ih _
      | payloadLost received =>
          exact ih _
      | served =>
          simp only [transmit, Service.run, transmitService, transmitPass,
            Attempt.fatal, Bool.false_eq_true, if_false]
          cases serverWrite server offset n source with
          | none =>
              rfl
          | some served =>
              rfl

end Services

section Calls

variable {P : List Attempt → List Attempt → Prop} {lost lost' : Prop}

/-- One backend over two networks. -/
structure Twins (P : List Attempt → List Attempt → Prop)
    (d d' : NbdBackend) : Prop where
  same : d' = { d with network := d'.network }
  networks : P d.network d'.network

/-- Networks over which requests have one outcome. -/
abbrev AlikeNetworks (lost lost' : Prop)
    (P : List Attempt → List Attempt → Prop) : Prop :=
  Alike Attempt.fatal Attempt.answered lost lost' P

/-- A call that waits for the network, where it may. -/
def Waits (lost : Prop) (e : DiskStop) : Prop :=
  e = .blocked ∧ lost

/-- The passes that read sectors. -/
theorem inStep_readSectors
    (halike : AlikeNetworks lost lost' P) (offsetIn : Nat) {sectorSize : Nat}
    (hsize : sectorSize < 2 ^ 32) (k o : Nat) (target : Buffer) :
    InStep (Waits lost) (Waits lost') (Twins P)
      (readSectors offsetIn sectorSize k o target)
      (readSectors offsetIn sectorSize k o target) := by
  induction k generalizing o target with
  | zero =>
      exact .pure _
  | succ k ih =>
      intro d d' hd
      have hserver : d'.server = d.server := by
        rw [hd.same]
      have hoverlay : d'.getFromOverlay (offsetIn + o) sectorSize =
          d.getFromOverlay (offsetIn + o) sectorSize := by
        rw [hd.same]
      rw [readSectors_succ, readSectors_succ, hoverlay]
      split
      · cases d.getFromOverlay (offsetIn + o) sectorSize with
        | some data =>
            exact ih _ _ d d' hd
        | none =>
            dsimp only
            rw [hserver, fetchSector_eq _ _ hsize, fetchSector_eq _ _ hsize]
            have houtcome := halike Buffer Bool
              (fetchService d.server (offsetIn + o) sectorSize)
              (fetchService_answers _ _ _) target d.network d'.network
              hd.networks
            rcases houtcome with ⟨hnone, hlost⟩ | ⟨hnone, hlost⟩ |
              ⟨rest, rest', hrun, hrun', hrest⟩
            · rw [hnone]
              exact .left ⟨rfl, hlost⟩
            · rw [hnone]
              exact .right ⟨rfl, hlost⟩
            · rw [hrun, hrun']
              have hleft : Twins P { d with network := rest }
                  { d' with server := d.server, network := rest' } :=
                ⟨by rw [hd.same], hrest⟩
              rcases hserved : (fetchService d.server (offsetIn + o)
                sectorSize).serve target with ⟨ok, t⟩
              cases ok with
              | true =>
                  exact ih _ t _ _ hleft
              | false =>
                  exact .ok (false, t) hleft
      · exact .error _ hd

/-- read. -/
theorem inStep_read
    (halike : AlikeNetworks lost lost' P) (offset n : Nat) (target : Buffer)
    {sectorSize : Nat} (hsize : sectorSize < 2 ^ 32) :
    InStep (Waits lost) (Waits lost') (Twins P)
      (NbdBackend.read offset n target sectorSize)
      (NbdBackend.read offset n target sectorSize) :=
  inStep_readSectors halike offset hsize _ _ target

/-- write. -/
theorem inStep_write
    (halike : AlikeNetworks lost lost' P) (offset n : Nat) (source : Buffer)
    (sectorSize : Nat) :
    InStep (Waits lost) (Waits lost') (Twins P)
      (NbdBackend.write offset n source sectorSize)
      (NbdBackend.write offset n source sectorSize) := by
  refine .ite (.pure true) ?_
  intro d d' hd
  have huse : d'.useOverlay = d.useOverlay := by
    rw [hd.same]
  have hserver : d'.server = d.server := by
    rw [hd.same]
  simp only [diskAssert_bind_apply, view_bind_apply, id, huse, hserver,
    ite_apply_state]
  split
  · split
    · split
      · refine .ok true ⟨?_, hd.networks⟩
        rw [hd.same]
      · rw [transmit_eq, transmit_eq]
        have houtcome := halike Image Bool (transmitService offset n source)
          (transmitService_answers _ _ _) d.server d.network d'.network
          hd.networks
        rcases houtcome with ⟨hnone, hlost⟩ | ⟨hnone, hlost⟩ |
          ⟨rest, rest', hrun, hrun', hrest⟩
        · rw [hnone]
          exact .left ⟨rfl, hlost⟩
        · rw [hnone]
          exact .right ⟨rfl, hlost⟩
        · rw [hrun, hrun']
          rcases (transmitService offset n source).serve d.server with
            ⟨ok, server⟩
          refine .ok ok ⟨?_, hrest⟩
          rw [hd.same]
    · exact .error _ hd
  · exact .error _ hd

end Calls

end NbdBackend

namespace Backend

variable {P : List Attempt → List Attempt → Prop} {lost lost' : Prop}

/-- The same image file, or the same server over two networks. -/
inductive Twins (P : List Attempt → List Attempt → Prop) :
    Backend → Backend → Prop
  | file (f : FileBackend) : Twins P (.file f) (.file f)
  | nbd {d d' : NbdBackend} (h : d.Twins P d') : Twins P (.nbd d) (.nbd d')

/-- What the derived classes return. -/
theorem alongside_received
    {β α : Type} {R : β → β → Prop} {wrap : β → Backend}
    (hwrap : ∀ b b', R b b' → Twins P (wrap b) (wrap b'))
    {r r' : EStateM.Result DiskStop β α}
    (h : Alongside (NbdBackend.Waits lost) (NbdBackend.Waits lost') R r r') :
    Alongside (NbdBackend.Waits lost) (NbdBackend.Waits lost') (Twins P)
      (received wrap r) (received wrap r') := by
  cases h with
  | ok a h =>
      exact .ok a (hwrap _ _ h)
  | error e h =>
      exact .error e (hwrap _ _ h)
  | left h =>
      exact .left h
  | right h =>
      exact .right h

/-- A call of an image file. -/
theorem alongside_file
    {α : Type} (r : EStateM.Result DiskStop FileBackend α) :
    Alongside (NbdBackend.Waits lost) (NbdBackend.Waits lost') (Twins P)
      (received .file r) (received .file r) := by
  cases r with
  | ok a f =>
      exact .ok a (.file f)
  | error e f =>
      exact .error e (.file f)

/-- read. -/
theorem inStep_read
    (halike : NbdBackend.AlikeNetworks lost lost' P) (offset n : Nat)
    (target : Buffer) {sectorSize : Nat} (hsize : sectorSize < 2 ^ 32) :
    InStep (NbdBackend.Waits lost) (NbdBackend.Waits lost') (Twins P)
      (Backend.read offset n target sectorSize)
      (Backend.read offset n target sectorSize) := by
  intro b b' hb
  cases hb with
  | file f =>
      exact alongside_file _
  | nbd h =>
      exact alongside_received (fun _ _ hnext => .nbd hnext)
        (NbdBackend.inStep_read halike offset n target hsize _ _ h)

/-- write. -/
theorem inStep_write
    (halike : NbdBackend.AlikeNetworks lost lost' P) (offset n : Nat)
    (source : Buffer) (sectorSize : Nat) :
    InStep (NbdBackend.Waits lost) (NbdBackend.Waits lost') (Twins P)
      (Backend.write offset n source sectorSize)
      (Backend.write offset n source sectorSize) := by
  intro b b' hb
  cases hb with
  | file f =>
      exact alongside_file _
  | nbd h =>
      exact alongside_received (fun _ _ hnext => .nbd hnext)
        (NbdBackend.inStep_write halike offset n source sectorSize _ _ h)

end Backend

end KekPdp11
