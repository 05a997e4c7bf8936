/-
  File:      Aios/Tasks/Lifecycle.lean
  Subject:   THE LIFE OF A TASK: a register that only compare-and-swap moves.

  The abstract life of a Task is a path of states from CREATED along `allowedTransition`; its length
  is the revision. Every committed receipt is one edge of the path, and every edge has exactly one
  (`Life`). A step of the system creates a Task, moves one Task by one edge, or moves none
  (`TaskMove`); a call that is not applied leaves only a receipt and what it saw of time
  (`Harmless`).
-/
import Mathlib.Data.List.Chain
import Aios.Tasks.Run

namespace Aios.Tasks

open Lib Json Provenance TaskState

variable {σ : Type} {env : Env σ}

/-! ## 1. The life of a Task -/

/-- A committed receipt of this Task. -/
structure CommittedFor (store : Store σ) (taskId id : String) (receipt : Receipt) : Prop where
  stored : store.receipt? id = some receipt
  committed : receipt.outcome = .committed
  owner : receipt.taskId = taskId

/-- The states of a Task so far, and the receipts that led from each to the next. -/
structure Life (store : Store σ) (taskId : String) (row : TaskRow) (path : List TaskState) : Prop where
  length : path.length = row.revision
  first : path.head? = some created
  last : path.getLast? = some row.state
  allowed : path.IsChain fun a b => allowedTransition a b = true
  moved : ∀ n, 1 ≤ n → n < row.revision → ∃ id receipt, CommittedFor store taskId id receipt ∧
    receipt.expectedRevision = n
  single : ∀ {id id' receipt receipt'}, CommittedFor store taskId id receipt →
    CommittedFor store taskId id' receipt' → receipt.expectedRevision = receipt'.expectedRevision →
    id = id'
  edge : ∀ {id receipt}, CommittedFor store taskId id receipt →
    1 ≤ receipt.expectedRevision ∧ receipt.expectedRevision < row.revision ∧
    path[receipt.expectedRevision - 1]? = some receipt.expectedState ∧
    path[receipt.expectedRevision]? = some receipt.toState ∧
    receipt.resultRevision = some (receipt.expectedRevision + 1)

theorem Life.congr {before after : Store σ} {taskId : String} {row row' : TaskRow}
    {path : List TaskState} (h : Life before taskId row path) (hrevision : row'.revision = row.revision)
    (hstate : row'.state = row.state)
    (hreceipts : ∀ id receipt, CommittedFor after taskId id receipt ↔
      CommittedFor before taskId id receipt) : Life after taskId row' path where
  length := by rw [h.length, hrevision]
  first := h.first
  last := by rw [h.last, hstate]
  allowed := h.allowed
  moved := fun n h1 h2 => by
    obtain ⟨id, receipt, hc, hn⟩ := h.moved n h1 (by omega)
    exact ⟨id, receipt, (hreceipts id receipt).mpr hc, hn⟩
  single := fun hc hc' e => h.single ((hreceipts _ _).mp hc) ((hreceipts _ _).mp hc') e
  edge := fun hc => by
    rw [hrevision]
    exact h.edge ((hreceipts _ _).mp hc)

/-- The life of a new Task. -/
theorem life_created {store : Store σ} {taskId : String} {row : TaskRow}
    (hrevision : row.revision = 1) (hstate : row.state = created)
    (hnone : ∀ id receipt, ¬CommittedFor store taskId id receipt) : Life store taskId row [created] where
  length := by rw [hrevision]; rfl
  first := rfl
  last := by rw [hstate]; rfl
  allowed := List.isChain_singleton _
  moved := fun n h1 h2 => by omega
  single := fun hc => absurd hc (hnone _ _)
  edge := fun hc => absurd hc (hnone _ _)

/-- One more edge. -/
theorem Life.snoc {before after : Store σ} {taskId id : String} {row next : TaskRow}
    {path : List TaskState} {receipt : Receipt} (h : Life before taskId row path)
    (hallowed : allowedTransition row.state next.state = true)
    (hrevision : next.revision = row.revision + 1) (hexpected : receipt.expectedRevision = row.revision)
    (hstate : receipt.expectedState = row.state) (hto : receipt.toState = next.state)
    (hresult : receipt.resultRevision = some (row.revision + 1))
    (hnew : CommittedFor after taskId id receipt)
    (hothers : ∀ other r, CommittedFor after taskId other r →
      (other = id ∧ r = receipt) ∨ CommittedFor before taskId other r)
    (hkept : ∀ other r, CommittedFor before taskId other r → CommittedFor after taskId other r) :
    Life after taskId next (path ++ [next.state]) := by
  have hlength := h.length
  have hpositive : 1 ≤ row.revision := by
    cases path with
    | nil => cases h.first
    | cons s rest =>
        rw [List.length_cons] at hlength
        omega
  have hlast : path[row.revision - 1]? = some row.state := by
    have hl := h.last
    rw [List.getLast?_eq_getElem?, hlength] at hl
    exact hl
  refine ⟨?_, ?_, ?_, ?_, ?_, ?_, ?_⟩
  · rw [List.length_append, List.length_singleton, hlength, hrevision]
  · cases path with
    | nil => cases h.first
    | cons s rest => exact h.first
  · rw [List.getLast?_append, List.getLast?_singleton, Option.some_or]
  · rw [List.isChain_append]
    refine ⟨h.allowed, List.isChain_singleton _, ?_⟩
    intro a ha b hb
    rw [h.last] at ha
    have ea : row.state = a := Option.some.inj ha
    have eb : next.state = b := Option.some.inj hb
    rw [← ea, ← eb]
    exact hallowed
  · intro n h1 h2
    by_cases hn : n = row.revision
    · exact ⟨id, receipt, hnew, hexpected.trans hn.symm⟩
    · obtain ⟨other, r, hc, hr⟩ := h.moved n h1 (by omega)
      exact ⟨other, r, hkept other r hc, hr⟩
  · intro a b ra rb ha hb e
    rcases hothers a ra ha with ⟨rfl, rfl⟩ | ha
    · rcases hothers b rb hb with ⟨rfl, rfl⟩ | hb
      · rfl
      · have := (h.edge hb).2.1
        omega
    · rcases hothers b rb hb with ⟨rfl, rfl⟩ | hb
      · have := (h.edge ha).2.1
        omega
      · exact h.single ha hb e
  · intro other r hr
    rcases hothers other r hr with ⟨rfl, rfl⟩ | hold
    · have hend : (path ++ [next.state])[row.revision]? = some next.state := by
        rw [List.getElem?_append_right (by omega), hlength, Nat.sub_self]
        rfl
      refine ⟨by omega, by omega, ?_, ?_, ?_⟩
      · rw [hexpected, hstate, List.getElem?_append_left (by omega), hlast]
      · rw [hexpected, hto, hend]
      · rw [hexpected, hresult]
    · obtain ⟨h1, h2, h3, h4, h5⟩ := h.edge hold
      refine ⟨h1, by omega, ?_, ?_, h5⟩
      · rw [List.getElem?_append_left (by omega)]
        exact h3
      · rw [List.getElem?_append_left (by omega)]
        exact h4

/-! ## 2. Every Task has a life -/

/-- Every Task has a life, and every committed receipt belongs to a Task. -/
structure Alive (store : Store σ) : Prop where
  life : ∀ taskId row, store.task? taskId = some row → ∃ path, Life store taskId row path
  owned : ∀ id receipt, store.receipt? id = some receipt → receipt.outcome = .committed →
    (store.task? receipt.taskId).isSome = true

theorem alive_fresh {store : Store σ} (h : Fresh store) : Alive store where
  life := fun taskId row hrow => by
    rw [h.tasks] at hrow
    cases hrow
  owned := fun id receipt hreceipt => by
    rw [h.receipts] at hreceipt
    cases hreceipt

/-- Committed receipts are as before where all receipts are. -/
theorem committedFor_congr {before after : Store σ} (h : ∀ id, after.receipt? id = before.receipt? id)
    (taskId id : String) (receipt : Receipt) :
    CommittedFor after taskId id receipt ↔ CommittedFor before taskId id receipt := by
  refine ⟨fun hc => ⟨?_, hc.committed, hc.owner⟩, fun hc => ⟨?_, hc.committed, hc.owner⟩⟩
  · rw [← h]
    exact hc.stored
  · rw [h]
    exact hc.stored

theorem Alive.steady {before after : Store σ} (h : Alive before) (hsteady : Steady env before after) :
    Alive after := by
  have hreceipts : ∀ id, after.receipt? id = before.receipt? id := by
    intro id
    unfold Store.receipt?
    rw [hsteady.receipts]
  refine ⟨fun taskId row hrow => ?_, fun id receipt hreceipt hcommitted => ?_⟩
  · rw [hsteady.task?] at hrow
    obtain ⟨path, hlife⟩ := h.life taskId row hrow
    exact ⟨path, hlife.congr rfl rfl (committedFor_congr hreceipts taskId)⟩
  · rw [hsteady.task?]
    rw [hreceipts] at hreceipt
    exact h.owned id receipt hreceipt hcommitted

theorem Alive.created {before after : Store σ} {request : CreateTask} {constraints : Option Json}
    {nonce : Nonce} {createdAt : String} {normalized constraintsJson : Option String} {row : EventRow}
    (h : Alive before) (hstored : CreationStored env request constraints nonce createdAt before after
      normalized constraintsJson row) : Alive after := by
  have hreceipts : ∀ id, after.receipt? id = before.receipt? id := by
    intro id
    unfold Store.receipt?
    rw [hstored.receipts]
  refine ⟨fun taskId task htask => ?_, fun id receipt hreceipt hcommitted => ?_⟩
  · rw [hstored.tasks] at htask
    split at htask
    · next e =>
      rw [← Option.some.inj htask, ← e]
      refine ⟨[TaskState.created], life_created rfl rfl fun id receipt hc => ?_⟩
      -- a receipt of a Task that did not exist yet
      have hc := (committedFor_congr hreceipts _ _ _).mp hc
      have hsome := h.owned id receipt hc.stored hc.committed
      rw [hc.owner, hstored.absent] at hsome
      cases hsome
    · obtain ⟨path, hlife⟩ := h.life taskId task htask
      exact ⟨path, hlife.congr rfl rfl (committedFor_congr hreceipts taskId)⟩
  · rw [hreceipts] at hreceipt
    rw [hstored.tasks]
    split
    · rfl
    · exact h.owned id receipt hreceipt hcommitted

theorem Alive.rejected {before after : Store σ} {call : Call} {requestJson resultedAt code : String}
    {observed : Option (TaskState × Nat)} (h : Alive before)
    (hstored : RejectionStored call requestJson resultedAt code observed before after) :
    Alive after := by
  -- the new receipt is not committed
  have hcommitted : ∀ {id receipt}, after.receipt? id = some receipt → receipt.outcome = .committed →
      before.receipt? id = some receipt := by
    intro id receipt hreceipt houtcome
    rw [hstored.receipt?] at hreceipt
    split at hreceipt
    · rw [← Option.some.inj hreceipt] at houtcome
      cases houtcome
    · exact hreceipt
  have hkept : ∀ {id receipt}, before.receipt? id = some receipt →
      after.receipt? id = some receipt := by
    intro id receipt hreceipt
    rw [hstored.receipt?, if_neg, hreceipt]
    intro e
    have hfresh := hstored.fresh
    rw [e, hreceipt] at hfresh
    cases hfresh
  refine ⟨fun taskId row hrow => ?_, fun id receipt hreceipt houtcome => ?_⟩
  · rw [hstored.task?] at hrow
    obtain ⟨path, hlife⟩ := h.life taskId row hrow
    refine ⟨path, hlife.congr rfl rfl fun id receipt => ⟨fun hc => ?_, fun hc => ?_⟩⟩
    · exact ⟨hcommitted hc.stored hc.committed, hc.committed, hc.owner⟩
    · exact ⟨hkept hc.stored, hc.committed, hc.owner⟩
  · rw [hstored.task?]
    exact h.owned id receipt (hcommitted hreceipt houtcome) houtcome

theorem Alive.applied {before after : Store σ} {call : Call} {requestJson resultedAt : String}
    {task : TaskRow} {program : Option Json} {row : EventRow} (h : Alive before)
    (hstored : TransitionStored env call requestJson resultedAt before after task program row) :
    Alive after := by
  have hbound := hstored.bound
  have hexpected := hstored.expectedRevision
  have hkept : ∀ {id receipt}, before.receipt? id = some receipt →
      after.receipt? id = some receipt := by
    intro id receipt hreceipt
    rw [hstored.receipt?, if_neg, hreceipt]
    intro e
    have hfresh := hstored.fresh
    rw [e, hreceipt] at hfresh
    cases hfresh
  refine ⟨fun taskId moved hmoved => ?_, fun id receipt hreceipt houtcome => ?_⟩
  · rw [hstored.tasks] at hmoved
    split at hmoved
    · next e =>
      obtain ⟨path, hlife⟩ := h.life call.request.taskId task hstored.found
      rw [← Option.some.inj hmoved, ← e]
      have hnew := hstored.receipt? call.request.transitionId
      rw [if_pos rfl] at hnew
      refine ⟨path ++ [(movedRow call task row.eventId resultedAt).state], ?_⟩
      refine hlife.snoc hstored.allowed rfl ?_ hstored.expectedState rfl ?_ ⟨hnew, rfl, rfl⟩
        (fun other r hc => ?_) (fun other r hc => ?_)
      · show min call.request.expectedRevision maxI64 = task.revision
        omega
      · show some (min (task.revision + 1) maxI64) = some (task.revision + 1)
        rw [Nat.min_eq_left hbound]
      · have hr := hc.stored
        rw [hstored.receipt?] at hr
        split at hr
        · next eid => exact .inl ⟨eid.symm, (Option.some.inj hr).symm⟩
        · exact .inr ⟨hr, hc.committed, hc.owner⟩
      · exact ⟨hkept hc.stored, hc.committed, hc.owner⟩
    · next hne =>
      obtain ⟨path, hlife⟩ := h.life taskId moved hmoved
      refine ⟨path, hlife.congr rfl rfl fun id receipt => ⟨fun hc => ?_, fun hc => ?_⟩⟩
      · have hr := hc.stored
        rw [hstored.receipt?] at hr
        split at hr
        · have howner := hc.owner
          rw [← Option.some.inj hr] at howner
          exact absurd howner hne
        · exact ⟨hr, hc.committed, hc.owner⟩
      · exact ⟨hkept hc.stored, hc.committed, hc.owner⟩
  · rw [hstored.tasks]
    split
    · rfl
    · next hne =>
      rw [hstored.receipt?] at hreceipt
      split at hreceipt
      · rw [← Option.some.inj hreceipt] at hne
        exact absurd rfl hne
      · exact h.owned id receipt hreceipt houtcome

theorem Alive.change {flights : List (Flight σ)} {before after : Store σ} (h : Alive before)
    (hchange : Change env flights before after) : Alive after := by
  cases hchange with
  | created hstored => exact h.created hstored
  | kept hsteady => exact h.steady hsteady
  | rejected _ _ _ hstored => exact h.rejected hstored
  | applied _ _ hstored => exact h.applied hstored

/-! ## 3. One step, one Task -/

/-- What a step does to one Task: nothing, its creation, or one compare-and-swap by a call in
    flight. -/
inductive TaskMove (env : Env σ) (s s' : System σ) (taskId : String) : Prop where
  | kept : s'.store.task? taskId = s.store.task? taskId → TaskMove env s s' taskId
  | created {row : TaskRow} : s.store.task? taskId = none → s'.store.task? taskId = some row →
      row.revision = 1 → row.state = TaskState.created → TaskMove env s s' taskId
  | moved {row next : TaskRow} {flight : Flight σ} {receipt : Receipt} : flight ∈ s.flights →
      (flight.call env.digest).request.taskId = taskId →
      s.store.task? taskId = some row → s'.store.task? taskId = some next →
      (flight.call env.digest).request.expectedRevision = row.revision →
      (flight.call env.digest).request.expectedState = row.state →
      (flight.call env.digest).request.toState = next.state →
      next.revision = row.revision + 1 → allowedTransition row.state next.state = true →
      row.state.terminal = false →
      (next.state = TaskState.recovering → flight.entry.recovery = true) →
      s.store.receipt? (flight.call env.digest).request.transitionId = none →
      CommittedFor s'.store taskId (flight.call env.digest).request.transitionId receipt →
      TaskMove env s s' taskId

theorem Step.taskMove {s s' : System σ} (hs : s.Sound env) (h : Step env s s') (taskId : String) :
    TaskMove env s s' taskId := by
  cases (h.change hs).1 with
  | created hstored =>
      have hrow := hstored.tasks taskId
      split at hrow
      · next e =>
        refine .created ?_ hrow rfl rfl
        rw [← e]
        exact hstored.absent
      · exact .kept hrow
  | kept hsteady => exact .kept (hsteady.task? taskId)
  | rejected _ _ _ hstored => exact .kept (hstored.task? taskId)
  | @applied flight _ _ task _ _ hmem _ hstored =>
      have hrow := hstored.tasks taskId
      split at hrow
      · next e =>
        have hfound := hstored.found
        rw [e] at hfound
        have hnew := hstored.receipt? (flight.call env.digest).request.transitionId
        rw [if_pos rfl] at hnew
        refine .moved hmem e hfound hrow hstored.expectedRevision hstored.expectedState rfl rfl
          hstored.allowed hstored.live (fun hrecovering => ?_) hstored.fresh ⟨hnew, rfl, e⟩
        rw [← Entry.internal_iff env.digest flight.lease flight.entry]
        exact hstored.recovering hrecovering
      · exact .kept hrow

/-! ## 4. What is not applied does no harm -/

/-- The call has not been applied: it is still under way, failed, or was answered by a rejection. -/
def Flight.notApplied (flight : Flight σ) : Bool :=
  match flight.phase with
  | .done (.ok result) => !result.applied
  | _ => true

/-- The phases of a call left Tasks, steps, plans, grants and journal exactly as they were, and stored
    at most one receipt, which is a rejection. A call that does not ask for RUNNING left the record of
    time as it was; a start may add observations and latches of expired grants. -/
structure Harmless (call : Call) (trail : List (Store σ × Store σ)) : Prop where
  core : ∀ pair ∈ trail, pair.2.core = pair.1.core
  observations : ∀ pair ∈ trail, pair.1.clock.observations <+: pair.2.clock.observations
  latches : ∀ pair ∈ trail, pair.1.clock.latches <+: pair.2.clock.latches
  clock : call.request.toState ≠ running → ∀ pair ∈ trail, pair.2.clock = pair.1.clock
  receipts : (∀ pair ∈ trail, pair.2.receipts = pair.1.receipts) ∨
    ∃ earlier before after receipt, trail = earlier ++ [(before, after)] ∧
      (∀ pair ∈ earlier, pair.2.receipts = pair.1.receipts) ∧
      before.receipt? call.request.transitionId = none ∧ receipt.outcome = .rejected ∧
      after.receipts = before.receipts.insert call.request.transitionId receipt

theorem harmless_quiet {call : Call} {trail : List (Store σ × Store σ)}
    (h : ∀ pair ∈ trail, Quiet call pair.1 pair.2) : Harmless call trail :=
  ⟨fun pair hp => (h pair hp).core, fun pair hp => (h pair hp).observations,
    fun pair hp => (h pair hp).latches, fun hne pair hp => (h pair hp).clock hne,
    .inl fun pair hp => (h pair hp).receipts⟩

theorem harmless_rejected {call : Call} {requestJson resultedAt code : String}
    {observed : Option (TaskState × Nat)} {earlier : List (Store σ × Store σ)} {before after : Store σ}
    (h : ∀ pair ∈ earlier, Quiet call pair.1 pair.2)
    (hstored : RejectionStored call requestJson resultedAt code observed before after) :
    Harmless call (earlier ++ [(before, after)]) := by
  have hq := harmless_quiet h
  have hsplit : ∀ {P : Store σ × Store σ → Prop}, (∀ pair ∈ earlier, P pair) → P (before, after) →
      ∀ pair ∈ earlier ++ [(before, after)], P pair := by
    intro P hearlier hlast pair hp
    rcases List.mem_append.mp hp with hold | hnew
    · exact hearlier pair hold
    · rw [List.mem_singleton.mp hnew]
      exact hlast
  exact ⟨hsplit hq.core hstored.core, hsplit hq.observations hstored.observations,
    hsplit hq.latches hstored.latches, fun hne => hsplit (hq.clock hne) (hstored.clock hne),
    .inr ⟨earlier, before, after, _, rfl, fun pair hp => (h pair hp).receipts, hstored.fresh, rfl,
      hstored.receipts⟩⟩

theorem Flight.Sound.harmless {store : Store σ} {flight : Flight σ} (h : flight.Sound env store)
    (hnot : flight.notApplied = true) : Harmless (flight.call env.digest) flight.trail := by
  have htrail := h.trail
  unfold Flight.notApplied at hnot
  generalize flight.phase = phase at htrail hnot
  generalize flight.trail = trail at htrail
  cases htrail with
  | quiet hquiet => exact harmless_quiet hquiet
  | ended hearlier heffect =>
      cases heffect with
      | quiet hquiet =>
          refine harmless_quiet fun pair hp => ?_
          rcases List.mem_append.mp hp with hold | hnew
          · exact hearlier pair hold
          · rw [List.mem_singleton.mp hnew]
            exact hquiet
      | rejected _ _ hstored => exact harmless_rejected hearlier hstored
      | applied _ _ => cases hnot

/-- **A Task is a register that only compare-and-swap moves.** In every reachable system every Task
    has a life; a step moves a Task only by one call that expected exactly its revision and its state,
    along an allowed edge, out of a state that is not terminal, and into RECOVERING by the recovery
    only; and a call that is not applied does no harm. -/
theorem task_lifecycle {s : System σ} (h : Reachable env s) :
    (∀ taskId row, s.store.task? taskId = some row → ∃ path, Life s.store taskId row path) ∧
      (∀ s', Step env s s' → ∀ taskId, TaskMove env s s' taskId) ∧
      ∀ flight ∈ s.flights, flight.notApplied = true →
        Harmless (flight.call env.digest) flight.trail := by
  have halive : Alive s.store :=
    h.induct (fun _ hfresh => alive_fresh hfresh) (fun _ _ _ ha hc => ha.change hc)
  refine ⟨halive.life, fun s' hstep taskId => hstep.taskMove h.sound taskId, ?_⟩
  intro flight hmem hnot
  exact (h.sound.flights flight hmem).harmless hnot

/-- The rejection of a request for a Task that is not there did no harm. -/
theorem stray_harmless : strayFlight.notApplied = true ∧
    Harmless (strayFlight.call strayEnv.digest) strayFlight.trail ∧
    TaskMove strayEnv ⟨strayRejected, [strayFlight]⟩ ⟨strayRejected, []⟩ "t" := by
  obtain ⟨_, hmoves, hharmless⟩ := task_lifecycle stray_reachable
  refine ⟨rfl, hharmless strayFlight (List.mem_singleton.mpr rfl) rfl, hmoves _ ?_ "t"⟩
  exact .crash (List.nil_sublist _)

/-! ## 5. A start that is denied -/

/-- The text of RFC 8785 for texts without escapes and natural numbers. -/
def textDigest : Digest where
  canonical := fun v => .ok (plainText v).toUTF8.data.toList
  sha256 := Sha256.sha256
  size := Sha256.length_sha256

def expiry : String := "2026-09-19T12:00:00.000000015Z"

def programHash : String := "sha256:1111111111111111111111111111111111111111111111111111111111111111"

/-- What the queries answer about a Task with one prepared step. -/
def preparedReads : GuardReads Unit := { idleReads with
  activeProgramValidationValid := fun _ _ _ => .ok true
  bindingGrantsValid := fun _ _ => .ok true
  outputAllocationsReady := fun _ _ => .ok true
  coordinatorGrantPolicyCurrent := fun _ _ => .ok true
  validateInitialProgram := fun _ admission now => .ok ⟨"q", programHash,
    some admission.registrySnapshotId, some "0.1", "n", "v", "1", none, "r", now⟩ }

def deniedEnv : Env Unit where
  journal := { sampleJournal with
    digest := textDigest
    rfc3339 := fun text =>
      if text = noon then some 1789819200000000000
      else if text = expiry then some 1789819200000000015 else none }
  parseJson := fun text => if text = "\x7b\x7d" then some (.obj []) else none
  printJson := plainText
  formatNanos := fun _ => some noon
  reads := preparedReads

theorem denied_canonical (value : Json) : canonicalJson deniedEnv value = .ok (plainText value) :=
  canonicalJson_ok rfl

def deniedLease : Lease := ⟨"o", 1⟩

def deniedClock : Clock :=
  ⟨some ⟨.trustedLocal, some 1789819200000000000, some 1789819200000000000, "TIME_OK", 1⟩,
    [⟨1, some 1789819200000000000, some 10, some 1789819200000000000, some 1789819200000000000,
      .trustedLocal, "TIME_OK", "INJECTED_CLOCK"⟩],
    [⟨"o", "o", 1, 10, 1789819200000000000, 1, 1⟩], []⟩

def deniedStart : Store Unit := .empty deniedLease deniedClock ()

def deniedNonce : Nonce := ⟨List.replicate 32 7, rfl⟩

def deniedReading : Reading := ⟨noon, some ⟨noon, 30, .injectedClock⟩⟩

def admitEntry : Entry :=
  .admitInitialSemanticProgram "a" "t" 1 "p" "n" ⟨"\x7b\x7d", "s", "\x7b\x7d", "d", "d"⟩

def moveEntry (id : String) (revision : Nat) (state target : TaskState) : Entry :=
  .transition ⟨"0.1", id, "t", revision, state, target, ⟨"system-service", "c"⟩, ⟨"GO", none, []⟩,
    TaskMutation.default⟩

/-- The main transaction of a call. -/
def movedBy (entry : Entry) (store : Store Unit) : Store Unit × Phase :=
  mainPhase deniedEnv (entry.call deniedEnv.digest deniedLease) deniedReading none store
    (plainText (entry.call deniedEnv.digest deniedLease).request.toJson) noon

theorem movedBy_reachable {store : Store Unit} {flights : List (Flight Unit)} {e : Entry}
    (h : Reachable deniedEnv ⟨store, flights⟩)
    (hvalid : validTransitionRequest (e.call deniedEnv.digest deniedLease).request
      (e.call deniedEnv.digest deniedLease).internalRecovery = true)
    (hto : (e.call deniedEnv.digest deniedLease).request.toState ≠ running) :
    ∃ flight, Reachable deniedEnv ⟨(movedBy e store).1, flights ++ [flight]⟩ :=
  h.moveCall deniedLease e deniedReading hvalid hto (denied_canonical _)

theorem startedBy_reachable {store : Store Unit} {flights : List (Flight Unit)} {e : Entry}
    {sampled : Clock × TimeAssessment} (h : Reachable deniedEnv ⟨store, flights⟩)
    (hvalid : validTransitionRequest (e.call deniedEnv.digest deniedLease).request
      (e.call deniedEnv.digest deniedLease).internalRecovery = true)
    (hto : (e.call deniedEnv.digest deniedLease).request.toState = running)
    (hmarkers : store.core.pendingMarkers = [])
    (hsample : applySampleInTransaction deniedEnv.time store.clock deniedReading.sample = .ok sampled)
    (htime : sampled.2.requireTrustedTime deniedEnv.time = .ok noon) :
    ∃ flight, Reachable deniedEnv ⟨(movedBy e { store with clock := sampled.1 }).1,
        flights ++ [flight]⟩ ∧
      flight.phase = (movedBy e { store with clock := sampled.1 }).2 ∧
      ∃ pair ∈ flight.trail, pair.1.clock = sampled.1 ∧
        pair.2 = (movedBy e { store with clock := sampled.1 }).1 := by
  refine ⟨_, h.startCall deniedLease e deniedReading hvalid hto hmarkers hsample htime
    (denied_canonical _), rfl, ({ store with clock := sampled.1 }, _), ?_, rfl, rfl⟩
  exact List.mem_cons_of_mem _ (List.mem_cons_of_mem _ (List.mem_singleton.mpr rfl))

/-- Its step is prepared: an attempt, a binding, a grant that ends in 15 nanoseconds. -/
def prepareStep (store : Store Unit) : Store Unit := { store with core := { store.core with
  steps := [⟨"a", "t", programHash, some "s", "n", some "b", 1, 1, .ready, none, noon⟩]
  bindings := [⟨"b", "a", "t", programHash, "s", "n", "r", "1", ["g"]⟩]
  candidates := [⟨"c", "t", programHash, "b", "a", .finalized⟩]
  grants := [⟨"g", some "k", "t", some "b", some "a", "d", none, .active, noon, expiry, none, none⟩]
  issuances := [⟨"g", "k", "t", "b", "a", "d", noon, "coordinator-issued-v0.1"⟩]
  deadlines := [⟨"g", "k", "t", "b", "a", "d", noon, expiry, 1789819200000000015, none, none, none,
    none, none, none, "o", "o", 1, 1, 10, 25, 1789819200000000000, 1789819200000000000,
    1789819200000000015⟩] } }

theorem steady_prepareStep (store : Store Unit) : Steady deniedEnv store (prepareStep store) :=
  ⟨rfl, rfl, .refl _, rfl, ⟨rfl, rfl, rfl⟩⟩

/-- The manager has seen the clock, and nothing is pending. -/
def seeClock (store : Store Unit) : Store Unit :=
  { store with core := { store.core with pendingMarkers := [] }, clock := deniedClock }

theorem steady_seeClock (store : Store Unit) : Steady deniedEnv store (seeClock store) :=
  ⟨rfl, rfl, .refl _, rfl, ⟨rfl, rfl, rfl⟩⟩

def deniedRequest : CreateTask := ⟨"t", ⟨"user", "u"⟩, none, "copy", none, ["n"]⟩

def admitCall : Call := admitEntry.call deniedEnv.digest deniedLease

def runnableCall : Call := (moveEntry "b" 2 planning runnable).call deniedEnv.digest deniedLease

/-- The admitted program as the events name it. -/
def admittedProgram : Json := .obj [
  ("ir_version", .str "0.1"),
  ("program_content_digest", .str "sha256:57acb45f2a1f98b8b88cc5f6a0e828d31965ad4954067ee75b6a7a82f6cfeeeb"),
  ("program_id", .str "q"),
  ("registry_snapshot_id", .str "s"),
  ("semantic_hash", .str programHash),
  ("validated_at", .str noon),
  ("validation_result_id",
    .str "validation:sha256:63493c6b7641f0e4f4c3349eeea50784460c0ede8c99492df39bf230389e3448"),
  ("validator_id", .str "v"),
  ("validator_version", .str "1")]

def createdEvent : Json := taskCreatedEvent textDigest deniedNonce.val deniedRequest none none noon

def plannedEvent : Json :=
  transitionEvent textDigest deniedNonce.val admitCall.request 1 created (some admittedProgram) noon

def readyEvent : Json :=
  transitionEvent textDigest deniedNonce.val runnableCall.request 2 planning (some admittedProgram) noon

/-- The hash of an event of the stream. -/
def deniedHash (sequence : Nat) (previous : Option String) (event : Json) : String :=
  (hashRecord deniedEnv.journal genesisRow.streamId sequence previous event).toOption.getD ""

def createdEventRow : EventRow :=
  eventRow genesisRow.streamId "t" (taskCreatedEventId textDigest "t") noon "task.created" 1 none
    (deniedHash 1 none createdEvent) createdEvent createdEvent

def plannedEventRow : EventRow :=
  eventRow genesisRow.streamId "t" (transitionEventId textDigest "a") noon "task.transitioned" 2
    (some createdEventRow.eventHash) (deniedHash 2 (some createdEventRow.eventHash) plannedEvent) plannedEvent
    plannedEvent

def readyEventRow : EventRow :=
  eventRow genesisRow.streamId "t" (transitionEventId textDigest "b") noon "task.transitioned" 3
    (some plannedEventRow.eventHash) (deniedHash 3 (some plannedEventRow.eventHash) readyEvent) readyEvent
    readyEvent

def createdTask : TaskRow := createdRow deniedEnv deniedRequest none deniedNonce noon createdEventRow.eventId

def taskMade : Store Unit :=
  { deniedStart with core := { deniedStart.core with events := [createdEventRow] } }.setTask "t" createdTask

def initialAdmission : InitialProgramAdmission := ⟨"\x7b\x7d", "s", "\x7b\x7d", "d", "d"⟩

def initialProgram : ValidatedProgram :=
  ⟨"q", programHash, some "s", some "0.1", "n", "v", "1", none, "r", noon⟩

def admittedTask : TaskRow := { createdTask with activeProgramRevision := some 1 }

def taskAdmitted : Store Unit :=
  ({ taskMade with
    core := (admissionRows textDigest taskMade.core admitCall.request initialAdmission initialProgram
      ⟨"p", 1⟩ noon) } : Store Unit).setTask "t" admittedTask

/-- The store of a transition, its event being in the journal. -/
def committedTo (call : Call) (task : TaskRow) (row : EventRow) (planned : Store Unit) : Store Unit :=
  planned.setReceipt call.request.transitionId (committedReceipt call.request (plainText call.request.toJson)
    (task.revision + 1) (applied call.request task.revision (task.revision + 1) task.state row.eventId
      row.eventHash noon) noon)

def plannedTask : TaskRow := admittedTask.apply createdTask admitCall.request plannedEventRow.eventId noon

def plannedRow : TaskRow := { plannedTask with activePlanRevision := some 1 }

def taskPlanned : Store Unit := committedTo admitCall createdTask plannedEventRow
  ((({ taskAdmitted with
    core := { taskAdmitted.core with events := [createdEventRow, plannedEventRow] } } : Store Unit).setTask "t"
      plannedTask).setTask "t" plannedRow)

def taskPrepared : Store Unit := prepareStep taskPlanned

def runnableTask : TaskRow := plannedRow.apply plannedRow runnableCall.request readyEventRow.eventId noon

/-- The Task with its program admitted, its step prepared, and runnable. -/
def taskRunnable : Store Unit := seeClock (committedTo runnableCall plannedRow readyEventRow
  (({ taskPrepared with
    core := { taskPrepared.core with events := [createdEventRow, plannedEventRow, readyEventRow] } } :
      Store Unit).setTask "t" runnableTask))

/-- The clock and the assessment of the start. -/
def startSampled : Clock × TimeAssessment :=
  (applySampleInTransaction deniedEnv.time deniedClock deniedReading.sample).toOption.getD
    (deniedClock, ⟨.unassessed, none⟩)

def taskDenied : Store Unit × Phase :=
  movedBy (moveEntry "c" 3 runnable running) { taskRunnable with clock := startSampled.1 }

/-- The parts of the run that are evaluated, each by itself. -/
structure DeniedParts : Prop where
  request : validCreateTask deniedRequest = true
  stream : streamId deniedEnv.journal.digest "t" = .ok genesisRow.streamId
  streamValid : validateStreamId genesisRow.streamId = .ok ()
  createdValid : validateEvent deniedEnv.journal "t" createdEvent = .ok ()
  plannedValid : validateEvent deniedEnv.journal "t" plannedEvent = .ok ()
  readyValid : validateEvent deniedEnv.journal "t" readyEvent = .ok ()
  exact : createdEvent.floatFree = true ∧ plannedEvent.floatFree = true ∧ readyEvent.floatFree = true
  objects : (hashedEvent createdEvent).isSome = true ∧ (hashedEvent plannedEvent).isSome = true ∧
    (hashedEvent readyEvent).isSome = true
  shapes : withinShapeBounds createdEvent = true ∧ withinShapeBounds plannedEvent = true ∧
    withinShapeBounds readyEvent = true
  services : serviceExportUnauthorized createdEvent = false ∧ serviceExportUnauthorized plannedEvent = false ∧
    serviceExportUnauthorized readyEvent = false
  places : validateSequenceEventInvariant 1 createdEvent = .ok () ∧
    validateSequenceEventInvariant 2 plannedEvent = .ok () ∧ validateSequenceEventInvariant 3 readyEvent = .ok ()
  plannedAdvance : advanceTaskRevision (some (1, "CREATED")) plannedEvent = .ok (some (2, "PLANNING"))
  readyAdvance : advanceTaskRevision (some (2, "PLANNING")) readyEvent = .ok (some (3, "RUNNABLE"))
  plannedFresh : keyConflict [createdEventRow] plannedEventRow = false
  readyFresh : keyConflict [createdEventRow, plannedEventRow] readyEventRow = false
  program : activeProgramEvent deniedEnv taskAdmitted.core "t" (some 1) = .ok (some admittedProgram)
  plannedUnrejected : rejection deniedEnv taskMade admitCall createdTask noon = .ok none
  readyUnrejected : rejection deniedEnv taskPrepared runnableCall plannedRow noon = .ok none
  planNamed : (taskAdmitted.core.plans.any fun r => r.taskId = "t" && r.planRevision = 1 && r.planId = "p") = true
  requests : validTransitionRequest admitCall.request false = true ∧
    validTransitionRequest runnableCall.request false = true ∧
    validTransitionRequest ((moveEntry "c" 3 runnable running).call deniedEnv.digest deniedLease).request
      false = true
  sampled : (applySampleInTransaction deniedEnv.time deniedClock deniedReading.sample).toOption.isSome = true
  trusted : startSampled.2.requireTrustedTime deniedEnv.time = .ok noon
  denied : taskDenied.2.finished = true ∧
    (match taskDenied.2 with
      | .done (.ok result) => !result.applied
      | _ => true) = true ∧
    startSampled.1.latches = [] ∧ taskDenied.1.clock.latches.map LatchRow.grantId = ["g"]

theorem deniedHash_eq {sequence : Nat} {previous : Option String} {event : Json}
    (hsequence : sequence ≠ 0 ∧ sequence ≤ maxSafeJsonInteger) (hshape : withinShapeBounds event = true)
    (hobject : (hashedEvent event).isSome = true) :
    hashRecord deniedEnv.journal genesisRow.streamId sequence previous event =
      .ok (deniedHash sequence previous event) := by
  refine eq_ok_getD ?_ ""
  obtain ⟨hashed, hhashed⟩ := Option.isSome_iff_exists.mp hobject
  have hbound : rejectIf (decide (sequence = 0) || decide (maxSafeJsonInteger < sequence) ||
      !withinShapeBounds event) (Provenance.Error.invalidRecord "provenance event exceeds shape bounds") = .ok () := by
    rw [rejectIf_ok, hshape, decide_eq_false hsequence.1, decide_eq_false (by omega)]
    rfl
  unfold hashRecord
  rw [hbound, ok_bind, hhashed]
  rfl

theorem deniedHash_valid {sequence : Nat} {previous : Option String} {event : Json}
    (h : hashRecord deniedEnv.journal genesisRow.streamId sequence previous event =
      .ok (deniedHash sequence previous event)) : validHash (deniedHash sequence previous event) = true := by
  obtain ⟨_, _, _, _, hhash⟩ := hashRecord_view h
  rw [hhash]
  exact validHash_tagged _ _ _

theorem createdEvent_hashed (parts : DeniedParts) :
    hashRecord deniedEnv.journal genesisRow.streamId 1 none createdEvent = .ok createdEventRow.eventHash :=
  deniedHash_eq (by decide) parts.shapes.1 parts.objects.1

theorem plannedEvent_hashed (parts : DeniedParts) : hashRecord deniedEnv.journal genesisRow.streamId 2
    (some createdEventRow.eventHash) plannedEvent = .ok plannedEventRow.eventHash :=
  deniedHash_eq (by decide) parts.shapes.2.1 parts.objects.2.1

theorem readyEvent_hashed (parts : DeniedParts) : hashRecord deniedEnv.journal genesisRow.streamId 3
    (some plannedEventRow.eventHash) readyEvent = .ok readyEventRow.eventHash :=
  deniedHash_eq (by decide) parts.shapes.2.2 parts.objects.2.2

theorem created_appended (parts : DeniedParts) :
    appendInTx deniedEnv.journal [] "t" createdEvent .any = .ok createdEventRow := by
  obtain ⟨hid, -, htime, hkind⟩ := taskCreatedEvent_texts (e := createdEvent) rfl
  have hread : deniedEnv.journal.reread createdEvent = createdEvent :=
    deniedEnv.journal.reread_exact _ parts.exact.1
  have hhead : getHead [] genesisRow.streamId = .ok none := by
    unfold getHead
    rw [parts.streamValid]
    rfl
  have hrevision : continuesRevision deniedEnv.journal [] genesisRow.streamId createdEvent = .ok () := by
    unfold continuesRevision
    rw [hkind]
    rfl
  have h := appendInTx_of parts.createdValid parts.services.1 parts.stream hhead (by decide)
    parts.places.1 hrevision (createdEvent_hashed parts) hid htime hkind rfl
  rw [hread] at h
  exact h

theorem createdEvent_stored (parts : DeniedParts) :
    storedRevision deniedEnv.journal createdEventRow = .ok (some (1, "CREATED")) := by
  obtain ⟨-, htask, -, hkind⟩ := taskCreatedEvent_texts (e := createdEvent) rfl
  exact storedRevision_of hkind htask parts.createdValid (.inl ⟨rfl, rfl, rfl⟩)

/-- Rows of the stream that all carry a revision: the last one is the last of either reading. -/
theorem denied_last {rows : List EventRow} {row : EventRow} (hlast : lastRow rows = some row)
    (hrows : ∀ r ∈ rows, r.streamId = genesisRow.streamId ∧ carriesRevision r = true) :
    lastRow (streamRows rows genesisRow.streamId) = some row ∧
      lastRow ((streamRows rows genesisRow.streamId).filter carriesRevision) = some row := by
  have hstream : streamRows rows genesisRow.streamId = rows :=
    List.filter_eq_self.mpr fun r hr => decide_eq_true (hrows r hr).1
  rw [hstream, List.filter_eq_self.mpr fun r hr => (hrows r hr).2]
  exact ⟨hlast, hlast⟩

theorem planned_appended (parts : DeniedParts) :
    appendInTx deniedEnv.journal [createdEventRow] "t" plannedEvent .any = .ok plannedEventRow := by
  obtain ⟨hid, -, htime, hkind⟩ := transitionEvent_texts (e := plannedEvent) rfl
  have hread : deniedEnv.journal.reread plannedEvent = plannedEvent :=
    deniedEnv.journal.reread_exact _ parts.exact.2.1
  have hrows : ∀ r ∈ [createdEventRow], r.streamId = genesisRow.streamId ∧ carriesRevision r = true := by
    intro r hr
    rw [List.mem_singleton.mp hr]
    exact ⟨rfl, rfl⟩
  obtain ⟨hlast, hcarried⟩ := denied_last (show lastRow [createdEventRow] = some createdEventRow from rfl) hrows
  have hhead := getHead_of parts.streamValid hlast Nat.one_ne_zero (deniedHash_valid (createdEvent_hashed parts))
  have hrevision := continuesRevision_of hcarried (createdEvent_stored parts) parts.plannedAdvance
  have h := appendInTx_of parts.plannedValid parts.services.2.1 parts.stream hhead (by decide)
    parts.places.2.1 hrevision (plannedEvent_hashed parts) hid htime hkind parts.plannedFresh
  rw [hread] at h
  exact h

theorem plannedEvent_stored (parts : DeniedParts) :
    storedRevision deniedEnv.journal plannedEventRow = .ok (some (2, "PLANNING")) := by
  obtain ⟨-, htask, -, hkind⟩ := transitionEvent_texts (e := plannedEvent) rfl
  obtain ⟨hrevision, hstate⟩ := transitionEvent_target (e := plannedEvent) rfl
  exact storedRevision_of hkind htask parts.plannedValid (.inr ⟨by decide, hrevision, hstate⟩)

theorem ready_appended (parts : DeniedParts) :
    appendInTx deniedEnv.journal [createdEventRow, plannedEventRow] "t" readyEvent .any =
      .ok readyEventRow := by
  obtain ⟨hid, -, htime, hkind⟩ := transitionEvent_texts (e := readyEvent) rfl
  have hread : deniedEnv.journal.reread readyEvent = readyEvent :=
    deniedEnv.journal.reread_exact _ parts.exact.2.2
  have hrows : ∀ r ∈ [createdEventRow, plannedEventRow],
      r.streamId = genesisRow.streamId ∧ carriesRevision r = true := by
    intro r hr
    simp only [List.mem_cons, List.not_mem_nil, or_false] at hr
    rcases hr with rfl | rfl <;> exact ⟨rfl, rfl⟩
  have hpair : lastRow [createdEventRow, plannedEventRow] = some plannedEventRow := lastRow_pair Nat.one_lt_two
  obtain ⟨hlast, hcarried⟩ := denied_last hpair hrows
  have hhead := getHead_of parts.streamValid hlast (Nat.succ_ne_zero 1) (deniedHash_valid (plannedEvent_hashed parts))
  have hrevision := continuesRevision_of hcarried (plannedEvent_stored parts) parts.readyAdvance
  have h := appendInTx_of parts.readyValid parts.services.2.2 parts.stream hhead (by decide)
    parts.places.2.2 hrevision (readyEvent_hashed parts) hid htime hkind parts.readyFresh
  rw [hread] at h
  exact h

theorem task_created (parts : DeniedParts) :
    createTaskWithConstraints deniedEnv deniedStart deniedLease deniedRequest none deniedNonce noon =
      .ok taskMade :=
  createTaskWithConstraints_of parts.request (by decide) rfl rfl (appendEvent_of _ _ (created_appended parts))

theorem movedBy_committed {entry : Entry} {store stored appended planned : Store Unit} {task current : TaskRow}
    {active : Option Nat} {program : Option Json} {row : EventRow} {call : Call}
    (hcall : entry.call deniedEnv.digest deniedLease = call) (hto : call.request.toState ≠ running)
    (hcancel : call.request.toState ≠ cancelled) (hlease : assertManagerLease store call.lease = .ok ())
    (hfound : store.task? call.request.taskId = some task)
    (hunused : store.receipt? call.request.transitionId = none)
    (hrejection : rejection deniedEnv store call task noon = .ok none)
    (hadmission : persistAdmission deniedEnv store call task noon = .ok (stored, active))
    (hprogram : activeProgramEvent deniedEnv stored.core call.request.taskId active = .ok program)
    (hnonce : task.intentCommitmentNonce.length = 32)
    (happend : appendEvent deniedEnv stored call.request.taskId (transitionEvent deniedEnv.digest
      task.intentCommitmentNonce call.request task.revision task.state program noon) = .ok (appended, row))
    (hroom : task.revision + 1 ≤ maxI64) (hcurrent : appended.task? call.request.taskId = some current)
    (hsame : current.revision = task.revision ∧ current.state = task.state)
    (hplan : activatePlan (appended.setTask call.request.taskId (current.apply task call.request row.eventId noon))
      call.request.taskId call.request.mutation.activePlan = .ok planned)
    (hfresh : planned.receipt? call.request.transitionId = none) :
    (movedBy entry store).1 = committedTo call task row planned := by
  subst hcall
  have hmax : maxI64 < 2 ^ 64 := by decide
  unfold movedBy
  rw [mainPhase_committed deniedReading hto hlease hunused hfound hrejection (by omega)
    (applyTransition_committed hcancel hadmission hprogram hnonce happend hroom hcurrent hsame hplan hfresh)]
  rfl

theorem taskMade_task : taskMade.task? "t" = some createdTask := by
  unfold taskMade
  rw [Store.task?_setTask, if_pos rfl]

theorem taskAdmitted_task : taskAdmitted.task? "t" = some admittedTask := by
  unfold taskAdmitted
  rw [Store.task?_setTask, if_pos rfl]

theorem taskPlanned_task : taskPlanned.task? "t" = some plannedRow := by
  show (Store.setTask _ "t" plannedRow).task? "t" = _
  rw [Store.task?_setTask, if_pos rfl]

theorem taskMade_receipt (id : String) : taskMade.receipt? id = none := by
  unfold taskMade
  rw [Store.receipt?_setTask]
  rfl

theorem taskPlanned_receipt {id : String} (h : "a" ≠ id) : taskPlanned.receipt? id = none := by
  unfold taskPlanned committedTo
  rw [Store.receipt?_setReceipt, if_neg (show admitCall.request.transitionId ≠ id from h),
    Store.receipt?_setTask, Store.receipt?_setTask]
  exact taskMade_receipt id

theorem admission_persisted : persistAdmission deniedEnv taskMade admitCall createdTask noon =
    .ok (taskAdmitted, some 1) := by
  have hplan : admitCall.request.mutation.activePlan = some ⟨"p", 1⟩ := rfl
  have hkeys : admissionKeyTaken taskMade.core "t" (validationResultId textDigest "a") = false := rfl
  have h : persistInitialProgramAdmissionIn deniedEnv taskMade admitCall.request initialAdmission noon =
      .ok taskAdmitted :=
    persistInitialProgramAdmissionIn_of ⟨rfl, rfl, rfl⟩ rfl rfl ⟨rfl, rfl, rfl⟩ hplan rfl hkeys taskMade_task
      ⟨rfl, rfl, rfl, rfl⟩
  unfold persistAdmission
  show (persistInitialProgramAdmissionIn deniedEnv taskMade admitCall.request initialAdmission noon >>=
    fun _ => _) = _
  rw [h]
  rfl

theorem planned_moved (parts : DeniedParts) : (movedBy admitEntry taskMade).1 = taskPlanned := by
  have hcall : admitEntry.call deniedEnv.digest deniedLease = admitCall := rfl
  have happend := appendEvent_of deniedEnv taskAdmitted (planned_appended parts)
  refine movedBy_committed hcall (by decide) (by decide) (by decide) taskMade_task (taskMade_receipt "a")
    parts.plannedUnrejected admission_persisted parts.program rfl happend (by decide)
    taskAdmitted_task ⟨rfl, rfl⟩ (activatePlan_of (by decide) parts.planNamed
      (show _ = some plannedTask from ?_)) ?_
  · rw [Store.task?_setTask]
    exact if_pos rfl
  · rw [Store.receipt?_setTask, Store.receipt?_setTask]
    exact taskMade_receipt "a"

theorem ready_moved (parts : DeniedParts) :
    seeClock (movedBy (moveEntry "b" 2 planning runnable) taskPrepared).1 = taskRunnable := by
  have hcall : (moveEntry "b" 2 planning runnable).call deniedEnv.digest deniedLease = runnableCall := rfl
  have hadmission : persistAdmission deniedEnv taskPrepared runnableCall plannedRow noon =
      .ok (taskPrepared, some 1) := rfl
  have happend := appendEvent_of deniedEnv taskPrepared (ready_appended parts)
  have hfound : taskPrepared.task? "t" = some plannedRow := taskPlanned_task
  have hunused : taskPrepared.receipt? "b" = none := taskPlanned_receipt (by decide)
  have hprogram : activeProgramEvent deniedEnv taskPrepared.core "t" (some 1) = .ok (some admittedProgram) :=
    (activeProgramEvent_congr ⟨rfl, rfl, rfl⟩).trans parts.program
  have h := movedBy_committed hcall (by decide) (by decide) (by decide) hfound hunused
    parts.readyUnrejected hadmission hprogram rfl happend (by decide) hfound ⟨rfl, rfl⟩ rfl (by
      rw [Store.receipt?_setTask]
      exact hunused)
  rw [h]
  rfl

/-- The Task gets to RUNNABLE. -/
theorem taskRunnable_reachable (parts : DeniedParts) :
    ∃ flights, Reachable deniedEnv ⟨taskRunnable, flights⟩ := by
  have hfresh : Fresh deniedStart := Store.fresh_empty deniedLease deniedClock ()
  have hmade : Reachable deniedEnv ⟨taskMade, []⟩ := (Reachable.start hfresh).creates (task_created parts)
  obtain ⟨first, hplanned⟩ := movedBy_reachable (e := admitEntry) hmade parts.requests.1 (by decide)
  rw [planned_moved parts] at hplanned
  obtain ⟨second, hready⟩ := movedBy_reachable (e := moveEntry "b" 2 planning runnable)
    (hplanned.otherwise (steady_prepareStep _)) parts.requests.2.1 (by decide)
  have hseen := hready.otherwise (steady_seeClock _)
  exact ⟨_, ready_moved parts ▸ hseen⟩

theorem denied_parts : DeniedParts where
  request := by decide +kernel
  stream := by decide +kernel
  streamValid := by decide +kernel
  createdValid := by decide +kernel
  plannedValid := by decide +kernel
  readyValid := by decide +kernel
  exact := by decide +kernel
  objects := by decide +kernel
  shapes := by decide +kernel
  services := by decide +kernel
  places := by decide +kernel
  plannedAdvance := by decide +kernel
  readyAdvance := by decide +kernel
  plannedFresh := by decide +kernel
  readyFresh := by decide +kernel
  program := by decide +kernel
  plannedUnrejected := by decide +kernel
  readyUnrejected := by decide +kernel
  planNamed := by decide +kernel
  requests := by decide +kernel
  sampled := by decide +kernel
  trusted := by decide +kernel
  denied := by decide +kernel

/-- A rejection that adds more than its receipt and observations of the time: the expiry of a grant is
    latched with it. -/
theorem denied_start_latches : ∃ s, Reachable deniedEnv s ∧ ∃ flight ∈ s.flights,
    flight.phase.finished = true ∧ flight.notApplied = true ∧ ∃ pair ∈ flight.trail,
      pair.1.clock.latches = [] ∧ pair.2.clock.latches.map LatchRow.grantId = ["g"] := by
  obtain ⟨flights, h⟩ := taskRunnable_reachable denied_parts
  have hsample : applySampleInTransaction deniedEnv.time deniedClock deniedReading.sample =
      .ok startSampled := eq_ok_getD denied_parts.sampled _
  obtain ⟨flight, hrun, hphase, pair, hpair, hbefore, hafter⟩ :=
    startedBy_reachable (e := moveEntry "c" 3 runnable running) h denied_parts.requests.2.2 rfl rfl hsample
      denied_parts.trusted
  obtain ⟨hfinished, hnot, hnone, hlatch⟩ := denied_parts.denied
  refine ⟨_, hrun, flight, List.mem_append_right _ (List.mem_singleton.mpr rfl), ?_, ?_, pair, hpair,
    ?_, ?_⟩
  · rw [hphase]
    exact hfinished
  · unfold Flight.notApplied
    rw [hphase]
    exact hnot
  · rw [hbefore]
    exact hnone
  · rw [hafter]
    exact hlatch

end Aios.Tasks
