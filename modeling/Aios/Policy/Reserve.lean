/-
  File:      Aios/Policy/Reserve.lean
  Subject:   THE RESERVATION OF A CANDIDATE: the identities of one attempt and the resources its node
             declares, before anything may run.

  The request of a caller is untrusted: what is written comes from the declared requests of the node,
  each of which has exactly one choice (`resolveAll_ok`).
-/
import Aios.Policy.Finalize
import Mathlib.Order.WithBot

namespace Aios.Policy

open Lib Provenance

/-! ## 1. Requests -/

inductive CandidateResourceHandle where
  | inputArtifact (artifactId : String)
  | outputAllocation (allocationId outputPort : String)
  | externalExport (serviceId sourceArtifactId operationId purpose : String) (maxSizeBytes : Nat)
  /-- A proposed service; this profile never resolves one. -/
  | networkService (serviceId : String)
  deriving DecidableEq

structure CandidateResourceChoice where
  action : String
  semanticSelector : String
  handle : CandidateResourceHandle
  deriving DecidableEq

structure ReserveAuthorityCandidate where
  candidateId : String
  bindingId : String
  attemptId : String
  taskId : String
  semanticProgramHash : String
  registrySnapshotId : String
  nodeId : String
  capabilityContractHash : String
  providerRegistrationId : String
  attemptNumber : Nat
  resources : List CandidateResourceChoice
  deriving DecidableEq

/-- The provider the registry selects, as the reservation pins it. -/
structure SelectedProvider where
  registrationId : String
  providerId : String
  providerVersion : String
  manifestHash : String
  buildHash : String
  evidenceId : String
  trustSourceId : String
  isolation : String
  deriving DecidableEq

/-- What the registry and the receipts say during a reservation. -/
structure ReserveOutside where
  /-- The receipt of the active program is valid, its hash apart. -/
  receiptValid : Bool
  provider : PolicyResult SelectedProvider

def semanticRequestMismatch : PolicyError :=
  .authorityDenied .candidateReservation .semanticRequestMismatch

def ReserveAuthorityCandidate.shapeValid (q : ReserveAuthorityCandidate) : Bool :=
  validId q.candidateId && validId q.bindingId && validId q.attemptId && validId q.taskId &&
    validId q.providerRegistrationId && !q.nodeId.isEmpty && q.nodeId.utf8ByteSize ≤ 128 &&
    1 ≤ q.attemptNumber && q.attemptNumber ≤ 100 && !q.resources.isEmpty && q.resources.length ≤ 32

/-! ## 2. The declared requests -/

/-- The pairs of the declared requests, all of which have to be readable. -/
def declaredPairs (declared : List Json) : PolicyResult (List (String × String)) :=
  declared.mapM fun d => expect (Tasks.authorityPair d) rejectCandidate

/-- What has been resolved so far. -/
structure Resolved where
  rows : List ResourceRow
  exportPin : Option ExportPin
  deriving DecidableEq

/-- The action and the selector of everything that was resolved. -/
def Resolved.keys (acc : Resolved) : List (String × String) :=
  acc.rows.map (fun r => (r.action, r.semanticSelector)) ++
    (acc.exportPin.map fun pin => ("data.egress", pin.selector)).toList

section Reserve

variable (env : PolicyEnv) (world : World) (q : ReserveAuthorityCandidate) (t : TaskRow)
  (program node : Json) (allocated : List String)

/-- The text behind the given start. -/
def afterStart (start text : String) : Option String :=
  if Tasks.startsWith text start then some (String.ofList (text.toList.drop start.length)) else none

/-- The input the selector names, wired into the node and the one of its type. -/
def resolveInput (selector artifactId : String) : PolicyResult ResourceRow := do
  let name ← expect (afterStart "input:" selector) rejectCandidate
  let inputs ← expect ((program.get? "inputs").bind Json.asObj) rejectCandidate
  let expected ← expect ((inputs.lookup name).bind fun v => Tasks.textAt v ["type"]) rejectCandidate
  let nodeInputs ← expect ((node.get? "inputs").bind Json.asObj) rejectCandidate
  let wired := nodeInputs.any fun w => Tasks.textAt w.2 ["source"] = some "input" &&
    Tasks.textAt w.2 ["name"] = some name
  let sameType := inputs.filter fun i => Tasks.textAt i.2 ["type"] = some expected
  let exact := inputsOfType world q.taskId expected
  rejectIf (!wired || sameType.length ≠ 1 || exact.length ≠ 1 || leastVerified exact ≠ some artifactId)
    rejectCandidate
  return ⟨q.candidateId, "artifact.read", selector, "artifact", artifactId, none, expected⟩

/-- The one output of the node. -/
def resolveOutput (allocationId port : String) : PolicyResult ResourceRow := do
  let outputs ← expect ((node.get? "outputs").bind Json.asObj) rejectCandidate
  rejectIf (outputs.length ≠ 1) rejectCandidate
  let expected ← expect ((outputs.lookup port).bind Json.asStr) rejectCandidate
  rejectIf (!validId allocationId || allocated.contains allocationId) rejectCandidate
  return ⟨q.candidateId, "artifact.write", "task.output", "output-allocation", allocationId, some port,
    expected⟩

/-- The verified input of the Task that is to leave the machine. -/
def exportSource (artifactId : String) (maxSizeBytes : Nat) : Option (String × String) := do
  let a ← (world.artifact? artifactId).filter fun _ => world.taskArtifacts.any fun ta =>
    ta.taskId = q.taskId && ta.role = "input" && ta.artifactId = artifactId
  let content ← a.contentHash
  guard (a.integrityState = "verified" && a.sizeBytes.any fun size => size ≤ maxSizeBytes)
  return (content, a.sensitivity)

/-- The export of an input, to a ready service of a class the node names. -/
def resolveExport (selector serviceId sourceArtifactId operationId purpose : String) (maxSizeBytes : Nat)
    (prior : Option ExportPin) : PolicyResult ExportPin := do
  let cls ← expect (afterStart "destination:" selector) rejectCandidate
  let classes ← expect ((pointer node ["egress", "destination_classes"]).bind Json.asArr) rejectCandidate
  let constraints ← expect (env.parseStrict (t.constraintsJson.getD "\x7b\x7d")) rejectCandidate
  rejectIf (prior.isSome || Tasks.textAt node ["egress", "mode"] ≠ some "policy" ||
    !(classes.any fun v => v.asStr = some cls) ||
    !egressAllowed (Tasks.textAt constraints ["privacy"]) || !validExportIdentifier operationId ||
    !validId purpose || maxSizeBytes = 0 || 8 * 1024 * 1024 < maxSizeBytes ||
    !(q.resources.any fun r => r.action = "artifact.read" && r.handle = .inputArtifact sourceArtifactId))
    rejectCandidate
  let s ← expect (world.exportServices.find? fun s => s.serviceId = serviceId) rejectCandidate
  rejectIf (s.destinationClass ≠ cls || s.state ≠ "READY" ||
    exportServiceHash env serviceId cls s.adapterId ≠ s.descriptorHash) rejectCandidate
  let (content, sensitivity) ← expect (exportSource world q sourceArtifactId maxSizeBytes) rejectCandidate
  return ⟨selector, serviceId, cls, s.descriptorHash, s.adapterId, operationId, sourceArtifactId, content,
    purpose, sensitivity, maxSizeBytes⟩

/-- The one choice for a declared request, resolved. -/
def resolve (acc : Resolved) (pair : String × String) : PolicyResult Resolved :=
  let (action, selector) := pair
  match q.resources.filter fun c => c.action = action && c.semanticSelector = selector with
  | [choice] => do
      rejectIf (acc.rows.any fun r => r.action = action && r.semanticSelector = selector) rejectCandidate
      match choice.handle with
      | .externalExport serviceId source operationId purpose maxSize =>
          if action = "data.egress" then do
            let pin ← resolveExport env world q t node selector serviceId source operationId purpose maxSize
              acc.exportPin
            return { acc with exportPin := some pin }
          else .error rejectCandidate
      | .inputArtifact artifactId =>
          if action = "artifact.read" then do
            let row ← resolveInput world q program node selector artifactId
            return { acc with rows := acc.rows ++ [row] }
          else .error rejectCandidate
      | .outputAllocation allocationId port =>
          if action = "artifact.write" && selector = "task.output" then do
            let row ← resolveOutput q node allocated allocationId port
            return { acc with rows := acc.rows ++ [row] }
          else .error rejectCandidate
      | .networkService _ => .error rejectCandidate
  | _ => .error rejectCandidate

/-- Every declared request, in order. -/
def resolveAll : Resolved → List (String × String) → PolicyResult Resolved
  | acc, [] => .ok acc
  | acc, pair :: rest => do
      let acc ← resolve env world q t program node allocated acc pair
      resolveAll acc rest

variable {env world q t program node allocated}

theorem resolve_ok {acc acc' : Resolved} {pair : String × String}
    (h : resolve env world q t program node allocated acc pair = .ok acc') :
    (∀ key, key ∈ acc'.keys ↔ key ∈ acc.keys ∨ key = pair) ∧
      ∀ r ∈ acc'.rows, r ∈ acc.rows ∨ (r.candidateId = q.candidateId ∧
        (r.resourceKind = "output-allocation" → r.action = "artifact.write")) := by
  obtain ⟨action, selector⟩ := pair
  unfold resolve at h
  dsimp only at h
  -- a resolved row stands for its pair
  have hrow : ∀ row : ResourceRow, row.action = action → row.semanticSelector = selector →
      row.candidateId = q.candidateId → (row.resourceKind = "output-allocation" → row.action = "artifact.write") →
      acc' = { acc with rows := acc.rows ++ [row] } →
      (∀ key, key ∈ acc'.keys ↔ key ∈ acc.keys ∨ key = (action, selector)) ∧
        ∀ r ∈ acc'.rows, r ∈ acc.rows ∨ (r.candidateId = q.candidateId ∧
          (r.resourceKind = "output-allocation" → r.action = "artifact.write")) := by
    rintro row ha hs hc hk rfl
    refine ⟨fun key => ?_, fun r hr => ?_⟩
    · simp only [Resolved.keys, List.map_append, List.mem_append, List.map_cons, List.map_nil,
        List.mem_singleton, ha, hs]
      tauto
    · rcases List.mem_append.mp hr with hr | hr
      · exact .inl hr
      · rw [List.mem_singleton.mp hr]
        exact .inr ⟨hc, hk⟩
  split at h
  · next choice hone =>
      simp only [bind_eq_ok', exists_unit, rejectIf_ok] at h
      obtain ⟨-, h⟩ := h
      split at h
      · split at h
        · next haction =>
            simp only [bind_eq_ok'] at h
            obtain ⟨pin, hpin, h⟩ := h
            obtain rfl := Except.ok.inj h
            simp only [resolveExport, bind_eq_ok', exists_unit, expect_ok, rejectIf_ok, Prod.exists] at hpin
            obtain ⟨_, -, _, -, _, -, hfree, _, -, -, _, _, -, hpin⟩ := hpin
            obtain rfl := Except.ok.inj hpin
            simp only [Bool.or_eq_false_iff] at hfree
            have hnone : acc.exportPin = none := by simpa using hfree.1.1.1.1.1.1.1.1
            refine ⟨fun key => ?_, fun r hr => .inl hr⟩
            simp [Resolved.keys, hnone, haction]
        · cases h
      · split at h
        · next haction =>
            simp only [bind_eq_ok'] at h
            obtain ⟨row, hr, h⟩ := h
            simp only [resolveInput, bind_eq_ok', exists_unit, expect_ok, rejectIf_ok] at hr
            obtain ⟨_, -, _, -, _, -, _, -, -, hr⟩ := hr
            obtain rfl := Except.ok.inj hr
            have hkind : "artifact" ≠ "output-allocation" := by decide
            exact hrow _ haction.symm rfl rfl (fun hk => absurd hk hkind) (Except.ok.inj h).symm
        · cases h
      · split at h
        · next haction =>
            simp only [bind_eq_ok'] at h
            obtain ⟨row, hr, h⟩ := h
            simp only [resolveOutput, bind_eq_ok', exists_unit, expect_ok, rejectIf_ok] at hr
            obtain ⟨_, -, -, _, -, -, hr⟩ := hr
            obtain rfl := Except.ok.inj hr
            simp only [Bool.and_eq_true, decide_eq_true_eq] at haction
            exact hrow _ haction.1.symm haction.2.symm rfl (fun _ => rfl) (Except.ok.inj h).symm
        · cases h
      · cases h
  · cases h

/-- **What is resolved is what the node declares**, and every row is of the candidate. -/
theorem resolveAll_ok {acc acc' : Resolved} {pairs : List (String × String)}
    (h : resolveAll env world q t program node allocated acc pairs = .ok acc') :
    (∀ key, key ∈ acc'.keys ↔ key ∈ acc.keys ∨ key ∈ pairs) ∧
      ∀ r ∈ acc'.rows, r ∈ acc.rows ∨ (r.candidateId = q.candidateId ∧
        (r.resourceKind = "output-allocation" → r.action = "artifact.write")) := by
  induction pairs generalizing acc with
  | nil =>
      obtain rfl := Except.ok.inj h
      exact ⟨fun key => by simp, fun r hr => .inl hr⟩
  | cons pair rest ih =>
      simp only [resolveAll, bind_eq_ok'] at h
      obtain ⟨acc1, h1, h2⟩ := h
      obtain ⟨hkeys1, hrows1⟩ := resolve_ok h1
      obtain ⟨hkeys2, hrows2⟩ := ih h2
      refine ⟨fun key => ?_, fun r hr => ?_⟩
      · rw [hkeys2, hkeys1, List.mem_cons, or_assoc]
      · rcases hrows2 r hr with hr | hnew
        · exact hrows1 r hr
        · exact .inr hnew

variable (env world q t program node allocated)

/-! ## 3. The rows -/

/-- The active program of the Task under the hash and the snapshot of the request. -/
def requestedProgram : Option ProgramRow :=
  world.programs.find? fun p => p.taskId = q.taskId && t.activeProgramRevision = some p.programRevision &&
    p.status = "active" && p.semanticHash = some q.semanticProgramHash &&
    p.registrySnapshotId = some q.registrySnapshotId

/-- A node without a locality may run anywhere, and here. -/
def localityAllows : Bool :=
  (pointer node ["constraints", "locality"]).all fun v => v.asArr.any fun values =>
    values.any fun x => x.asStr = some "local"

/-- The constraints of the Task, each of them admissible. -/
def taskConstraintsAllowLocal (raw : Option String) (checked : Int) : Bool :=
  raw.all fun text => ((env.parseStrict text).bind Json.asObj).any fun members =>
    members.all fun m => constraintAdmissible env checked m.1 m.2

def reservationRow (p : ProgramRow) (capability : String) (s : SelectedProvider) (count : Nat)
    (createdAt : String) : ReservationRow where
  candidateId := q.candidateId
  bindingId := q.bindingId
  attemptId := q.attemptId
  taskId := q.taskId
  semanticProgramHash := q.semanticProgramHash
  registrySnapshotId := q.registrySnapshotId
  irVersion := p.irVersion
  nodeId := q.nodeId
  capability := capability
  capabilityContractHash := q.capabilityContractHash
  providerRegistrationId := s.registrationId
  providerId := s.providerId
  providerVersion := s.providerVersion
  providerManifestHash := s.manifestHash
  providerBuildHash := s.buildHash
  conformanceEvidenceId := s.evidenceId
  providerTrustSourceId := s.trustSourceId
  executionProfileRef := "profile:stage1-local:" ++ s.isolation
  isolationClass := s.isolation
  placementLocality := "local"
  attemptNumber := q.attemptNumber
  resourceCount := count
  createdAt := createdAt

end Reserve

/-- The two rows are for one attempt of one node. -/
def sameAttempt (taskA hashA nodeA : String) (attemptA : Nat) (c : ReservationRow) : Bool :=
  c.taskId = taskA && c.semanticProgramHash = hashA && c.nodeId = nodeA && c.attemptNumber = attemptA

/-- The identities of the reservation are taken neither by another one nor by a binding or a step. -/
def reservationInsertable (store : PolicyStore) (c : ReservationRow) : Bool :=
  (store.reservations.all fun x => x.candidateId ≠ c.candidateId && x.bindingId ≠ c.bindingId &&
    x.attemptId ≠ c.attemptId && !sameAttempt x.taskId x.semanticProgramHash x.nodeId x.attemptNumber c) &&
  (store.bindings.all fun b => b.bindingId ≠ c.bindingId && b.attemptId ≠ c.attemptId) &&
  store.steps.all fun s => s.attemptId ≠ c.attemptId && s.bindingId ≠ some c.bindingId &&
    !sameAttempt s.taskId s.semanticProgramHash s.nodeId s.attemptNumber c

/-- The rows are for the candidate, once for each action and selector, and their outputs are new. -/
def resourcesInsertable (store : PolicyStore) (c : ReservationRow) (rows : List ResourceRow) : Bool :=
  (rows.all fun r => r.candidateId = c.candidateId) &&
  (store.resources.all fun r => r.candidateId ≠ c.candidateId) &&
  decide (rows.map fun r => (r.action, r.semanticSelector)).Nodup &&
  decide (rows.length = c.resourceCount) &&
  (rows.all fun r => r.resourceKind ≠ "output-allocation" ||
    ((store.resources.all fun x => x.resourceKind ≠ "output-allocation" || x.resourceId ≠ r.resourceId) &&
      store.allocations.all fun a => a.allocationId ≠ r.resourceId)) &&
  decide ((rows.filter fun r => r.resourceKind = "output-allocation").map ResourceRow.resourceId).Nodup

def pinInsertable (store : PolicyStore) (c : ReservationRow) (pin : Option ExportPin) : Bool :=
  pin.all fun p => store.exportPins.all fun x => x.1 ≠ c.candidateId && x.2.operationId ≠ p.operationId

/-- The candidate has no status yet. -/
def statusInsertable (store : PolicyStore) (c : ReservationRow) : Bool :=
  store.statuses.all fun s => s.candidateId ≠ c.candidateId

/-- The rows of the reservation, where the tables take them. -/
def insertReservation (store : PolicyStore) (c : ReservationRow) (acc : Resolved) :
    PolicyResult PolicyStore := do
  rejectIf (!reservationInsertable store c || !resourcesInsertable store c acc.rows ||
    !pinInsertable store c acc.exportPin || !statusInsertable store c)
    (.storage "authority candidate reservation cannot be inserted")
  return { store with
    reservations := store.reservations ++ [c]
    resources := store.resources ++ acc.rows
    exportPins := store.exportPins ++ (acc.exportPin.map fun pin => (c.candidateId, pin)).toList
    statuses := store.statuses ++ [⟨c.candidateId, 1, .pending⟩] }

/-- The latest attempt of the node, reserved, bound or executed. -/
def latestAttempt (store : PolicyStore) (q : ReserveAuthorityCandidate) : Nat :=
  let ofNode := fun taskId hash nodeId =>
    taskId = q.taskId && hash = q.semanticProgramHash && nodeId = q.nodeId
  (((store.bindings.filter fun b => ofNode b.taskId b.semanticProgramHash b.nodeId).map BindingRow.attempt ++
    (store.reservations.filter fun c => ofNode c.taskId c.semanticProgramHash c.nodeId).map
      ReservationRow.attemptNumber ++
    (store.steps.filter fun s => ofNode s.taskId s.semanticProgramHash s.nodeId).map
      StepRow.attemptNumber).max?).getD 0

/-! ## 4. The replay -/

/-- The result of a reservation. -/
structure PendingAuthorityCandidate where
  candidateId : String
  bindingId : String
  attemptId : String
  taskId : String
  semanticProgramHash : String
  registrySnapshotId : String
  nodeId : String
  capability : String
  providerRegistrationId : String
  providerId : String
  providerBuildHash : String
  conformanceEvidenceId : String
  executionProfileRef : String
  isolationClass : String
  placementLocality : String
  resourceCount : Nat
  deriving DecidableEq

/-- A resource as the replay compares it. -/
structure ReservedChoice where
  action : String
  semanticSelector : String
  resourceKind : String
  resourceId : String
  outputPort : Option String
  deriving DecidableEq

/-- An export as the replay compares it. -/
structure RequestedExport where
  action : String
  selector : String
  serviceId : String
  sourceArtifactId : String
  operationId : String
  purpose : String
  maxSizeBytes : Nat
  deriving DecidableEq

def ResourceRow.choice (r : ResourceRow) : ReservedChoice :=
  ⟨r.action, r.semanticSelector, r.resourceKind, r.resourceId, r.outputPort⟩

/-- The order of the tuples. -/
def ReservedChoice.key (r : ReservedChoice) :
    String ×ₗ String ×ₗ String ×ₗ String ×ₗ WithBot String :=
  toLex (r.action, toLex (r.semanticSelector, toLex (r.resourceKind, toLex (r.resourceId, r.outputPort))))

def CandidateResourceHandle.isExport : CandidateResourceHandle → Bool
  | .externalExport .. => true
  | _ => false

/-- The resources of the request behind those that were read, and its export, of which there is at
    most one. -/
def requestedChoices : List ReservedChoice × Option RequestedExport → List CandidateResourceChoice →
    PolicyResult (List ReservedChoice × Option RequestedExport)
  | acc, [] => .ok acc
  | (requested, exported), choice :: rest =>
      match choice.handle with
      | .inputArtifact artifactId => requestedChoices
          (requested ++ [⟨choice.action, choice.semanticSelector, "artifact", artifactId, none⟩], exported) rest
      | .outputAllocation allocationId port => requestedChoices
          (requested ++ [⟨choice.action, choice.semanticSelector, "output-allocation", allocationId, some port⟩],
            exported) rest
      | .externalExport serviceId source operationId purpose maxSize => do
          rejectIf (choice.action ≠ "data.egress" || exported.isSome) rejectCandidate
          requestedChoices (requested, some ⟨choice.action, choice.semanticSelector, serviceId, source,
            operationId, purpose, maxSize⟩) rest
      | .networkService _ => .error rejectCandidate

/-- The export of the request is the one of the pin. -/
def exportMatches : Option RequestedExport → Option ExportPin → Bool
  | none, none => true
  | some e, some pin => e.action = "data.egress" && pin.selector = e.selector &&
      pin.serviceId = e.serviceId && pin.sourceArtifactId = e.sourceArtifactId &&
      pin.operationId = e.operationId && pin.purpose = e.purpose && pin.maxSizeBytes = e.maxSizeBytes
  | _, _ => false

/-- `load_current_export_pin` for a candidate that is there; a pin needs the Task of the candidate. -/
def currentExportPin (env : PolicyEnv) (view : LoadView) (c : ReservationRow) :
    PolicyResult (Option ExportPin) :=
  match view.exportPin? c.candidateId with
  | none => .ok none
  | some _ => do
      let t ← expect (view.world.task? c.taskId) rejectCandidate
      loadCurrentExportPin env view t c.candidateId

/-- The identities and pins of the request are those of the reservation. -/
def requestMatches (c : ReservationRow) (q : ReserveAuthorityCandidate) : Bool :=
  c.bindingId = q.bindingId && c.attemptId = q.attemptId && c.taskId = q.taskId &&
    c.semanticProgramHash = q.semanticProgramHash && c.registrySnapshotId = q.registrySnapshotId &&
    c.nodeId = q.nodeId && c.capabilityContractHash = q.capabilityContractHash &&
    c.providerRegistrationId = q.providerRegistrationId && c.attemptNumber = q.attemptNumber

/-- `replay_existing`: the reservation under the identity of the request, if there is one, has to be
    pending and the same. -/
def replayExisting (env : PolicyEnv) (store : PolicyStore) (q : ReserveAuthorityCandidate) :
    PolicyResult (Option PendingAuthorityCandidate) :=
  let view := store.loadView
  match view.reservation? q.candidateId, view.state? q.candidateId with
  | some c, some state => do
      rejectIf (!requestMatches c q || state ≠ .pending) rejectCandidate
      let stored := (store.resources.filter fun r => r.candidateId = q.candidateId).map ResourceRow.choice
      let pin ← currentExportPin env view c
      -- a replay cannot widen the request that was sealed
      rejectIf (q.resources.any fun claim =>
        !(stored.any fun r => r.action = claim.action && r.semanticSelector = claim.semanticSelector) &&
          !(pin.any fun p => claim.action = "data.egress" && claim.semanticSelector = p.selector))
        semanticRequestMismatch
      rejectIf (c.resourceCount ≠ (q.resources.filter fun r => !r.handle.isExport).length) rejectCandidate
      let (requested, exported) ← requestedChoices ([], none) q.resources
      rejectIf (sortOn ReservedChoice.key stored ≠ sortOn ReservedChoice.key requested) rejectCandidate
      rejectIf (!exportMatches exported pin) rejectCandidate
      rejectIf (c.executionProfileRef ≠ "profile:stage1-local:" ++ c.isolationClass ||
        c.placementLocality ≠ "local") rejectCandidate
      return some {
        candidateId := q.candidateId
        bindingId := c.bindingId
        attemptId := c.attemptId
        taskId := c.taskId
        semanticProgramHash := c.semanticProgramHash
        registrySnapshotId := c.registrySnapshotId
        nodeId := c.nodeId
        capability := c.capability
        providerRegistrationId := c.providerRegistrationId
        providerId := c.providerId
        providerBuildHash := c.providerBuildHash
        conformanceEvidenceId := c.conformanceEvidenceId
        executionProfileRef := c.executionProfileRef
        isolationClass := c.isolationClass
        placementLocality := "local"
        resourceCount := stored.length }
  | _, _ => .ok none

/-! ## 5. The reservation -/

/-- What a new reservation returns. -/
def pendingCandidate (q : ReserveAuthorityCandidate) (capability : String) (s : SelectedProvider)
    (count : Nat) : PendingAuthorityCandidate where
  candidateId := q.candidateId
  bindingId := q.bindingId
  attemptId := q.attemptId
  taskId := q.taskId
  semanticProgramHash := q.semanticProgramHash
  registrySnapshotId := q.registrySnapshotId
  nodeId := q.nodeId
  capability := capability
  providerRegistrationId := s.registrationId
  providerId := s.providerId
  providerBuildHash := s.buildHash
  conformanceEvidenceId := s.evidenceId
  executionProfileRef := "profile:stage1-local:" ++ s.isolation
  isolationClass := s.isolation
  placementLocality := "local"
  resourceCount := count

/-- `reserve_authority_candidate`; a candidate that is there already is not written again. -/
def reserveAuthorityCandidate (env : PolicyEnv) (outside : ReserveOutside) (store : PolicyStore)
    (q : ReserveAuthorityCandidate) (lease : Tasks.Lease) (selected checkedAt : String) :
    PolicyResult (PolicyStore × PendingAuthorityCandidate) := do
  rejectIf (!q.shapeValid) rejectCandidate
  assertManagerLease store lease
  match ← replayExisting env store q with
  | some existing => return (store, existing)
  | none => do
    let selectedAt ← expect (env.time.rfc3339 selected) rejectCandidate
    let checked ← expect (env.time.rfc3339 checkedAt) rejectCandidate
    let t ← expect ((store.world.task? q.taskId).filter fun t => evaluable t.state) rejectCandidate
    let p ← expect (requestedProgram store.world q t) rejectCandidate
    let program ← expect (env.parseJson p.programJson) rejectCandidate
    let node ← expect (Tasks.programNode program q.nodeId) rejectCandidate
    let capability ← expect (Tasks.textAt node ["operation", "capability"]) rejectCandidate
    rejectIf (!outside.receiptValid ||
      env.recomputeSemanticHash p.programJson ≠ some q.semanticProgramHash) rejectCandidate
    rejectIf (checked < selectedAt || !taskConstraintsAllowLocal env t.constraintsJson checked ||
      !localityAllows node) rejectCandidate
    rejectIf (q.attemptNumber ≠ latestAttempt store q + 1) rejectCandidate
    let s ← outside.provider
    rejectIf (s.registrationId ≠ q.providerRegistrationId) rejectCandidate
    let declared ← expect ((node.get? "authority_requests").bind Json.asArr) rejectCandidate
    let pairs ← declaredPairs declared
    rejectIf (q.resources.any fun c => !pairs.contains (c.action, c.semanticSelector))
      semanticRequestMismatch
    rejectIf (declared.length ≠ q.resources.length) rejectCandidate
    let acc ← resolveAll env store.world q t program node
      (store.allocations.map AllocationRow.allocationId) ⟨[], none⟩ pairs
    rejectIf (decide (Tasks.textAt node ["egress", "mode"] = some "policy") ≠ acc.exportPin.isSome)
      rejectCandidate
    let store ← insertReservation store (reservationRow q p capability s acc.rows.length checkedAt) acc
    return (store, pendingCandidate q capability s acc.rows.length)

end Aios.Policy
