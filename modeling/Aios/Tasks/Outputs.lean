/-
  File:      Aios/Tasks/Outputs.lean
  Subject:   THE OUTPUTS OF A TASK: the allocations a start needs, the artifacts a completion needs,
             and the event that verified them.

  `portOutput` answers for one declared port: the latest attempt of the node succeeded and exactly one
  published artifact fits the allocation of the port. `collectOutputs` asks for all ports and takes no
  artifact twice. `hasCurrentVerification` goes through the verification events from the last to the
  first; one that is not intact ends the search, one of another program is passed over.
-/
import Aios.Tasks.Authority
import Aios.Tasks.Receipt

namespace Aios.Tasks

open Lib Provenance

variable {ρ : Type} (env : Env (Tables ρ)) (checks : DocumentChecks ρ) (store : Store (Tables ρ))

/-! ## 1. Allocations -/

/-- The declared ports of a node with their types. -/
def programOutputPorts (program : Json) (nodeId : String) : Option (List (String × String)) := do
  let node ← programNode program nodeId
  let outputs ← (node.get? "outputs").bind Json.asObj
  outputs.mapM fun field => field.2.asStr.map fun type => (field.1, type)

/-- The allocations that wait for the outputs of this attempt. -/
def openAllocations (check : BindingGrantCheck) : List AllocationRow :=
  store.core.other.allocations.filter fun a => a.taskId = check.taskId &&
    a.semanticProgramHash = check.semanticHash && a.nodeId = check.nodeId &&
    a.bindingId = some check.bindingId && a.attemptId = some check.attemptId && a.state = .allocated

/-- The port and the type of an allocation that has not run out. -/
def allocatedPort (instant : Int) (a : AllocationRow) : Option (String × String) := do
  let port ← a.outputPort
  let type ← a.expectedSemanticType
  if laterThan env instant a.expiresAt then some (port, type) else none

/-- The ports of the allocations, none of them twice. -/
def allocatedPorts (instant : Int) (rows : List AllocationRow) : Option (List (String × String)) := do
  let ports ← rows.mapM (allocatedPort env instant)
  if (ports.map Prod.fst).Nodup then some ports else none

def outputAllocationsReady (check : BindingGrantCheck) : TaskResult Bool := do
  let p ← expect (store.core.programs.find? fun p => p.taskId = check.taskId &&
      activeRevision store.core check.taskId = some p.programRevision &&
      p.semanticHash = some check.semanticHash) (.storage "Query returned no rows")
  let program ← expect (env.parseJson p.programJson) (.serialization "program_json")
  match programOutputPorts program check.nodeId with
  | none => return false
  | some expected => do
      let instant ← expect (env.journal.rfc3339 check.checkedAt)
        (.invalidRecord "trusted allocation time is not RFC 3339")
      match allocatedPorts env instant (openAllocations store check) with
      | none => return false
      | some actual => return actual.all (expected.contains ·) && expected.all (actual.contains ·)

/-! ## 2. Published artifacts -/

/-- A port of the program: its node, its name, its type. -/
structure Port where
  nodeId : String
  port : String
  semanticType : String
  deriving DecidableEq

/-- A published artifact with the allocation and the publication it went through. -/
structure PublishedOutput where
  allocation : AllocationRow
  publication : PublicationRow
  artifact : ArtifactRow
  deriving DecidableEq

/-- The publication of the allocation is committed. -/
def publishedThrough (a : AllocationRow) (p : PublicationRow) : Bool :=
  a.publicationId = some p.publicationId && p.allocationId = a.allocationId && p.taskId = a.taskId &&
    p.artifactId = a.publishedArtifactId && p.state = .committed

/-- The artifact is intact, of the expected type, with the content that was published. -/
def artifactIntact (a : AllocationRow) (p : PublicationRow) (f : ArtifactRow) : Bool :=
  a.publishedArtifactId = some f.artifactId && f.contentHash.isSome && f.contentHash = p.contentHash &&
    f.integrityState = "verified" && f.integrityVerifiedAt.isSome && f.semanticType.isSome &&
    f.semanticType = a.expectedSemanticType

def blobDurable (f : ArtifactRow) (blob : BlobRow) : Bool :=
  f.contentHash = some blob.contentHash && blob.durabilityState = "DURABLE" && blob.verifiedAt.isSome &&
    f.sizeBytes = some blob.sizeBytes

/-- The artifact is an output of the node of its allocation. -/
def outputOf (a : AllocationRow) (t : TaskArtifactRow) : Bool :=
  t.taskId = a.taskId && a.publishedArtifactId = some t.artifactId && t.role = "output" &&
    t.nodeId = some a.nodeId

/-- The published outputs of one attempt for one port. -/
def publishedOutputs (t : Tables ρ) (s : StepRow) (b : BindingRow) (port : Port) : List PublishedOutput :=
  (t.allocations.filter fun a => a.taskId = s.taskId &&
    a.semanticProgramHash = s.semanticProgramHash && a.nodeId = port.nodeId &&
    a.bindingId = some b.bindingId && a.attemptId = some s.attemptId &&
    a.outputPort = some port.port && a.state = .published &&
    a.expectedSemanticType = some port.semanticType && a.publishedArtifactId.isSome).flatMap fun a =>
  (t.publications.filter (publishedThrough a)).flatMap fun p =>
  (t.artifacts.filter (artifactIntact a p)).flatMap fun f =>
  (t.blobs.filter (blobDurable f)).flatMap fun _ =>
  (t.taskArtifacts.filter (outputOf a)).map fun _ => ⟨a, p, f⟩

/-- The media type is among the allowed ones; `none` where the list cannot be read. -/
def mediaAllowed (o : PublishedOutput) : Option Bool :=
  match o.allocation.allowedMediaTypesJson with
  | none => some true
  | some text => do
      let allowed ← (env.parseJson text).bind (decodeList Json.asStr)
      return allowed.length ≤ 32 && allowed.Nodup && allowed.contains o.artifact.mediaType

/-- The artifact fits its allocation. -/
def outputFits (o : PublishedOutput) : Bool :=
  mediaAllowed env o = some true &&
    (o.allocation.maxSizeBytes.all fun maximum => o.artifact.sizeBytes.all fun size => size ≤ maximum) &&
    o.artifact.sensitivity = o.allocation.sensitivity &&
    o.artifact.retentionClass = some o.allocation.retention

/-- The certainty of an attempt. -/
def certaintyOf (t : Tables ρ) (attemptId : String) : Option Certainty :=
  (t.stepColumns.find? fun c => c.attemptId = attemptId).bind StepColumns.outcomeCertainty

/-- The one artifact of a declared port. -/
def portOutput (taskId : String) (port : Port) : Option PublishedOutput :=
  if latestActiveAttemptCount store.core taskId port.nodeId ≠ 1 then none
  else match firstBound store.core (latestAttempts store.core taskId port.nodeId) with
    | none => none
    | some (s, b) =>
        if s.state ≠ .succeeded || certaintyOf store.core.other s.attemptId ≠ some .completed then none
        else match publishedOutputs store.core.other s b port with
          | [o] => if outputFits env o then some o else none
          | _ => none

/-- The outputs of the ports, no artifact twice. A repeated publication is a repeated artifact. -/
def collectOutputs (taskId : String) : List Port → List PublishedOutput → Option (List PublishedOutput)
  | [], found => some found
  | port :: rest, found => do
      let o ← portOutput env store taskId port
      if found.any fun earlier => earlier.artifact.artifactId = o.artifact.artifactId then none
      else collectOutputs taskId rest (found ++ [o])

/-! ## 3. Completion -/

/-- The identities of the nodes, none of them twice. -/
def programNodes (program : Json) : Option (List String) := do
  let nodes ← (program.get? "nodes").bind Json.asArr
  let ids ← nodes.mapM fun node => textAt node ["id"]
  if ids.Nodup then some ids else none

/-- All declared ports of these nodes. -/
def declaredPorts (program : Json) (nodes : List String) : Option (List Port) := do
  let ports ← nodes.mapM fun nodeId => (programOutputPorts program nodeId).map fun ports =>
    ports.map fun p => (⟨nodeId, p.1, p.2⟩ : Port)
  return ports.flatten

/-- The active steps are the nodes of the program, and there is something to complete. -/
def stepsComplete (activeSteps nodes : List String) (ports : List Port) : Bool :=
  !nodes.isEmpty && !ports.isEmpty && activeSteps.Nodup && activeSteps.all (nodes.contains ·) &&
    nodes.all (activeSteps.contains ·)

/-- The active program of the Task. -/
def currentProgram (core : Core (Tables ρ)) (taskId : String) : Option ProgramRow :=
  core.programs.find? fun p => p.taskId = taskId && activeRevision core taskId = some p.programRevision &&
    p.status = "active"

/-- The outputs of the completed steps. -/
def completedOutputs (taskId : String) (activeSteps : List String) (program : Json) :
    Option (List PublishedOutput) := do
  let nodes ← programNodes program
  let ports ← declaredPorts program nodes
  if stepsComplete activeSteps nodes ports then collectOutputs env store taskId ports [] else none

def activeStepCompletionFacts (taskId : String) (activeSteps : List String) :
    TaskResult (Option (List String)) :=
  match currentProgram store.core taskId with
  | none => .ok none
  | some p => do
      let hash ← expect p.semanticHash (.storage "Invalid column type Null")
      let valid ← activeProgramValidationValid env checks store taskId hash
      if !valid then return none
      let program ← expect (env.parseJson p.programJson) (.serialization "program_json")
      return (completedOutputs env store taskId activeSteps program).map fun outputs =>
        outputs.map fun o => o.artifact.artifactId

/-! ## 4. Verification -/

/-- The program a verification must name. -/
structure ActiveIdentity where
  semanticHash : String
  registrySnapshotId : String
  validationResultId : String
  deriving DecidableEq

def activeIdentity (core : Core (Tables ρ)) (taskId : String) : Option ActiveIdentity := do
  let p ← currentProgram core taskId
  let hash ← p.semanticHash
  let snapshot ← p.registrySnapshotId
  let validation ← p.validationResultId
  return ⟨hash, snapshot, validation⟩

/-- The successful verifications of the Task, the last one first. -/
def verificationRows (events : List EventRow) (taskId : String) : List EventRow :=
  (sortOn EventRow.sequence (events.filter fun row => row.taskId = taskId &&
    row.eventType = "verification.completed" && row.status = some "success")).reverse

/-- The event repeats the columns of its row. -/
def verificationIntact (taskId : String) (row : EventRow) : Bool :=
  stringField row.event "event_id" = some row.eventId &&
    stringField row.event "task_id" = some taskId &&
    stringField row.event "event_type" = some "verification.completed" &&
    stringField row.event "timestamp" = some row.timestamp &&
    stringField row.event "status" = some "success"

/-- The row, its hash and the journal hold together. -/
def verificationAuthentic (taskId : String) (row : EventRow) : TaskResult Bool := do
  if !verificationIntact taskId row then return false
  let hash ← provenanceHash env taskId row
  if hash ≠ row.eventHash then return false
  let through ← verifyProvenanceThrough env store.core.events taskId (some row.sequence)
  if !through then return false
  verifyProvenanceThrough env store.core.events taskId none

/-- The verification is for this program. -/
def verifiesProgram (id : ActiveIdentity) (event : Json) : Bool :=
  textAt event ["semantic_program_hash"] = some id.semanticHash &&
    textAt event ["registry_snapshot_id"] = some id.registrySnapshotId &&
    textAt event ["validation_result_id"] = some id.validationResultId

/-- The texts of an array member. -/
def textsAt (event : Json) (key : String) : List String :=
  (((event.get? key).bind Json.asArr).getD []).filterMap Json.asStr

/-- The artifacts a verification names, read or written. -/
def coveredArtifacts (event : Json) : List String :=
  textsAt event "input_artifacts" ++ textsAt event "output_artifacts"

def searchVerification (taskId : String) (id : ActiveIdentity) (required : List String) :
    List EventRow → TaskResult Bool
  | [] => .ok false
  | row :: rest => do
      let authentic ← verificationAuthentic env store taskId row
      if !authentic then return false
      if verifiesProgram id row.event && required.all ((coveredArtifacts row.event).contains ·) then
        return true
      searchVerification taskId id required rest

def hasCurrentVerification (taskId : String) (required : List String) : TaskResult Bool :=
  match activeIdentity store.core taskId with
  | none => .ok false
  | some id =>
      if required.isEmpty then .ok false
      else searchVerification env store taskId id required (verificationRows store.core.events taskId)

/-! ## 5. What a start and a completion have -/

variable {env : Env (Tables ρ)} {checks : DocumentChecks ρ} {store : Store (Tables ρ)}

/-- The open allocations of the attempt are the declared ports of its node, and none has run out. -/
structure OutputsAllocated (env : Env (Tables ρ)) (store : Store (Tables ρ)) (check : BindingGrantCheck)
    (expected : List (String × String)) : Prop where
  program : ∃ p ∈ store.core.programs, p.taskId = check.taskId ∧
    activeRevision store.core check.taskId = some p.programRevision ∧
    p.semanticHash = some check.semanticHash ∧ ∃ program, env.parseJson p.programJson = some program ∧
      programOutputPorts program check.nodeId = some expected
  distinct : ((openAllocations store check).map AllocationRow.outputPort).Nodup
  exact : ∀ port type, (port, type) ∈ expected ↔ ∃ a ∈ openAllocations store check,
    a.outputPort = some port ∧ a.expectedSemanticType = some type
  current : ∃ instant, env.journal.rfc3339 check.checkedAt = some instant ∧
    ∀ a ∈ openAllocations store check, ∃ time, env.journal.rfc3339 a.expiresAt = some time ∧ instant < time

theorem allocatedPort_some {instant : Int} {a : AllocationRow} {pair : String × String}
    (h : allocatedPort env instant a = some pair) :
    a.outputPort = some pair.1 ∧ a.expectedSemanticType = some pair.2 ∧
      ∃ time, env.journal.rfc3339 a.expiresAt = some time ∧ instant < time := by
  unfold allocatedPort at h
  simp only [Option.bind_eq_bind, Option.bind_eq_some_iff] at h
  obtain ⟨port, hport, type, htype, h⟩ := h
  split at h
  · next hlater =>
    rw [← Option.some.inj h]
    exact ⟨hport, htype, by simpa [laterThan, Option.any_eq_true] using hlater⟩
  · cases h

/-- What `mapM` finds, element by element. -/
theorem forall₂_of_mapM {α β : Type} {f : α → Option β} {l : List α} {r : List β}
    (h : l.mapM f = some r) : List.Forall₂ (fun a b => f a = some b) l r := by
  induction l generalizing r with
  | nil =>
      have e : [] = r := Option.some.inj h
      rw [← e]
      exact .nil
  | cons a l ih =>
      rw [List.mapM_cons] at h
      simp only [Option.bind_eq_bind, Option.bind_eq_some_iff] at h
      obtain ⟨b, hb, rest, hrest, e⟩ := h
      rw [← Option.some.inj e]
      exact .cons hb (ih hrest)

theorem forall₂_mem_left {α β : Type} {R : α → β → Prop} {l : List α} {r : List β}
    (h : List.Forall₂ R l r) {a : α} (ha : a ∈ l) : ∃ b ∈ r, R a b := by
  induction h with
  | nil => cases ha
  | @cons x y _ _ hxy _ ih =>
      rcases List.mem_cons.mp ha with e | hmem
      · exact ⟨y, List.mem_cons_self, e ▸ hxy⟩
      · obtain ⟨b, hb, hR⟩ := ih hmem
        exact ⟨b, List.mem_cons_of_mem _ hb, hR⟩

theorem outputAllocationsReady_sound {check : BindingGrantCheck}
    (h : outputAllocationsReady env store check = .ok true) :
    ∃ expected, OutputsAllocated env store check expected := by
  unfold outputAllocationsReady at h
  simp only [bind_eq_ok', expect_ok] at h
  obtain ⟨p, hp, program, hprogram, h⟩ := h
  split at h
  · cases h
  · next expected hexpected =>
    rw [bind_eq_ok'] at h
    obtain ⟨instant, hinstant, h⟩ := h
    rw [expect_ok] at hinstant
    split at h
    · cases h
    · next actual hactual =>
      have hgood := Except.ok.inj h
      simp only [Bool.and_eq_true, List.all_eq_true, List.contains_iff_mem] at hgood
      unfold allocatedPorts at hactual
      simp only [Option.bind_eq_bind, Option.bind_eq_some_iff] at hactual
      obtain ⟨ports, hports, hactual⟩ := hactual
      split at hactual
      · next hnodup =>
        have e : ports = actual := Option.some.inj hactual
        subst e
        have hpairs := (forall₂_of_mapM hports).imp fun a pair hpair => allocatedPort_some hpair
        have hkeys : (openAllocations store check).map AllocationRow.outputPort =
            (ports.map Prod.fst).map some := by
          rw [List.map_map]
          refine List.forall₂_eq_eq_eq ▸ ?_
          rw [List.forall₂_map_left_iff, List.forall₂_map_right_iff]
          exact hpairs.imp fun a pair hpair => hpair.1
        have hfound := List.find?_some hp
        simp only [Bool.and_eq_true, decide_eq_true_eq] at hfound
        refine ⟨expected, ⟨p, List.mem_of_find?_eq_some hp, hfound.1.1, hfound.1.2, hfound.2, program,
          hprogram, hexpected⟩, ?_, fun port type => ⟨fun hmem => ?_, fun hmem => ?_⟩, instant, hinstant,
          fun a ha => ?_⟩
        · rw [hkeys]
          exact hnodup.map (Option.some_injective _)
        · obtain ⟨a, ha, hpair⟩ := forall₂_mem_left hpairs.flip (hgood.2 _ hmem)
          exact ⟨a, ha, hpair.1, hpair.2.1⟩
        · obtain ⟨a, ha, hport, htype⟩ := hmem
          obtain ⟨pair, hpair, hsame, htype', _⟩ := forall₂_mem_left hpairs ha
          have e : pair = (port, type) := Prod.ext (Option.some.inj (hsame.symm.trans hport))
            (Option.some.inj (htype'.symm.trans htype))
          rw [← e]
          exact hgood.1 pair hpair
        · obtain ⟨_, _, _, _, hlater⟩ := forall₂_mem_left hpairs ha
          exact hlater
      · cases hactual

end Aios.Tasks
