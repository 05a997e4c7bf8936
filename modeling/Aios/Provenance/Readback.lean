/-
  File:      Aios/Provenance/Readback.lean
  Subject:   WHAT THE EXPORTER WRITES, THE VERIFIER READS: the walk of the verifier over a projected event.

  The walk refuses raw texts, aliases of another place and what is out of bounds. None of these occurs
  in a projected event: it reads each text that is kept and a placeholder for each other one (`shown`),
  and stops only at a member the journal names itself.
-/
import Aios.Provenance.Projection

namespace Aios.Provenance

open Lib Json

/-! ## 1. What the verifier is shown -/

section Shown

variable (env : JournalEnv) (aliasKey : List UInt8)

mutual

/-- The source with a placeholder for each text that is not kept. -/
def shown (path : List String) : Json → Result Json
  | .str text =>
      if retainedProjectionString env.rfc3339 path text then .ok (.str text)
      else .ok (.str (projectedPlaceholder path
        [("alias", .str (aliasText env.digest aliasKey (aliasNamespace path) text))]))
  | .arr values => do
      let shapes ← shownElements path values
      return .arr shapes
  | .obj members =>
      if isPrivateCommitment members then .ok (.obj members)
      else do
        rejectIf (members.any fun m => journalKeys.contains m.1) (.invalidRecord "projected object is invalid")
        let shapes ← shownMembers path members
        return .obj shapes
  | value => .ok value

@[inherit_doc shown]
def shownElements (path : List String) : List Json → Result (List Json)
  | [] => .ok []
  | value :: rest => do
      let shape ← shown path value
      let shapes ← shownElements path rest
      return shape :: shapes

@[inherit_doc shown]
def shownMembers (path : List String) : List (String × Json) → Result (List (String × Json))
  | [] => .ok []
  | (key, value) :: rest => do
      let shape ← shown (key :: path) value
      let shapes ← shownMembers path rest
      return (key, shape) :: shapes

end

end Shown

/-! ## 2. Aliases -/

variable {env : JournalEnv} {aliasKey : List UInt8} {path : List String}

theorem aliasValue_eq (digest : Digest) (aliasKey : List UInt8) (name text : String) :
    aliasValue digest aliasKey name text = .obj [("alias", .str (aliasText digest aliasKey name text)),
      ("kind", .str "bundle-local-alias"), ("namespace", .str name), ("version", .str "v1")] := by
  rfl

theorem aliasNamespace_known (path : List String) : aliasNamespaces.contains (aliasNamespace path) = true := by
  unfold aliasNamespace
  split <;> (repeat' split) <;> decide

/-- The verifier reads an alias in the place it was written for. -/
theorem read_alias {digest : String} (hhash : validHash digest = true) :
    projectedSourceShape env path (.obj [("alias", .str digest), ("kind", .str "bundle-local-alias"),
      ("namespace", .str (aliasNamespace path)), ("version", .str "v1")]) =
      .ok (.str (projectedPlaceholder path [("alias", .str digest)])) := by
  have hknown := aliasNamespace_known path
  generalize hm : [("alias", Json.str digest), ("kind", .str "bundle-local-alias"),
    ("namespace", .str (aliasNamespace path)), ("version", .str "v1")] = m
  have hlength : m.length = 4 := by rw [← hm]; rfl
  have hkind : textOf m "kind" = some "bundle-local-alias" := by rw [← hm]; rfl
  have hversion : textOf m "version" = some "v1" := by rw [← hm]; rfl
  have hname : textOf m "namespace" = some (aliasNamespace path) := by rw [← hm]; rfl
  have halias : textOf m "alias" = some digest := by rw [← hm]; rfl
  have hvalid : validateAlias m = .ok () := by
    rw [validateAlias, rejectIf_ok]
    simp [hlength, hversion, hname, halias, hhash, List.contains_iff_mem.mp hknown]
  have hplace : projectedPlaceholder path m = projectedPlaceholder path [("alias", .str digest)] := by
    unfold projectedPlaceholder
    rw [halias]
    rfl
  rw [projectedSourceShape, if_neg (by simp [isPrivateCommitment, hlength]), if_pos (by simp [isAlias, hkind]),
    hvalid, hname, rejectIf, if_neg (by simp), hplace]
  rfl

/-! ## 3. Values -/

theorem lookup_projectMembers (key : String) : ∀ members : List (String × Json),
    (projectMembers env aliasKey path members).lookup key =
      (members.lookup key).map (projectValue env aliasKey (key :: path)) := by
  intro members
  induction members with
  | nil => rfl
  | cons p rest ih =>
      obtain ⟨k, v⟩ := p
      rw [projectMembers, lookup_cons_ite, lookup_cons_ite, ih]
      by_cases h : key = k
      · simp [h]
      · simp [h]

/-- A text that is projected to a text is kept. -/
theorem asStr_projectValue {v : Json} {text : String}
    (h : (projectValue env aliasKey path v).asStr = some text) :
    retainedProjectionString env.rfc3339 path text = true := by
  cases v with
  | str s =>
      by_cases hkept : retainedProjectionString env.rfc3339 path s = true
      · rw [projectValue, if_pos hkept] at h
        rw [← Option.some.inj h]
        exact hkept
      · rw [projectValue, if_neg hkept, aliasValue_eq] at h
        cases h
  | obj members =>
      rw [projectValue] at h
      split at h <;> cases h
  | _ => cases h

theorem textOf_projectMembers {members : List (String × Json)} {key text : String}
    (h : textOf (projectMembers env aliasKey path members) key = some text) :
    retainedProjectionString env.rfc3339 (key :: path) text = true := by
  obtain ⟨w, hw, htext⟩ := Option.bind_eq_some_iff.mp h
  rw [lookup_projectMembers] at hw
  obtain ⟨v, _, rfl⟩ := Option.map_eq_some_iff.mp hw
  exact asStr_projectValue htext

/-- No kind that is kept is the one of an alias or of a commitment. -/
theorem kind_retained {text : String} (h : retainedProjectionString env.rfc3339 ("kind" :: path) text = true) :
    text ≠ "bundle-local-alias" ∧ text ≠ "task-field-commitment" := by
  have e : retainedProjectionString env.rfc3339 ("kind" :: path) text =
      (if below ("kind" :: path) ["waiting_on"] then
        ["input", "approval", "resource", "provider", "validation"].contains text
      else below ("kind" :: path) ["actor", "principal"] && actorKinds.contains text) := rfl
  rw [e] at h
  split at h
  · refine ⟨?_, ?_⟩ <;> rintro rfl <;> revert h <;> decide
  · have h := (Bool.and_eq_true_iff.mp h).2
    refine ⟨?_, ?_⟩ <;> rintro rfl <;> revert h <;> decide

theorem length_projectElements : ∀ values : List Json,
    (projectElements env aliasKey path values).length = values.length
  | [] => rfl
  | _ :: rest => congrArg (· + 1) (length_projectElements rest)

theorem keys_projectMembers : ∀ members : List (String × Json),
    (projectMembers env aliasKey path members).map Prod.fst = members.map Prod.fst
  | [] => rfl
  | (_, _) :: rest => congrArg (_ :: ·) (keys_projectMembers rest)

/-- A projected object is no alias and no commitment. -/
theorem projectMembers_plain (members : List (String × Json)) :
    isAlias (projectMembers env aliasKey path members) = false ∧
      isPrivateCommitment (projectMembers env aliasKey path members) = false := by
  have hkind : ∀ {text}, textOf (projectMembers env aliasKey path members) "kind" = some text →
      text ≠ "bundle-local-alias" ∧ text ≠ "task-field-commitment" := fun h =>
    kind_retained (textOf_projectMembers h)
  constructor
  · exact decide_eq_false fun h => (hkind h).1 rfl
  · have hnot : ¬textOf (projectMembers env aliasKey path members) "kind" = some "task-field-commitment" :=
      fun h => (hkind h).2 rfl
    simp [isPrivateCommitment, hnot]

mutual

theorem read_value : ∀ (depth : Nat) (path : List String) (v : Json), withinShapeBoundsAt depth v = true →
    projectedSourceShape env path (projectValue env aliasKey path v) = shown env aliasKey path v
  | _, _, .null, _ => rfl
  | _, _, .bool _, _ => rfl
  | _, _, .num _, _ => rfl
  | _, path, .str text, _ => by
      by_cases hkept : retainedProjectionString env.rfc3339 path text = true
      · rw [projectValue, if_pos hkept, projectedSourceShape, if_pos hkept, shown, if_pos hkept]
      · rw [projectValue, if_neg hkept, aliasValue_eq, shown, if_neg hkept]
        exact read_alias (validHash_tagged ..)
  | depth, path, .arr values, h => by
      simp only [withinShapeBoundsAt, Bool.and_eq_true, decide_eq_true_eq] at h
      have hbound : ¬maxArrayItems < (projectElements env aliasKey path values).length := by
        rw [length_projectElements]
        exact Nat.not_lt.mpr h.1.2
      have hpassed : rejectIf (decide (maxArrayItems < (projectElements env aliasKey path values).length))
          (Error.invalidRecord "projected array exceeds bounds") = .ok () := rejectIf_ok.mpr (decide_eq_false hbound)
      rw [projectValue, projectedSourceShape, shown, read_elements (depth + 1) path values h.2, hpassed]
      rfl
  | depth, path, .obj members, h => by
      by_cases hcommitment : isPrivateCommitment members = true
      · rw [projectValue, if_pos hcommitment, projectedSourceShape, if_pos hcommitment, shown, if_pos hcommitment]
      · simp only [withinShapeBoundsAt, Bool.and_eq_true, decide_eq_true_eq] at h
        have hread := read_members (depth + 1) path members h.2
        obtain ⟨halias, hplain⟩ := @projectMembers_plain env aliasKey path members
        have hkeys := @keys_projectMembers env aliasKey path members
        rw [projectValue, if_neg hcommitment]
        generalize projectMembers env aliasKey path members = projected at hread halias hplain hkeys ⊢
        have hlength : projected.length = members.length := by simpa using congrArg List.length hkeys
        have hnames : (projected.any fun m => journalKeys.contains m.1) =
            members.any fun m => journalKeys.contains m.1 := by
          have hany := congrArg (List.any · journalKeys.contains) hkeys
          rw [List.any_map, List.any_map] at hany
          exact hany
        rw [projectedSourceShape, if_neg (by simp [hplain]), if_neg (by simp [halias]), shown, if_neg hcommitment,
          hread, hnames, hlength, decide_eq_false (Nat.not_lt.mpr h.1.2), Bool.false_or]

theorem read_elements : ∀ (depth : Nat) (path : List String) (values : List Json),
    elementsWithinBounds depth values = true →
    shapeElements env path (projectElements env aliasKey path values) = shownElements env aliasKey path values
  | _, _, [], _ => rfl
  | depth, path, v :: rest, h => by
      obtain ⟨hv, hrest⟩ := Bool.and_eq_true_iff.mp h
      rw [projectElements, shapeElements, shownElements, read_value depth path v hv,
        read_elements depth path rest hrest]

theorem read_members : ∀ (depth : Nat) (path : List String) (members : List (String × Json)),
    membersWithinBounds depth members = true →
    shapeMembers env path (projectMembers env aliasKey path members) = shownMembers env aliasKey path members
  | _, _, [], _ => rfl
  | depth, path, (key, v) :: rest, h => by
      obtain ⟨hv, hrest⟩ := Bool.and_eq_true_iff.mp h
      rw [projectMembers, shapeMembers, shownMembers, read_value depth (key :: path) v
        (Bool.and_eq_true_iff.mp hv).2, read_members depth path rest hrest]

end

/-- **What the exporter writes, the verifier reads**: over every projected event its walk refuses no text,
    no alias and no bound, and gives back what is shown of the source. -/
theorem projection_read_back (env : JournalEnv) (aliasKey : List UInt8) (event : Json) :
    (projectEvent env aliasKey event >>= projectedSourceShape env []) =
      (validateStoredEvent env event >>= fun _ => shown env aliasKey [] event) := by
  unfold projectEvent
  cases hvalid : validateStoredEvent env event with
  | error e => rfl
  | ok u =>
      have hbounds : withinShapeBounds event = true := by
        unfold validateStoredEvent at hvalid
        rw [bind_eq_ok'] at hvalid
        obtain ⟨_, _, hvalid⟩ := hvalid
        exact (validateEvent_ok env hvalid).2.1
      exact read_value 1 [] event hbounds

end Aios.Provenance
