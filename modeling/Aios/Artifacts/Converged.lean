/-
  File:      Aios/Artifacts/Converged.lean
  Subject:   WHAT AN INTERRUPTED SEAL COMES TO: every state a crash leaves is resolved to the one seal of
             the bytes, at startup and by a retry alike.

  * `SliceReader.Rfc8259` -- what is relied on of the parser library;
  * `SealFiles.Part` -- each of the two names is absent or holds a first part of the seal of the bytes;
  * `Left` -- what any number of crashes, in writers and in resolvers, can leave;
  * `Careful` -- operations at every point of which the names remain such parts;
  * `SealRecovery` -- the laws of recovery.
-/
import Aios.Artifacts.Fencing
import Aios.Artifacts.Seal
import Aios.Lib.Except
import Aios.Lib.JsonLexemes

namespace Aios.Artifacts

open Lib JsonText Tasks

/-! ## 1. The parser library -/

namespace SliceReader

variable (reader : SliceReader)

def decoded (q : Quoted) : String := (reader.string q.text).getD ""

def numberOf (n : JsonNumber) : Number := (reader.number n.text).getD (.posInt 0)

def recursionLimit : Nat := 127

/-- A document of the grammar that the library reads. -/
structure Readable (d : Document) : Prop where
  spaced : d.Spaced isSpace
  strings : d.value.Strings fun q => (reader.string q.text).isSome = true
  nesting : d.value.nesting ≤ recursionLimit
  numbers : ∀ p ∈ d.value.numbers (fun _ => false) false, (reader.number p.2.text).isSome = true

/-- The library reads what it can read, and takes a text that stops inside of a document for one that
    comes to its end too early. (A number may be out of range only where it stops, so the numbers of the
    document are 64-bit ones.) -/
structure Rfc8259 : Prop where
  reads : ∀ d : Document, reader.Readable d →
    reader.fromSlice d.text = .value (d.value.json reader.numberOf reader.decoded)
  stops : ∀ d : Document, reader.Readable d →
    (∀ p ∈ d.value.numbers (fun _ => false) false, ∃ n < 2 ^ 64, p.2 = .ofNat n) →
    ∀ part, part <+: d.text → (∀ e : Document, reader.Readable e → e.text ≠ part) → reader.fromSlice part = .eof
  /-- What the writer of the library quotes, its reader decodes. -/
  quoted : ∀ s, reader.string (quote s).text = some s
  /-- A 64-bit number is read as it is written. -/
  natural : ∀ n < 2 ^ 64, reader.number (decimal n) = some (.posInt n)

end SliceReader

/-! ## 2. The text of a seal -/

section Text

variable {reader : SliceReader} (rfc : reader.Rfc8259) {sealed : SealedStaging}
include rfc

theorem decoded_quote (s : String) : reader.decoded (quote s) = s := by
  unfold SliceReader.decoded
  rw [rfc.quoted]
  rfl

theorem numberOf_ofNat {n : Nat} (h : n < 2 ^ 64) : reader.numberOf (.ofNat n) = .posInt n := by
  unfold SliceReader.numberOf
  rw [JsonNumber.text_ofNat, rfc.natural n h]
  rfl

omit rfc in
theorem numbers_seal {p : Bool × JsonNumber} (hp : p ∈ sealed.value.numbers (fun _ => false) false) :
    p = (false, .ofNat sealed.version) ∨ p = (false, .ofNat sealed.sizeBytes) := by
  simpa [SealedStaging.value, compactObject, compactFields, Value.numbers, Fields.numbers] using hp

theorem readable_seal (hversion : sealed.version < 2 ^ 8) (hsize : sealed.sizeBytes < 2 ^ 64) :
    reader.Readable (bare sealed.value) where
  spaced := by
    refine ⟨gap_nil, spaced_compactFields _ _ ?_, gap_nil⟩
    intro m hm
    simp only [List.mem_cons, List.not_mem_nil, or_false] at hm
    obtain rfl | rfl | rfl | rfl := hm <;> exact trivial
  strings := by
    have hquoted : ∀ s, (reader.string (quote s).text).isSome = true := fun s => by rw [rfc.quoted]; rfl
    refine strings_compactFields _ _ ?_
    intro m hm
    simp only [List.mem_cons, List.not_mem_nil, or_false] at hm
    obtain rfl | rfl | rfl | rfl := hm
    · exact ⟨hquoted _, trivial⟩
    · exact ⟨hquoted _, hquoted _⟩
    · exact ⟨hquoted _, trivial⟩
    · exact ⟨hquoted _, hquoted _⟩
  nesting := by
    show max 0 (max 0 (max 0 0)) + 1 ≤ 127
    decide
  numbers := by
    intro p hp
    obtain rfl | rfl := numbers_seal hp
    · rw [JsonNumber.text_ofNat, rfc.natural _ (by omega)]
      rfl
    · rw [JsonNumber.text_ofNat, rfc.natural _ hsize]
      rfl

/-- The members of the value that is read back. -/
theorem json_seal (hversion : sealed.version < 2 ^ 8) (hsize : sealed.sizeBytes < 2 ^ 64) :
    sealed.value.json reader.numberOf reader.decoded = .obj (
      Json.insertMember "content_hash" (.str sealed.contentHash) (
      Json.insertMember "size_bytes" (.num (.posInt sealed.sizeBytes)) (
      Json.insertMember "allocation_id" (.str sealed.allocationId) (
      Json.insertMember "version" (.num (.posInt sealed.version)) [])))) := by
  unfold SealedStaging.value compactObject
  rw [Value.json, insertInto_compactFields]
  simp only [List.foldl_cons, List.foldl_nil, decoded_quote rfc, Value.json,
    numberOf_ofNat rfc (Nat.lt_trans hversion (by decide)), numberOf_ofNat rfc hsize]

/-- **A seal is read back as it was written.** -/
theorem ofJson_seal (hversion : sealed.version < 2 ^ 8) (hsize : sealed.sizeBytes < 2 ^ 64) :
    SealedStaging.ofJson (sealed.value.json reader.numberOf reader.decoded) = some sealed := by
  rw [json_seal rfc hversion hsize]
  generalize hmembers : Json.insertMember "content_hash" (.str sealed.contentHash) (
      Json.insertMember "size_bytes" (.num (.posInt sealed.sizeBytes)) (
      Json.insertMember "allocation_id" (.str sealed.allocationId) (
      Json.insertMember "version" (.num (.posInt sealed.version)) []))) = members
  have hknown : members.all (fun m => sealFieldNames.contains m.1) = true := by
    rw [List.all_eq_true]
    intro m hm
    rw [← hmembers] at hm
    rcases Json.mem_insertMember hm with rfl | hm
    · rfl
    rcases Json.mem_insertMember hm with rfl | hm
    · rfl
    rcases Json.mem_insertMember hm with rfl | hm
    · rfl
    rcases Json.mem_insertMember hm with rfl | hm
    · rfl
    · cases hm
  have hv : members.lookup "version" = some (.num (.posInt sealed.version)) := by
    rw [← hmembers]
    simp [Json.lookup_insertMember]
  have ha : members.lookup "allocation_id" = some (.str sealed.allocationId) := by
    rw [← hmembers]
    simp [Json.lookup_insertMember]
  have hs : members.lookup "size_bytes" = some (.num (.posInt sealed.sizeBytes)) := by
    rw [← hmembers]
    simp [Json.lookup_insertMember]
  have hh : members.lookup "content_hash" = some (.str sealed.contentHash) := by
    rw [← hmembers]
    simp [Json.lookup_insertMember]
  unfold SealedStaging.ofJson
  simp only [hknown, hv, ha, hs, hh, Option.bind_some, asUnsigned, if_pos hversion, if_pos hsize, Json.asStr]
  rfl

/-- **What a crash leaves of the text of a seal is taken for a truncated one.** -/
theorem fromSlice_torn (hversion : sealed.version < 2 ^ 8) (hsize : sealed.sizeBytes < 2 ^ 64) {part : Bytes}
    (hpart : part <+: sealed.text) (htorn : part ≠ sealed.text) : reader.fromSlice part = .eof := by
  have hread := readable_seal rfc hversion hsize
  have htext : (bare sealed.value).text = sealed.text := text_bare _
  refine rfc.stops _ hread ?_ part (htext ▸ hpart) ?_
  · intro p hp
    obtain rfl | rfl := numbers_seal hp
    · exact ⟨_, Nat.lt_trans hversion (by decide), rfl⟩
    · exact ⟨_, hsize, rfl⟩
  · intro d hd heq
    refine htorn (heq ▸ torn_no_document ?_ (hd.spaced.mono separates_of_isSpace) (heq ▸ hpart))
    exact (hread.spaced.mono separates_of_isSpace).2.1

theorem fromSlice_seal (hversion : sealed.version < 2 ^ 8) (hsize : sealed.sizeBytes < 2 ^ 64) :
    reader.fromSlice sealed.text = .value (sealed.value.json reader.numberOf reader.decoded) := by
  have h := rfc.reads _ (readable_seal rfc hversion hsize)
  rwa [text_bare] at h

end Text

/-! ## 3. The length of a seal -/

theorem length_decimal_le_twenty {n : Nat} (h : n < 2 ^ 64) : (decimal n).length ≤ 20 := by
  rw [decimal, List.length_map]
  exact (Nat.length_toDigits_le_iff (by decide) (by decide)).mpr (Nat.lt_trans h (by decide))

theorem length_tagged (d : Digest) (domain payload : Bytes) : (d.tagged domain payload).length = 71 := by
  obtain ⟨digits, htext, hlength, _⟩ := d.tagged_toList domain payload
  rw [← String.length_toList, htext, List.length_append, hlength]
  rfl

/-- The seals that `finish` and the resolvers write are short enough to be read. -/
theorem length_seal {sealed : SealedStaging} (hversion : sealed.version < 2 ^ 8) (hsize : sealed.sizeBytes < 2 ^ 64)
    (hid : sealed.allocationId.length ≤ 256) (hhash : sealed.contentHash.length = 71) :
    sealed.text.length ≤ sealLimit := by
  have hallocation := length_quote_le_chars sealed.allocationId
  have hcontent := length_quote_le_chars sealed.contentHash
  have hv := length_decimal_le_twenty (Nat.lt_trans hversion (by decide))
  have hs := length_decimal_le_twenty hsize
  have hnames : (quote "version").text.length = 9 ∧ (quote "allocation_id").text.length = 15 ∧
      (quote "size_bytes").text.length = 12 ∧ (quote "content_hash").text.length = 14 := by
    decide
  obtain ⟨h1, h2, h3, h4⟩ := hnames
  unfold SealedStaging.text SealedStaging.value compactObject sealLimit
  simp only [compactFields, Value.text, Fields.text, List.length_cons, List.length_append, List.length_nil,
    JsonNumber.text_ofNat, h1, h2, h3, h4]
  omega

/-! ## 4. Evidence -/

/-- A file that is not too long is what the parser says of it. -/
theorem read_short (reader : SliceReader) {text : Bytes} (h : text.length ≤ sealLimit) :
    readStagingSealEvidence reader (some text) = match reader.fromSlice text with
      | .eof => .ok .truncated
      | .malformed => .error hashMismatch
      | .value v => (expect (SealedStaging.ofJson v) hashMismatch).map .complete := by
  have htake : text.take (sealLimit + 1) = text := List.take_of_length_le (Nat.le_succ_of_le h)
  have hlimit : rejectIf (decide (sealLimit < text.length)) hashMismatch = .ok () :=
    rejectIf_ok.mpr (decide_eq_false (Nat.not_lt_of_le h))
  unfold readStagingSealEvidence
  simp only [htake, hlimit]
  rfl

section Evidence

variable {reader : SliceReader} (rfc : reader.Rfc8259) {sealed : SealedStaging}
  (hversion : sealed.version < 2 ^ 8) (hsize : sealed.sizeBytes < 2 ^ 64) (hlength : sealed.text.length ≤ sealLimit)
include rfc hversion hsize hlength

theorem read_torn {part : Bytes} (hpart : part <+: sealed.text) (htorn : part ≠ sealed.text) :
    readStagingSealEvidence reader (some part) = .ok .truncated := by
  rw [read_short reader (Nat.le_trans hpart.length_le hlength), fromSlice_torn rfc hversion hsize hpart htorn]

theorem read_whole : readStagingSealEvidence reader (some sealed.text) = .ok (.complete sealed) := by
  rw [read_short reader hlength, fromSlice_seal rfc hversion hsize]
  simp only [ofJson_seal rfc hversion hsize]
  rfl

end Evidence

/-! ## 5. Parts of a seal -/

/-- There is no file, or it holds a first part of the text. -/
def PartOf (text : Bytes) : Option Bytes → Prop
  | none => True
  | some content => content <+: text

structure SealFiles.Part (text : Bytes) (files : SealFiles) : Prop where
  pending : PartOf text files.pending
  sealed : PartOf text files.sealed

def SealPrimitive.writes : SealPrimitive → Bool
  | .write _ => true
  | _ => false

section Parts

variable {text : Bytes} {files files' last : SealFiles}

/-- Only a write can make a file something else. -/
theorem SealFiles.Part.apply {p : SealPrimitive} (h : files.Part text) (hp : p.writes = false)
    (happly : p.apply files = some files') : files'.Part text := by
  obtain ⟨pending, sealed⟩ := files
  obtain ⟨hpending, hsealed⟩ := h
  cases p with
  | write bytes => cases hp
  | createPending unsealed =>
      simp only [SealPrimitive.apply] at happly
      split at happly
      · cases happly
      · cases happly
        exact ⟨List.nil_prefix, hsealed⟩
  | rename =>
      obtain ⟨content, rfl, rfl⟩ := Option.map_eq_some_iff.mp happly
      exact ⟨trivial, hpending⟩
  | removePending =>
      obtain ⟨content, rfl, rfl⟩ := Option.map_eq_some_iff.mp happly
      exact ⟨trivial, hsealed⟩
  | removeFinal =>
      obtain ⟨content, rfl, rfl⟩ := Option.map_eq_some_iff.mp happly
      exact ⟨hpending, trivial⟩
  | permissions | flush | syncFile | syncDirectory =>
      cases happly
      exact ⟨hpending, hsealed⟩

theorem Interrupted.cases {p : SealPrimitive} {ops : List SealPrimitive} (h : Interrupted (p :: ops) files last) :
    last = files ∨
    (∃ bytes part, p = .write bytes ∧ part <+: bytes ∧
      last = { files with pending := files.pending.map fun content => content ++ part }) ∨
    ∃ files', p.apply files = some files' ∧ Interrupted ops files' last := by
  cases h with
  | stopped => exact .inl rfl
  | torn hpart => exact .inr (.inl ⟨_, _, rfl, hpart, rfl⟩)
  | later happly h => exact .inr (.inr ⟨_, happly, h⟩)

/-- Operations at every point of which the names hold parts of the text. -/
def Careful (text : Bytes) (ops : List SealPrimitive) (files : SealFiles) : Prop :=
  ∀ last, Interrupted ops files last → last.Part text

theorem careful_nil (h : files.Part text) : Careful text [] files := by
  intro last hlast
  cases hlast
  exact h

/-- An operation that is not a write, before careful ones. -/
theorem careful_cons {p : SealPrimitive} {ops : List SealPrimitive} (h : files.Part text) (hp : p.writes = false)
    (hops : ∀ files', p.apply files = some files' → Careful text ops files') : Careful text (p :: ops) files := by
  intro last hlast
  obtain rfl | ⟨bytes, part, rfl, _⟩ | ⟨files', happly, hrest⟩ := hlast.cases
  · exact h
  · cases hp
  · exact hops files' happly last hrest

theorem careful_append {first ops : List SealPrimitive} (h : files.Part text) (hfirst : ∀ p ∈ first, p.writes = false)
    (hops : ∀ files', files'.Part text → Careful text ops files') : Careful text (first ++ ops) files := by
  induction first generalizing files with
  | nil => exact hops files h
  | cons p first ih =>
      refine careful_cons h (hfirst p List.mem_cons_self) fun files' happly => ?_
      exact ih (h.apply (hfirst p List.mem_cons_self) happly) fun q hq => hfirst q (List.mem_cons_of_mem _ hq)

theorem careful_of_no_write {ops : List SealPrimitive} (h : files.Part text) (hops : ∀ p ∈ ops, p.writes = false) :
    Careful text ops files := by
  have hcareful := careful_append h hops fun files' h' => careful_nil h'
  rwa [List.append_nil] at hcareful

/-- The chunks of a text, each after those before it. -/
theorem careful_writes {chunks : List Bytes} {ops : List SealPrimitive} {content : Bytes}
    (hsealed : PartOf text files.sealed) (hpending : files.pending = some content)
    (hchunks : content ++ chunks.flatten <+: text) (hops : ∀ p ∈ ops, p.writes = false) :
    Careful text (chunks.map .write ++ ops) files := by
  have hpart : ∀ {before : Bytes}, before <+: content ++ chunks.flatten →
      SealFiles.Part text ⟨some before, files.sealed⟩ := fun hbefore => ⟨hbefore.trans hchunks, hsealed⟩
  obtain ⟨pending, sealed⟩ := files
  cases hpending
  induction chunks generalizing content with
  | nil => exact careful_of_no_write (hpart (List.prefix_append _ _)) hops
  | cons chunk chunks ih =>
      intro last hlast
      obtain rfl | ⟨bytes, part, hwrite, htorn, rfl⟩ | ⟨files', happly, hrest⟩ := hlast.cases
      · exact hpart (List.prefix_append _ _)
      · cases hwrite
        refine hpart ?_
        rw [List.prefix_append_right_inj]
        exact htorn.trans (List.prefix_append _ _)
      · cases happly
        have hflat : content ++ chunk ++ chunks.flatten = content ++ (chunk :: chunks).flatten := by
          rw [List.flatten_cons, List.append_assoc]
        have hnext : content ++ chunk ++ chunks.flatten <+: text := by
          rw [hflat]
          exact hchunks
        refine ih hnext hsealed ?_ last hrest
        intro before hbefore
        rw [hflat] at hbefore
        exact hpart hbefore

/-- A seal is written carefully, wherever its writer starts from. -/
theorem careful_write (unsealed : Bool) {chunks : List Bytes} {ops : List SealPrimitive} (h : files.Part text)
    (hchunks : chunks.flatten = text) (hops : ∀ p ∈ ops, p.writes = false) :
    Careful text (.createPending unsealed :: .permissions :: (chunks.map .write ++ ops)) files := by
  refine careful_cons h rfl fun files' happly => ?_
  have h' := h.apply rfl happly
  refine careful_cons h' rfl fun files'' hpermissions => ?_
  cases hpermissions
  simp only [SealPrimitive.apply] at happly
  split at happly
  · cases happly
  · cases happly
    exact careful_writes h'.sealed rfl (hchunks ▸ List.prefix_rfl) hops

end Parts

/-! ## 6. The resolvers -/

def StagingEnv.sealText (env : StagingEnv) (bytes : Bytes) : Bytes := (env.sealOf bytes).text

/-- What any number of crashes leave, in writers of the seal and in resolvers, while the staging file
    holds these bytes. -/
inductive Left (env : StagingEnv) (reader : SliceReader) (bytes : Bytes) : SealFiles → Prop where
  | unsealed : Left env reader bytes ⟨none, none⟩
  | writer {files last : SealFiles} {chunks : List Bytes} (h : Left env reader bytes files)
      (hchunks : chunks.flatten = env.sealText bytes) (hcrash : Interrupted (writeStagingSealLive chunks) files last) :
      Left env reader bytes last
  | startup {files last : SealFiles} {ops : List SealPrimitive} (h : Left env reader bytes files)
      (hplan : reconcileInterruptedStagingSeal env reader bytes files = .ok ops)
      (hcrash : Interrupted ops files last) : Left env reader bytes last
  | retry {files last : SealFiles} {chunks : List Bytes} {ops : List SealPrimitive}
      (h : Left env reader bytes files) (hchunks : chunks.flatten = env.sealText bytes)
      (hplan : retryStagingSeal env reader bytes chunks files = .ok ops)
      (hcrash : Interrupted ops files last) : Left env reader bytes last

/-- A plan that writes nothing, or that writes the seal after what writes nothing. -/
def Plan (write ops : List SealPrimitive) : Prop :=
  (∀ p ∈ ops, p.writes = false) ∨ ∃ first, (∀ p ∈ first, p.writes = false) ∧ ops = first ++ write

section Plans

variable {env : StagingEnv} {pending final : StagingSealEvidence} {sizeBytes : Nat} {contentHash : String}
  {chunks : List Bytes} {ops : List SealPrimitive}

theorem removeTruncated_writes : ∀ p ∈ removeTruncated pending final, p.writes = false := by
  unfold removeTruncated
  repeat' split
  all_goals decide

theorem plan_removed {synced : List SealPrimitive} (hsynced : ∀ p ∈ synced, p.writes = false)
    (write : List SealPrimitive) : Plan write (removeTruncated pending final ++ synced ++ write) := by
  refine .inr ⟨_, ?_, rfl⟩
  intro p hp
  obtain hremoved | hsync := List.mem_append.mp hp
  · exact removeTruncated_writes p hremoved
  · exact hsynced p hsync

theorem resolve_plan {reconstruct : Bool}
    (h : resolveStagingSealEvidence env pending final sizeBytes contentHash reconstruct = .ok ops) :
    Plan (writeStagingSealAtomically (resolvedSeal env sizeBytes contentHash).text) ops := by
  unfold resolveStagingSealEvidence at h
  obtain ⟨_, -, hsecond⟩ := bind_eq_ok.mp h
  obtain ⟨_, -, hplan⟩ := bind_eq_ok.mp hsecond
  clear h hsecond
  dsimp only at hplan
  repeat' split at hplan
  all_goals cases hplan
  all_goals first
    | exact .inl (by decide)
    | exact plan_removed (by decide) _

theorem resolve_live_plan
    (h : resolveStagingSealEvidenceLive env pending final sizeBytes contentHash chunks = .ok ops) :
    Plan (writeStagingSealLive chunks) ops := by
  unfold resolveStagingSealEvidenceLive at h
  obtain ⟨_, -, hsecond⟩ := bind_eq_ok.mp h
  obtain ⟨_, -, hplan⟩ := bind_eq_ok.mp hsecond
  clear h hsecond
  repeat' split at hplan
  all_goals cases hplan
  all_goals first
    | exact .inl (by decide)
    | exact plan_removed (by decide) _

end Plans

section Resolvers

variable {env : StagingEnv} {reader : SliceReader} {bytes : Bytes} {files : SealFiles} {chunks : List Bytes}

/-- No operation of startup leaves more than a part of the seal. -/
theorem reconcile_careful {ops : List SealPrimitive} (h : files.Part (env.sealText bytes))
    (hplan : reconcileInterruptedStagingSeal env reader bytes files = .ok ops) :
    Careful (env.sealText bytes) ops files := by
  obtain ⟨pending, _, hrest⟩ := bind_eq_ok.mp hplan
  obtain ⟨final, _, hresolve⟩ := bind_eq_ok.mp hrest
  split at hresolve
  · cases hresolve
    exact careful_nil h
  · obtain hnone | ⟨first, hfirst, rfl⟩ := resolve_plan hresolve
    · exact careful_of_no_write h hnone
    · have hwhole : [env.sealText bytes].flatten = env.sealText bytes := List.append_nil _
      refine careful_append h hfirst fun files' h' => ?_
      exact careful_write false h' hwhole (by decide)

theorem retry_careful {ops : List SealPrimitive} (h : files.Part (env.sealText bytes))
    (hchunks : chunks.flatten = env.sealText bytes)
    (hplan : retryStagingSeal env reader bytes chunks files = .ok ops) :
    Careful (env.sealText bytes) ops files := by
  obtain ⟨pending, _, hrest⟩ := bind_eq_ok.mp hplan
  obtain ⟨final, _, hresolve⟩ := bind_eq_ok.mp hrest
  obtain ⟨planned, hlive, hops⟩ := bind_eq_ok.mp hresolve
  cases hops
  refine careful_append h ?_ fun files' h' => ?_
  · split <;> decide
  · obtain hnone | ⟨first, hfirst, rfl⟩ := resolve_live_plan hlive
    · exact careful_of_no_write h' hnone
    · refine careful_append h' hfirst fun files'' h'' => ?_
      exact careful_write true h'' hchunks (by decide)

/-- **A crash leaves each name absent or with a first part of the seal.** -/
theorem Left.part (h : Left env reader bytes files) : files.Part (env.sealText bytes) := by
  induction h with
  | unsealed => exact ⟨trivial, trivial⟩
  | writer _ hchunks hcrash ih => exact careful_write true ih hchunks (by decide) _ hcrash
  | startup _ hplan hcrash ih => exact reconcile_careful ih hplan _ hcrash
  | retry _ hchunks hplan hcrash ih => exact retry_careful ih hchunks hplan _ hcrash

theorem version_seal : (env.sealOf bytes).version < 2 ^ 8 := by
  show sealedStagingVersion < 2 ^ 8
  decide

theorem validate_own : validateEvidence env.allocationId (env.hashReader bytes).1 (env.hashReader bytes).2
    (.complete (env.sealOf bytes)) = .ok () := by
  refine rejectIf_ok.mpr ?_
  simp [StagingEnv.sealOf]

/-- The chunks are appended one after the other. -/
theorem runSeal_writes {ops : List SealPrimitive} (content : Bytes) (sealed : Option Bytes) :
    runSeal (chunks.map .write ++ ops) ⟨some content, sealed⟩ =
      runSeal ops ⟨some (content ++ chunks.flatten), sealed⟩ := by
  induction chunks generalizing content with
  | nil => rw [List.flatten_nil, List.append_nil, List.map_nil, List.nil_append]
  | cons chunk chunks ih =>
      rw [List.flatten_cons, ← List.append_assoc]
      exact ih (content ++ chunk)

theorem runSeal_live (hchunks : chunks.flatten = env.sealText bytes) :
    runSeal (writeStagingSealLive chunks) ⟨none, none⟩ = (⟨none, some (env.sealText bytes)⟩, .ok ()) := by
  have hwrites : runSeal (writeStagingSealLive chunks) ⟨none, none⟩ =
      runSeal [.flush, .syncFile, .syncDirectory, .rename, .syncDirectory] ⟨some ([] ++ chunks.flatten), none⟩ :=
    runSeal_writes [] none
  rw [List.nil_append, hchunks] at hwrites
  exact hwrites

variable (rfc : reader.Rfc8259) (hid : env.allocationId.length ≤ 256) (hbytes : bytes.length < 2 ^ 64)

include rfc hid hbytes

/-- What the evidence of a part of the seal is. -/
theorem read_part {name : Option Bytes} (h : PartOf (env.sealText bytes) name) :
    (name = none ∧ readStagingSealEvidence reader name = .ok .absent) ∨
    (∃ part, name = some part ∧ readStagingSealEvidence reader name = .ok .truncated) ∨
    (name = some (env.sealText bytes) ∧
      readStagingSealEvidence reader name = .ok (.complete (env.sealOf bytes))) := by
  have hlength : (env.sealOf bytes).text.length ≤ sealLimit :=
    length_seal version_seal hbytes hid (length_tagged _ _ _)
  cases name with
  | none => exact .inl ⟨rfl, rfl⟩
  | some part =>
      by_cases hwhole : part = env.sealText bytes
      · subst hwhole
        exact .inr (.inr ⟨rfl, read_whole rfc version_seal hbytes hlength⟩)
      · exact .inr (.inl ⟨part, rfl, read_torn rfc version_seal hbytes hlength h hwhole⟩)

/-- **Startup leaves no seal, or the one seal of the bytes.** -/
theorem reconcile_part (h : files.Part (env.sealText bytes)) :
    resolved (reconcileInterruptedStagingSeal env reader bytes files) files =
      (if files = ⟨none, none⟩ then files else ⟨none, some (env.sealText bytes)⟩, .ok ()) := by
  have hown : validateEvidence env.allocationId (env.hashReader bytes).1 (env.hashReader bytes).2
      (.complete (env.sealOf bytes)) = .ok () := validate_own
  obtain ⟨pending, sealed⟩ := files
  obtain ⟨hp, hf⟩ := h
  obtain ⟨rfl, hpending⟩ | ⟨p, rfl, hpending⟩ | ⟨rfl, hpending⟩ := read_part rfc hid hbytes hp <;>
    obtain ⟨rfl, hfinal⟩ | ⟨f, rfl, hfinal⟩ | ⟨rfl, hfinal⟩ := read_part rfc hid hbytes hf
  all_goals
    unfold reconcileInterruptedStagingSeal resolveStagingSealEvidence
    simp only [hpending, hfinal, hown, ok_bind]
    rfl

/-- **A retry leaves the one seal of the bytes.** -/
theorem retry_part (h : files.Part (env.sealText bytes)) (hchunks : chunks.flatten = env.sealText bytes) :
    resolved (retryStagingSeal env reader bytes chunks files) files =
      (⟨none, some (env.sealText bytes)⟩, .ok ()) := by
  have hown : validateEvidence env.allocationId (env.hashReader bytes).1 (env.hashReader bytes).2
      (.complete (env.sealOf bytes)) = .ok () := validate_own
  have hlive := runSeal_live hchunks
  obtain ⟨pending, sealed⟩ := files
  obtain ⟨hp, hf⟩ := h
  obtain ⟨rfl, hpending⟩ | ⟨p, rfl, hpending⟩ | ⟨rfl, hpending⟩ := read_part rfc hid hbytes hp <;>
    obtain ⟨rfl, hfinal⟩ | ⟨f, rfl, hfinal⟩ | ⟨rfl, hfinal⟩ := read_part rfc hid hbytes hf
  all_goals
    unfold retryStagingSeal resolveStagingSealEvidenceLive
    simp only [hpending, hfinal, hown, ok_bind]
    first
      | exact hlive
      | rfl

end Resolvers

/-! ## 7. Recovery -/

section Refusals

variable {env : StagingEnv} {reader : SliceReader} {bytes : Bytes} {files : SealFiles} {sealed : SealedStaging}

/-- The seal is of another allocation, or of other bytes. -/
def Differs (env : StagingEnv) (bytes : Bytes) (sealed : SealedStaging) : Prop :=
  sealed.allocationId ≠ env.allocationId ∨ sealed.sizeBytes ≠ bytes.length ∨
    sealed.contentHash ≠ (env.hashReader bytes).2

theorem validate_differs (h : Differs env bytes sealed) : validateEvidence env.allocationId
    (env.hashReader bytes).1 (env.hashReader bytes).2 (.complete sealed) = .error hashMismatch := by
  have hbad : (decide (sealed.version ≠ sealedStagingVersion) || decide (sealed.allocationId ≠ env.allocationId) ||
      decide (sealed.sizeBytes ≠ (env.hashReader bytes).1) ||
      decide (sealed.contentHash ≠ (env.hashReader bytes).2)) = true := by
    obtain hid | hsize | hhash := h
    · simp [hid]
    · simp [StagingEnv.hashReader, hsize]
    · simp [hhash]
  exact if_pos hbad

/-- A plan that both resolvers come to only when what they found is no other seal. -/
theorem refused_of_differs {plan : StagingSealEvidence → StagingSealEvidence → TaskResult (List SealPrimitive)}
    (hvalid : ∀ pending final ops, plan pending final = .ok ops →
      validateEvidence env.allocationId (env.hashReader bytes).1 (env.hashReader bytes).2 pending = .ok () ∧
      validateEvidence env.allocationId (env.hashReader bytes).1 (env.hashReader bytes).2 final = .ok ())
    (hfound : readStagingSealEvidence reader files.pending = .ok (.complete sealed) ∨
      readStagingSealEvidence reader files.sealed = .ok (.complete sealed))
    (h : Differs env bytes sealed) :
    ∃ e, (do
      let pending ← readStagingSealEvidence reader files.pending
      let final ← readStagingSealEvidence reader files.sealed
      plan pending final) = .error e := by
  cases hresult : (do
      let pending ← readStagingSealEvidence reader files.pending
      let final ← readStagingSealEvidence reader files.sealed
      plan pending final) with
  | error e => exact ⟨e, rfl⟩
  | ok ops =>
      obtain ⟨pending, hpending, hrest⟩ := bind_eq_ok.mp hresult
      obtain ⟨final, hfinal, hplan⟩ := bind_eq_ok.mp hrest
      obtain ⟨hp, hf⟩ := hvalid pending final ops hplan
      have hdiffers := validate_differs h
      obtain hfound | hfound := hfound
      · rw [hpending] at hfound
        cases hfound
        rw [hp] at hdiffers
        cases hdiffers
      · rw [hfinal] at hfound
        cases hfound
        rw [hf] at hdiffers
        cases hdiffers

theorem reconcile_refuses (hfound : readStagingSealEvidence reader files.pending = .ok (.complete sealed) ∨
      readStagingSealEvidence reader files.sealed = .ok (.complete sealed)) (h : Differs env bytes sealed) :
    ∃ e, reconcileInterruptedStagingSeal env reader bytes files = .error e := by
  refine refused_of_differs ?_ hfound h
  intro pending final ops hplan
  split at hplan
  · next habsent =>
    obtain ⟨rfl, rfl⟩ := habsent
    exact ⟨rfl, rfl⟩
  · obtain ⟨_, hp, hrest⟩ := bind_eq_ok.mp hplan
    obtain ⟨_, hf, _⟩ := bind_eq_ok.mp hrest
    exact ⟨hp, hf⟩

theorem retry_refuses (chunks : List Bytes)
    (hfound : readStagingSealEvidence reader files.pending = .ok (.complete sealed) ∨
      readStagingSealEvidence reader files.sealed = .ok (.complete sealed)) (h : Differs env bytes sealed) :
    ∃ e, retryStagingSeal env reader bytes chunks files = .error e := by
  refine refused_of_differs ?_ hfound h
  intro pending final ops hplan
  obtain ⟨planned, hlive, _⟩ := bind_eq_ok.mp hplan
  obtain ⟨_, hp, hrest⟩ := bind_eq_ok.mp hlive
  obtain ⟨_, hf, _⟩ := bind_eq_ok.mp hrest
  exact ⟨hp, hf⟩

end Refusals

/-- The laws of recovery, for the staging file with these bytes. -/
structure SealRecovery (env : StagingEnv) (reader : SliceReader) (bytes : Bytes) : Prop where
  /-- A part of the text of a seal is a truncated one, its whole text that seal. -/
  torn : ∀ sealed : SealedStaging, sealed.version < 2 ^ 8 → sealed.sizeBytes < 2 ^ 64 →
    sealed.allocationId.length ≤ 256 → sealed.contentHash.length = 71 →
    (∀ part, part <+: sealed.text → part ≠ sealed.text →
      readStagingSealEvidence reader (some part) = .ok .truncated) ∧
    readStagingSealEvidence reader (some sealed.text) = .ok (.complete sealed)
  /-- Whatever crashes left: startup ends in the one seal of the bytes, unless there was nothing. -/
  startup : ∀ files, Left env reader bytes files →
    resolved (reconcileInterruptedStagingSeal env reader bytes files) files =
      (if files = ⟨none, none⟩ then files else ⟨none, some (env.sealOf bytes).text⟩, .ok ())
  /-- And so does a retry. -/
  retried : ∀ files chunks, Left env reader bytes files → chunks.flatten = (env.sealOf bytes).text →
    resolved (retryStagingSeal env reader bytes chunks files) files =
      (⟨none, some (env.sealOf bytes).text⟩, .ok ())
  /-- A second application changes nothing. -/
  again : ∀ files after chunks, Left env reader bytes files → chunks.flatten = (env.sealOf bytes).text →
    after = (resolved (reconcileInterruptedStagingSeal env reader bytes files) files).1 ∨
      after = (resolved (retryStagingSeal env reader bytes chunks files) files).1 →
    resolved (reconcileInterruptedStagingSeal env reader bytes after) after = (after, .ok ()) ∧
    (after ≠ ⟨none, none⟩ → ∀ chunks', chunks'.flatten = (env.sealOf bytes).text →
      resolved (retryStagingSeal env reader bytes chunks' after) after = (after, .ok ()))
  /-- A complete seal of something else is refused, and the files stay. -/
  refused : ∀ files sealed chunks, readStagingSealEvidence reader files.pending = .ok (.complete sealed) ∨
      readStagingSealEvidence reader files.sealed = .ok (.complete sealed) → Differs env bytes sealed →
    (∃ e, resolved (reconcileInterruptedStagingSeal env reader bytes files) files = (files, .error e)) ∧
    ∃ e, resolved (retryStagingSeal env reader bytes chunks files) files = (files, .error e)

/-- **The recovery of a seal converges**: whatever crashes in writers and in resolvers have left under its
    two names, startup and a retry both end in the one seal of the bytes, and stay there. -/
theorem seal_recovery (env : StagingEnv) (reader : SliceReader) (bytes : Bytes) (rfc : reader.Rfc8259)
    (hid : env.allocationId.length ≤ 256) (hbytes : bytes.length < 2 ^ 64) : SealRecovery env reader bytes := by
  have hstartup := fun files (h : Left env reader bytes files) => reconcile_part rfc hid hbytes h.part
  have hretried : ∀ files chunks, Left env reader bytes files → chunks.flatten = env.sealText bytes →
      resolved (retryStagingSeal env reader bytes chunks files) files =
        (⟨none, some (env.sealText bytes)⟩, .ok ()) :=
    fun _ _ h hchunks => retry_part rfc hid hbytes h.part hchunks
  have hwhole : SealFiles.Part (env.sealText bytes) ⟨none, some (env.sealText bytes)⟩ :=
    ⟨trivial, List.prefix_rfl⟩
  have hsettled : ∀ files after chunks, Left env reader bytes files → chunks.flatten = env.sealText bytes →
      after = (resolved (reconcileInterruptedStagingSeal env reader bytes files) files).1 ∨
        after = (resolved (retryStagingSeal env reader bytes chunks files) files).1 →
      after = ⟨none, none⟩ ∨ after = ⟨none, some (env.sealText bytes)⟩ := by
    intro files after chunks h hchunks hafter
    rw [hstartup files h, hretried files chunks h hchunks] at hafter
    obtain rfl | rfl := hafter
    · by_cases hnone : files = ⟨none, none⟩
      · exact .inl (by rw [if_pos hnone, hnone])
      · exact .inr (if_neg hnone)
    · exact .inr rfl
  refine ⟨?_, hstartup, hretried, ?_, ?_⟩
  · intro sealed hversion hsize hlength hhash
    have hshort := length_seal hversion hsize hlength hhash
    exact ⟨fun part => read_torn rfc hversion hsize hshort, read_whole rfc hversion hsize hshort⟩
  · intro files after chunks h hchunks hafter
    obtain rfl | rfl := hsettled files after chunks h hchunks hafter
    · exact ⟨reconcile_part rfc hid hbytes ⟨trivial, trivial⟩, fun hne => absurd rfl hne⟩
    · exact ⟨reconcile_part rfc hid hbytes hwhole, fun _ chunks' => retry_part rfc hid hbytes hwhole⟩
  · intro files sealed chunks hfound hdiffers
    obtain ⟨e, hreconcile⟩ := reconcile_refuses hfound hdiffers
    obtain ⟨e', hretry⟩ := retry_refuses chunks hfound hdiffers
    exact ⟨⟨e, by rw [hreconcile]; rfl⟩, ⟨e', by rw [hretry]; rfl⟩⟩

/-! ## 8. After a run of writers -/

/-- What resolvers leave of what they find, each of them stopped anywhere. -/
inductive Recovering (env : StagingEnv) (reader : SliceReader) (bytes : Bytes) (found : SealFiles) : SealFiles → Prop where
  | found : Recovering env reader bytes found found
  | startup {files last : SealFiles} {ops : List SealPrimitive} (h : Recovering env reader bytes found files)
      (hplan : reconcileInterruptedStagingSeal env reader bytes files = .ok ops)
      (hcrash : Interrupted ops files last) : Recovering env reader bytes found last
  | retry {files last : SealFiles} {chunks : List Bytes} {ops : List SealPrimitive}
      (h : Recovering env reader bytes found files) (hchunks : chunks.flatten = env.sealText bytes)
      (hplan : retryStagingSeal env reader bytes chunks files = .ok ops)
      (hcrash : Interrupted ops files last) : Recovering env reader bytes found last

def Staging.sealFiles (s : Staging) : SealFiles := ⟨s.pending, s.sealed⟩

section Runs

variable {env : StagingEnv} {reader : SliceReader} {bytes : Bytes} {found files : SealFiles} {s : Staging}

theorem Recovering.part (hfound : found.Part (env.sealText bytes)) (h : Recovering env reader bytes found files) :
    files.Part (env.sealText bytes) := by
  induction h with
  | found => exact hfound
  | startup _ hplan hcrash ih => exact reconcile_careful ih hplan _ hcrash
  | retry _ hchunks hplan hcrash ih => exact retry_careful ih hchunks hplan _ hcrash

/-- The names of a staging file hold parts of the seal of its bytes. -/
theorem Attested.part (hvec : env.toVec = SealedStaging.text) (h : Attested env s) :
    s.sealFiles.Part (env.sealText s.content) := by
  have htext : s.attestation env = env.sealText s.content := by
    unfold Staging.attestation
    rw [hvec]
    rfl
  obtain ⟨hsealed, hpending⟩ := h
  unfold Staging.sealFiles
  constructor
  · show PartOf _ s.pending
    cases hp : s.pending with
    | none => exact trivial
    | some text => exact htext ▸ hpending text hp
  · show PartOf _ s.sealed
    cases hf : s.sealed with
    | none => exact trivial
    | some text =>
        rw [hsealed text hf, htext]
        exact List.prefix_rfl

end Runs

/-- **A crash of any run is recovered**: wherever managers, openings and writers were when the process died,
    and wherever earlier recoveries were stopped, startup leaves no seal or the one seal of the bytes, and a
    retry the one seal of the bytes. -/
theorem crash_recovered (env : StagingEnv) (reader : SliceReader) (lease : Lease) (row : AllocationRow)
    (ops : List StagingOp) (rfc : reader.Rfc8259) (hvec : env.toVec = SealedStaging.text)
    (hid : env.allocationId.length ≤ 256) {s : Staging} (hs : s = ((StagingSystem.fresh lease row).run env ops).staging)
    (hbytes : s.content.length < 2 ^ 64) {files : SealFiles}
    (hfiles : Recovering env reader s.content s.sealFiles files) :
    resolved (reconcileInterruptedStagingSeal env reader s.content files) files =
      (if files = ⟨none, none⟩ then files else ⟨none, some (env.sealOf s.content).text⟩, .ok ()) ∧
    ∀ chunks : List Bytes, chunks.flatten = (env.sealOf s.content).text →
      resolved (retryStagingSeal env reader s.content chunks files) files =
        (⟨none, some (env.sealOf s.content).text⟩, .ok ()) := by
  have hattested : Attested env s := hs ▸ ((StagingInv.fresh lease row).run ops).attested
  have hpart := hfiles.part (hattested.part hvec)
  exact ⟨reconcile_part rfc hid hbytes hpart, fun _ => retry_part rfc hid hbytes hpart⟩

/-! ### A reader at work -/

open Classical in
/-- The reader of what has these tokens, which finds it by the grammar. -/
noncomputable def grammatical (tokens : SliceReader) : SliceReader where
  string := tokens.string
  number := tokens.number
  fromSlice := fun text =>
    if h : ∃ d, tokens.Readable d ∧ d.text = text then
      .value (h.choose.value.json tokens.numberOf tokens.decoded)
    else if ∃ d, tokens.Readable d ∧ text <+: d.text then .eof
    else .malformed

section Grammatical

variable {tokens : SliceReader}

theorem readable_grammatical {d : Document} : (grammatical tokens).Readable d ↔ tokens.Readable d :=
  ⟨fun h => ⟨h.spaced, h.strings, h.nesting, h.numbers⟩, fun h => ⟨h.spaced, h.strings, h.nesting, h.numbers⟩⟩

theorem rfc8259_grammatical (hquoted : ∀ s, tokens.string (quote s).text = some s)
    (hnatural : ∀ n < 2 ^ 64, tokens.number (decimal n) = some (.posInt n)) : (grammatical tokens).Rfc8259 where
  reads := by
    intro d hd
    have hex : ∃ e, tokens.Readable e ∧ e.text = d.text := ⟨d, readable_grammatical.mp hd, rfl⟩
    have hsame : hex.choose = d :=
      Document.unique (hex.choose_spec.1.spaced.mono separates_of_isSpace)
        (hd.spaced.mono separates_of_isSpace) hex.choose_spec.2
    have hread : (grammatical tokens).fromSlice d.text =
        .value (hex.choose.value.json tokens.numberOf tokens.decoded) := dif_pos hex
    rw [hsame] at hread
    exact hread
  stops := by
    intro d hd _ part hpart hnone
    have hno : ¬ ∃ e, tokens.Readable e ∧ e.text = part := by
      intro h
      obtain ⟨e, he, htext⟩ := h
      exact hnone e (readable_grammatical.mpr he) htext
    exact (dif_neg hno).trans (if_pos ⟨d, readable_grammatical.mp hd, hpart⟩)
  quoted := hquoted
  natural := hnatural

end Grammatical

open Classical in
/-- The strings and the 64-bit numbers of the writer. -/
noncomputable def plainTokens : SliceReader where
  string := fun token => if h : ∃ s, (quote s).text = token then some h.choose else none
  number := fun token => if h : ∃ n, decimal n = token ∧ n < 2 ^ 64 then some (.posInt h.choose) else none
  fromSlice := fun _ => .malformed

theorem plainTokens_quote (s : String) : plainTokens.string (quote s).text = some s := by
  have hex : ∃ t, (quote t).text = (quote s).text := ⟨s, rfl⟩
  have hread : plainTokens.string (quote s).text = some hex.choose := dif_pos hex
  rw [hread, quote_injective hex.choose_spec]

theorem plainTokens_decimal (n : Nat) (hn : n < 2 ^ 64) : plainTokens.number (decimal n) = some (.posInt n) := by
  have hex : ∃ k, decimal k = decimal n ∧ k < 2 ^ 64 := ⟨n, rfl, hn⟩
  have hread : plainTokens.number (decimal n) = some (.posInt hex.choose) := dif_pos hex
  have hsame := congrArg coefficient hex.choose_spec.1
  rw [coefficient_decimal, coefficient_decimal] at hsame
  rw [hread, hsame]

/-- A file of one byte. -/
theorem seal_recovery_plain : sampleEnv.allocationId.length ≤ 256 ∧ [66].length < 2 ^ 64 ∧
    SealRecovery sampleEnv (grammatical plainTokens) [66] := by
  have hid : sampleEnv.allocationId.length ≤ 256 := by decide
  have hbytes : ([66] : Bytes).length < 2 ^ 64 := by decide
  have rfc := rfc8259_grammatical plainTokens_quote plainTokens_decimal
  exact ⟨hid, hbytes, seal_recovery sampleEnv (grammatical plainTokens) [66] rfc hid hbytes⟩

/-- The sample with the text of the writer. -/
def compactEnv : StagingEnv := { sampleEnv with toVec := SealedStaging.text }

/-- The run of two writers, stopped at its end. -/
theorem crash_recovered_compact :
    let s := ((StagingSystem.fresh sampleLease sampleRow).run compactEnv supersededOps).staging
    resolved (reconcileInterruptedStagingSeal compactEnv (grammatical plainTokens) s.content s.sealFiles) s.sealFiles =
      (⟨none, none⟩, .ok ()) := by
  intro s
  have hid : compactEnv.allocationId.length ≤ 256 := by decide
  have hbytes : s.content.length < 2 ^ 64 := by decide
  have rfc := rfc8259_grammatical plainTokens_quote plainTokens_decimal
  have h := (crash_recovered compactEnv (grammatical plainTokens) sampleLease sampleRow supersededOps rfc rfl hid rfl
    hbytes .found).1
  have hunsealed : s.sealFiles = ⟨none, none⟩ := rfl
  rwa [if_pos hunsealed, hunsealed] at h

end Aios.Artifacts
