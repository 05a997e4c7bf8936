/-
  File:      Aios/Contracts/Provider.lean
  Subject:   Provider manifests (`aios-contracts/src/provider.rs`) and the reason codes of their
             checks (`aios-contracts/src/diagnostics.rs`).

  A manifest only claims; nothing here grants authority. The members no check reads (names, images,
  evidence of a build) are kept: a manifest is compared and hashed as a whole.
-/
import Aios.Contracts.Registry

namespace Aios.Declared

/-! ## 1. Reason codes -/

inductive ProviderReasonCode where
  | providerContractNotFound
  | providerContractHashMismatch
  | providerExecutionClassIncompatible
  | providerEffectNotAllowed
  | providerRequiredEffectMissing
  | providerAuthorityNotAllowed
  | providerRequiredAuthorityMissing
  | providerEgressNotAllowed
  | providerPortOrTypeMismatch
  | providerIsolationIncompatible
  | providerSuiteMismatch
  | providerBuildIdentityMissing
  | providerConformanceFailed
  | providerConformanceExpired
  | providerDeclarationInvalid
  deriving DecidableEq, Repr

/-! ## 2. Enumerations -/

inductive ProviderRuntimeKind where
  | builtin
  | process
  | varlink
  | oci
  | wasm
  | modelAdapter
  | legacyAdapter
  | remote
  deriving DecidableEq, Repr

inductive ConformanceStatus where
  | declared
  | tested
  | certified
  deriving DecidableEq, Repr

/-- The isolation profiles, weakest first. -/
inductive IsolationProfile where
  | p0
  | p1
  | p2
  | p3
  | p4
  | p5
  deriving DecidableEq, Repr

/-- The derived order of the enumeration. -/
def IsolationProfile.lt (a b : IsolationProfile) : Bool := a.ctorIdx < b.ctorIdx

inductive NetworkDefault where
  | none
  | allowlist
  | internet
  deriving DecidableEq, Repr

inductive ProviderReviewStatus where
  | unreviewed
  | projectReviewed
  | thirdPartyReviewed
  deriving DecidableEq, Repr

/-! ## 3. Manifests -/

structure ProviderPublisher where
  id : String
  name : Option String
  sourceUrl : Option String
  signature : Option String
  deriving DecidableEq, Repr

structure ProviderRuntime where
  kind : ProviderRuntimeKind
  entrypoint : Option String
  interface : Option String
  image : Option String
  digest : Option String
  deriving DecidableEq, Repr

structure ProviderContractClaim where
  capability : String
  version : String
  contractHash : Option String
  contractSource : Option String
  deriving DecidableEq, Repr

structure ProviderConformance where
  suite : String
  suiteHash : Option String
  status : ConformanceStatus
  testedAt : Option String
  testEnvironment : Option String
  deriving DecidableEq, Repr

structure ProviderExecution where
  locality : List Locality
  executionClass : ExecutionClass
  minimumIsolation : IsolationProfile
  networkDefault : Option NetworkDefault
  deriving DecidableEq, Repr

structure ProviderAuthority where
  actions : List String
  resourceClasses : List String
  deriving DecidableEq, Repr

structure ProviderResourceRequirements where
  minMemoryBytes : Option Nat
  preferredAccelerators : List String
  requiresGpu : Bool
  deriving DecidableEq, Repr

structure ProviderCapability where
  contract : ProviderContractClaim
  conformance : ProviderConformance
  effectClasses : List EffectClass
  execution : ProviderExecution
  authority : Option ProviderAuthority
  representations : Std.ExtTreeMap String (List String)
  resourceRequirements : Option ProviderResourceRequirements
  deriving DecidableEq

structure ProviderTrust where
  sourceHash : Option String
  buildProvenance : Option String
  reviewStatus : Option ProviderReviewStatus
  deriving DecidableEq, Repr

structure CapabilityManifest where
  schemaVersion : String
  id : String
  version : String
  publisher : ProviderPublisher
  runtime : ProviderRuntime
  provides : List ProviderCapability
  trust : Option ProviderTrust
  deriving DecidableEq

end Aios.Declared
