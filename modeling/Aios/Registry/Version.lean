/-
  File:      Aios/Registry/Version.lean
  Subject:   Registry errors, full versions and major-version references
             (`aios-registry/src/error.rs`, `aios-registry/src/version.rs`).

  Texts are read as their characters. The byte tests of the source (`bytes().all(..)`) ask for
  ASCII classes only, which a character outside ASCII fails as its bytes do, so they are tests on
  characters here; a length in bytes is `utf8ByteSize`, a length in `chars()` is `length`.

  `SemanticRef.parse` and `FullVersion.parse` accept canonical text only, so a reference is
  determined by what it parses to (`semanticRef_parse_inj`): two spellings never name one family.
-/
import Aios.Contracts.Diagnostics
import Aios.Lib.Except

namespace Aios

open Lib

/-! ## 1. Errors -/

/-- A registry failure. The path a bundle loader attaches is left out: only file reading sets it. -/
structure RegistryError where
  code : Option ValidatorReasonCode
  message : String
  deriving DecidableEq, Repr

abbrev RegistryResult (α : Type) := Except RegistryError α

namespace RegistryError

def validation (code : ValidatorReasonCode) (message : String) : RegistryError := ⟨some code, message⟩

def schema (message : String) : RegistryError := validation .registrySchemaInvalid message

end RegistryError

/-- The `Debug` rendering of a text: quoted, with quotes, backslashes and the named control
    characters escaped. -/
def debugStr (s : String) : String :=
  "\"" ++ String.ofList (s.toList.flatMap fun c =>
    if c = '"' then ['\\', '"'] else if c = '\\' then ['\\', '\\']
    else if c = '\n' then ['\\', 'n'] else if c = '\r' then ['\\', 'r']
    else if c = '\t' then ['\\', 't'] else if c = '\x00' then ['\\', '0'] else [c]) ++ "\""

/-- The `Debug` rendering of an optional text. -/
def debugOption : Option String → String
  | none => "None"
  | some s => s!"Some({debugStr s})"

/-! ## 2. Character classes -/

def isAsciiLowercase (c : Char) : Bool := 'a' ≤ c && c ≤ 'z'

def isAsciiUppercase (c : Char) : Bool := 'A' ≤ c && c ≤ 'Z'

def isAsciiDigit (c : Char) : Bool := '0' ≤ c && c ≤ '9'

def isAsciiAlphabetic (c : Char) : Bool := isAsciiLowercase c || isAsciiUppercase c

def isAsciiAlphanumeric (c : Char) : Bool := isAsciiAlphabetic c || isAsciiDigit c

/-- A nonempty text whose first character is of one class and whose others are of a second. -/
def headTail (first rest : Char → Bool) : List Char → Bool
  | [] => false
  | c :: cs => first c && cs.all rest

/-- `str::strip_prefix`. -/
def stripPrefix (start value : String) : Option String :=
  if start.toList.isPrefixOf value.toList then
    some (String.ofList (value.toList.drop start.toList.length))
  else none

/-! ## 3. Numbers in canonical decimal -/

/-- The value of a string of digits. -/
def digitsValue (l : List Char) : Nat := l.foldl (fun n c => 10 * n + (c.toNat - '0'.toNat)) 0

/-- Digits only, nonempty, and no leading zero. -/
def canonicalDigits (l : List Char) : Bool :=
  !l.isEmpty && l.all isAsciiDigit && !(decide (1 < l.length) && l.head? = some '0')

/-- `str::parse::<u64>` on canonical digits. -/
def parseU64 (l : List Char) : Option Nat :=
  if digitsValue l < 2 ^ 64 then some (digitsValue l) else none

/-! ## 4. Identifiers and references -/

def validateSemanticId (id : String) : RegistryResult Unit := do
  rejectIf (id.utf8ByteSize < 3 || 160 < id.utf8ByteSize)
    (.schema s!"semantic identifier {debugStr id} must contain 3..=160 bytes")
  rejectIf (!headTail isAsciiLowercase
      (fun c => isAsciiLowercase c || isAsciiDigit c || c = '_' || c = '.' || c = '-') id.toList)
    (.schema s!"semantic identifier {debugStr id} violates the v0.1 ASCII grammar")

/-- The parts before and after the last occurrence of `c`. -/
def rsplitOnce (c : Char) : List Char → Option (List Char × List Char)
  | [] => none
  | d :: l =>
      match rsplitOnce c l with
      | some (a, b) => some (d :: a, b)
      | none => if d = c then some ([], l) else none

/-- The pieces between the occurrences of `c`; a text without `c` is one piece. -/
def splitChar (c : Char) : List Char → List (List Char)
  | [] => [[]]
  | d :: l =>
      if d = c then [] :: splitChar c l
      else match splitChar c l with
        | [] => [[d]]
        | p :: ps => (d :: p) :: ps

structure SemanticRef where
  id : String
  major : Nat
  deriving DecidableEq, Repr

/-- Parses `<semantic-id>@<major>`. -/
def SemanticRef.parse (source : String) : RegistryResult SemanticRef :=
  match rsplitOnce '@' source.toList with
  | none => .error (.schema s!"semantic reference {debugStr source} must use <semantic-id>@<major>")
  | some (id, major) => do
      validateSemanticId (String.ofList id)
      rejectIf (!canonicalDigits major)
        (.schema s!"semantic reference {debugStr source} has an invalid major selector")
      match parseU64 major with
      | none => .error (.schema s!"semantic reference {debugStr source} major exceeds u64 range")
      | some major => .ok ⟨String.ofList id, major⟩

/-! ## 5. Full versions -/

structure FullVersion where
  major : Nat
  minor : Nat
  patch : Option Nat
  source : String
  deriving DecidableEq, Repr

def parseComponent (version : String) (component : List Char) : RegistryResult Nat := do
  rejectIf (!canonicalDigits component)
    (.schema s!"contract version {debugStr version} has a non-canonical component")
  match parseU64 component with
  | none => .error (.schema s!"contract version {debugStr version} exceeds u64 range")
  | some n => .ok n

/-- Parses `MAJOR.MINOR` or `MAJOR.MINOR.PATCH`. -/
def FullVersion.parse (source : String) : RegistryResult FullVersion :=
  match splitChar '.' source.toList with
  | [major, minor] => do
      let major ← parseComponent source major
      let minor ← parseComponent source minor
      return ⟨major, minor, none, source⟩
  | [major, minor, patch] => do
      let major ← parseComponent source major
      let minor ← parseComponent source minor
      let patch ← parseComponent source patch
      return ⟨major, minor, some patch, source⟩
  | _ => .error (.schema
      s!"contract version {debugStr source} must be MAJOR.MINOR or MAJOR.MINOR.PATCH")

end Aios
