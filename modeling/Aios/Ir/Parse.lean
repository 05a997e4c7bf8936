/-
  File:      Aios/Ir/Parse.lean
  Subject:   The strict reader of JSON documents (`aios-ir/src/parse.rs`).

  A scan by position carries the bytes still to be read, and the position where it is needed. The
  parser library is the parameter `SerdeJson`: what it decodes a string or a number to, and the
  calls its deserializer makes on the visitor (`Reading`). The visitor, which builds the value and
  refuses a repeated member name, is the repository's own.
-/
import Aios.Contracts.Registry
import Aios.Registry.Numbers

namespace Aios

open Lib

def duplicateMarker : String := "AIOS_DUPLICATE_KEY:"

def maxSupportedJsonDepth : Nat := 127

inductive StrictJsonError where
  | depthLimit
  | duplicateKey (key : String)
  | invalid (message : String)
  deriving DecidableEq, Repr

/-! ## 1. The parser library -/

/-- What the deserializer drives a visitor through: the calls in document order, up to the end of
    the value or to the error the parser stops at. -/
inductive Reading where
  | failed (message : String)
  | unit
  | bool (b : Bool)
  | u64 (n : Nat)
  | i64 (n : Int)
  | f64 (bits : BitVec 64)
  | str (s : String)
  | seq (elements : List Reading) (stopped : Option String)
  | map (entries : List (String × Reading)) (stopped : Option String)

structure SerdeJson where
  /-- `from_slice::<String>`, the quotes included. -/
  string : List UInt8 → Option String
  /-- `from_slice::<Number>`. -/
  number : List UInt8 → Option Number
  /-- `Deserializer::deserialize_any` on a document. -/
  read : List UInt8 → Reading
  /-- The error of `Deserializer::end` after the value was read. -/
  trailing : List UInt8 → Option String
  /-- The text of a custom error raised while a document is read: its position is appended. -/
  located : List UInt8 → String → String

/-! ## 2. Nesting -/

/-- The scan of `exceeds_depth` over the bytes that are left. -/
def depthLoop (maxDepth : Nat) : Nat → Bool → Bool → List UInt8 → Bool
  | _, _, _, [] => false
  | depth, inString, escaped, byte :: rest =>
    if inString then
      if escaped then depthLoop maxDepth depth inString false rest
      else if byte = 92 then depthLoop maxDepth depth inString true rest
      else if byte = 34 then depthLoop maxDepth depth false escaped rest
      else depthLoop maxDepth depth inString escaped rest
    else if byte = 34 then depthLoop maxDepth depth true escaped rest
    else if byte = 123 ∨ byte = 91 then
      if maxDepth < depth + 1 then true
      else depthLoop maxDepth (depth + 1) inString escaped rest
    else if byte = 125 ∨ byte = 93 then depthLoop maxDepth (depth - 1) inString escaped rest
    else depthLoop maxDepth depth inString escaped rest

def exceedsDepth (bytes : List UInt8) (maxDepth : Nat) : Bool :=
  depthLoop maxDepth 0 false false bytes

/-! ## 3. The metadata scanner -/

/-- The scanner: the bytes from its index on, the index, the ranges to replace. -/
structure MetadataScanner where
  rest : List UInt8
  index : Nat
  replacements : List (Nat × Nat)
  deriving DecidableEq, Repr

/-- `u8::is_ascii_whitespace`: form feed counts, unlike in a JSON text. -/
def isAsciiWhitespace (b : UInt8) : Bool := b = 32 || b = 9 || b = 10 || b = 12 || b = 13

namespace MetadataScanner

/-- Moves on to the given remaining bytes. -/
def moveTo (s : MetadataScanner) (rest : List UInt8) : MetadataScanner :=
  { s with rest, index := s.index + (s.rest.length - rest.length) }

def skipWhitespace (s : MetadataScanner) : MetadataScanner :=
  s.moveTo (s.rest.dropWhile isAsciiWhitespace)

/-- The byte that is expected, or nothing moved. -/
def consume (s : MetadataScanner) (expected : UInt8) : Option MetadataScanner :=
  if s.rest.head? = some expected then some (s.moveTo s.rest.tail) else none

/-- Splits a string at the quote that closes it. -/
def stringLoop (escaped : Bool) : List UInt8 → Option (List UInt8 × List UInt8)
  | [] => none
  | byte :: rest =>
    if escaped then (stringLoop false rest).map fun r => (byte :: r.1, r.2)
    else if byte = 92 then (stringLoop true rest).map fun r => (byte :: r.1, r.2)
    else if byte = 34 then some ([], rest)
    else (stringLoop escaped rest).map fun r => (byte :: r.1, r.2)

section
variable (serde : SerdeJson)

def scanString (s : MetadataScanner) : Option (String × MetadataScanner) := do
  let opened ← s.consume 34
  let (body, rest) ← stringLoop false opened.rest
  let text ← serde.string (34 :: (body ++ [34]))
  return (text, s.moveTo rest)

def scanLiteral (s : MetadataScanner) (literal : List UInt8) : Option MetadataScanner :=
  if literal.isPrefixOf s.rest then some (s.moveTo (s.rest.drop literal.length)) else none

/-- What follows the longest number at the front. -/
def numberEnd (bytes : List UInt8) : Option (List UInt8) := do
  let (_, rest) ← wholePart (if bytes.head? = some 45 then bytes.tail else bytes)
  let (_, rest) ← fractionPart rest
  let (_, rest) ← exponentPart rest
  return rest

def scanNumber (insideMetadata : Bool) (s : MetadataScanner) : Option MetadataScanner := do
  let rest ← numberEnd s.rest
  let next := s.moveTo rest
  let token := s.rest.take (next.index - s.index)
  if insideMetadata && (serde.number token).isNone then
    return { next with replacements := s.replacements ++ [(s.index, next.index)] }
  else return next

/-- The loop of `scan_object`, entered at a key; `fuel` bounds its passes. -/
def memberLoop (value : Bool → MetadataScanner → Option MetadataScanner) (insideMetadata : Bool) :
    Nat → MetadataScanner → Option MetadataScanner
  | 0, _ => none
  | fuel + 1, s => do
    let (key, s) ← scanString serde s
    let s ← s.skipWhitespace.consume 58
    let s := (← value (insideMetadata || key = "metadata") s).skipWhitespace
    match s.consume 125 with
    | some s => return s
    | none =>
      let s ← s.consume 44
      memberLoop value insideMetadata fuel s.skipWhitespace

/-- The loop of `scan_array`, entered at an element. -/
def elementLoop (value : Bool → MetadataScanner → Option MetadataScanner) (insideMetadata : Bool) :
    Nat → MetadataScanner → Option MetadataScanner
  | 0, _ => none
  | fuel + 1, s => do
    let s := (← value insideMetadata s).skipWhitespace
    match s.consume 93 with
    | some s => return s
    | none =>
      let s ← s.consume 44
      elementLoop value insideMetadata fuel s

def scanObject (value : Bool → MetadataScanner → Option MetadataScanner) (insideMetadata : Bool)
    (s : MetadataScanner) : Option MetadataScanner :=
  let s := (s.moveTo s.rest.tail).skipWhitespace
  match s.consume 125 with
  | some s => some s
  | none => memberLoop serde value insideMetadata s.rest.length s

def scanArray (value : Bool → MetadataScanner → Option MetadataScanner) (insideMetadata : Bool)
    (s : MetadataScanner) : Option MetadataScanner :=
  let s := (s.moveTo s.rest.tail).skipWhitespace
  match s.consume 93 with
  | some s => some s
  | none => elementLoop value insideMetadata s.rest.length s

/-- `scan_value` with the levels it may still enter: none left is `depth > 127`. -/
def scanValue : Nat → Bool → MetadataScanner → Option MetadataScanner
  | 0, _, _ => none
  | levels + 1, insideMetadata, s =>
    let s := s.skipWhitespace
    match s.rest.head? with
    | none => none
    | some byte =>
      if byte = 123 then scanObject serde (scanValue levels) insideMetadata s
      else if byte = 91 then scanArray (scanValue levels) insideMetadata s
      else if byte = 34 then (scanString serde s).map Prod.snd
      else if byte = 116 then s.scanLiteral [116, 114, 117, 101]
      else if byte = 102 then s.scanLiteral [102, 97, 108, 115, 101]
      else if byte = 110 then s.scanLiteral [110, 117, 108, 108]
      else if byte = 45 || isDigit byte then scanNumber serde insideMetadata s
      else none

end

end MetadataScanner

/-- Copies the bytes between the ranges and writes `0` for each range. -/
def replaceRanges (bytes : List UInt8) : Nat → List (Nat × Nat) → List UInt8
  | copied, [] => bytes.drop copied
  | copied, (start, stop) :: ranges =>
    (bytes.take start).drop copied ++ 48 :: replaceRanges bytes stop ranges

section
variable (serde : SerdeJson)

def sanitizeOutOfRangeMetadataNumbers (bytes : List UInt8) : List UInt8 :=
  match MetadataScanner.scanValue serde (maxSupportedJsonDepth + 1) false ⟨bytes, 0, []⟩ with
  | none => bytes
  | some s =>
    let s := s.skipWhitespace
    if s.index ≠ bytes.length ∨ s.replacements = [] then bytes
    else replaceRanges bytes 0 s.replacements

/-! ## 4. The visitor -/

section
variable (bytes : List UInt8)

mutual

/-- `StrictValueVisitor` on what the deserializer calls. -/
def visit : Reading → Except String Json
  | .failed message => .error message
  | .unit => .ok .null
  | .bool b => .ok (.bool b)
  | .u64 n => .ok (.num (.posInt n))
  | .i64 n => .ok (.num (if 0 ≤ n then .posInt n.toNat else .negInt n))
  | .f64 bits =>
    if (F64.mk bits).isFinite then .ok (.num (.float bits))
    else .error (serde.located bytes "non-finite JSON number")
  | .str s => .ok (.str s)
  | .seq elements stopped => do
    let values ← visitSeq stopped elements
    return .arr values
  | .map entries stopped => do
    let values ← visitMap stopped [] entries
    return .obj values

/-- `visit_seq`. -/
def visitSeq (stopped : Option String) : List Reading → Except String (List Json)
  | [] =>
    match stopped with
    | none => .ok []
    | some message => .error message
  | element :: rest => do
    let value ← visit element
    let values ← visitSeq stopped rest
    return value :: values

/-- `visit_map`: a name that is already a member is refused. -/
def visitMap (stopped : Option String) (values : List (String × Json)) :
    List (String × Reading) → Except String (List (String × Json))
  | [] =>
    match stopped with
    | none => .ok values
    | some message => .error message
  | (key, reading) :: rest =>
    if values.any (·.1 = key) then .error (serde.located bytes (duplicateMarker ++ key))
    else do
      let value ← visit reading
      visitMap stopped (Json.insertMember key value values) rest

end

end

/-! ## 5. The reader -/

/-- What follows the first occurrence of `pattern`. -/
def afterFirst (pattern : List Char) : List Char → Option (List Char)
  | [] => if pattern = [] then some [] else none
  | c :: rest =>
    if pattern.isPrefixOf (c :: rest) then some ((c :: rest).drop pattern.length)
    else afterFirst pattern rest

/-- What stands before the first occurrence of `pattern`, or everything. -/
def beforeFirst (pattern : List Char) : List Char → List Char
  | [] => []
  | c :: rest => if pattern.isPrefixOf (c :: rest) then [] else c :: beforeFirst pattern rest

def classifyError (message : String) : StrictJsonError :=
  match afterFirst duplicateMarker.toList message.toList with
  | some key => .duplicateKey (String.ofList ((beforeFirst " at line ".toList key).take 256))
  | none => .invalid message

variable (positiveFinite : List UInt8 → Bool)

def parseStrictJson (bytes : List UInt8) (maxDepth : Nat) : Except StrictJsonError Json := do
  let maxDepth := min maxDepth maxSupportedJsonDepth
  if exceedsDepth bytes maxDepth then throw .depthLimit
  let sanitized := sanitizeOutOfRangeMetadataNumbers serde bytes
  let prepared ← (prepareNumbers positiveFinite sanitized .irIntegers).mapError .invalid
  let value ← (visit serde prepared (serde.read prepared)).mapError classifyError
  match serde.trailing prepared with
  | some message => throw (classifyError message)
  | none => return value

end

end Aios
