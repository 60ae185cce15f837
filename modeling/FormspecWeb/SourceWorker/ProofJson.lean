import FormspecWeb.Shared.JsonMembers
import FormspecWeb.Shared.Utf16
import FormspecWeb.SourceWorker.MixedProofReader

/-!
# Bounded proof JSON

Admission of the bytes of a proof as JSON. The tree of a text is a parser's, which is not part of this
program; the value of the text is what `JSON.parse` builds. A field of an admitted proof is cut out of
its bytes where the tree says it stands.
-/

namespace FormspecWeb.SourceWorker.ProofJson

open FormspecWeb.Shared
open JsonText

inductive NodeType where
  | object | array | property | string | number | boolean | null
  deriving DecidableEq

/-- A node of the tree. Objects, arrays and properties have no value of their own. -/
inductive Node (ν : Type) where
  | mk (type : NodeType) (offset length : Nat) (value : Option (Json ν)) (children : List (Node ν))

namespace Node

variable {ν : Type}

def type : Node ν → NodeType
  | .mk type _ _ _ _ => type

def offset : Node ν → Nat
  | .mk _ offset _ _ _ => offset

def length : Node ν → Nat
  | .mk _ _ length _ _ => length

def value : Node ν → Option (Json ν)
  | .mk _ _ _ value _ => value

def children : Node ν → List (Node ν)
  | .mk _ _ _ _ children => children

/-- `property.children?.[0]?.value` -/
def key (property : Node ν) : Option Text :=
  match property.children.head?.bind value with
  | some (.string name) => some name
  | _ => none

end Node

structure ParseOptions where
  disallowComments : Bool
  allowTrailingComma : Bool

inductive Refusal where
  | error (message : String)
  | typeError
  | syntaxError
  deriving DecidableEq

structure Numbers (ν : Type) extends NumberFormat ν where
  magnitude : ν → Option Rat

variable {ν : Type} (numbers : Numbers ν)

/-- The tree of a text, if there is one, and how many errors were found. -/
abbrev ParseTree (ν : Type) := ParseOptions → Text → Option (Node ν) × Nat

def maxSafeInteger : Rat := 9007199254740991

/-- The names of an object's properties, none of which is among `keys`. -/
def inspectKeys (keys : List (Option Text)) : List (Node ν) → Except Refusal Unit
  | [] => .ok ()
  | property :: properties =>
    if keys.contains property.key then .error (.error "output")
    else inspectKeys (property.key :: keys) properties

def supported : Option (Json ν) → Bool
  | some (.number value) => (numbers.magnitude value).any (· ≤ maxSafeInteger)
  | _ => false

def inspectNames (type : NodeType) (children : List (Node ν)) : Except Refusal Unit :=
  if type = .object then inspectKeys [] children else .ok ()

mutual

def inspect : Node ν → Nat → Except Refusal Unit
  | .mk type _ _ value children, depth => do
      failIf (decide (256 < depth)) (.error "output")
      inspectNames type children
      failIf (type == .number && !supported numbers value) (.error "unsupported-number")
      inspectAll children (depth + 1)

def inspectAll : List (Node ν) → Nat → Except Refusal Unit
  | [], _ => .ok ()
  | child :: children, depth => do
      inspect child depth
      inspectAll children depth

end

/-! ## The value -/

mutual

def requireWireJson (value : Json ν) (depth : Nat) : Except Refusal Unit := do
  failIf (decide (256 < depth)) (.error "Source evaluation hydration JSON nesting exceeds limit")
  match value with
  | .null => .ok ()
  | .string _ => .ok ()
  | .bool _ => .ok ()
  | .number value =>
    failIf (numbers.magnitude value).isNone (.error "Invalid Source evaluation hydration JSON value")
  | .array entries => requireEntries entries (depth + 1)
  | .object members => requireMembers members (depth + 1)

def requireEntries : List (Json ν) → Nat → Except Refusal Unit
  | [], _ => .ok ()
  | entry :: entries, depth => do
      requireWireJson entry depth
      requireEntries entries depth

def requireMembers : List (Text × Json ν) → Nat → Except Refusal Unit
  | [], _ => .ok ()
  | (_, value) :: members, depth => do
      requireWireJson value depth
      requireMembers members depth

end

/-- `JSON.parse(text)` -/
def jsonParse (text : Text) : Except Refusal (Json ν) :=
  match parse numbers.toNumberFormat text with
  | some value => .ok value.built
  | none => .error .syntaxError

variable (parseTree : ParseTree ν)

/-- `new TextDecoder('utf-8', { fatal: true, ignoreBOM: true }).decode(bytes)` -/
def decode (bytes : Bytes) : Except Refusal Text :=
  match decodeText bytes with
  | some text => .ok text
  | none => .error .typeError

/-- The tree is read without comments and trailing commas, and without an error. -/
def strictTree (text : Text) : Except Refusal (Node ν) :=
  match parseTree ⟨true, false⟩ text with
  | (some tree, 0) => .ok tree
  | _ => .error (.error "output")

/-- The cap that was asked for; what is no safe integer is refused like one out of range. -/
def proofCap : Option Rat → Except Refusal Nat
  | none => .error (.error "input-cap")
  | some cap =>
    if cap.den ≠ 1 ∨ isSafeInteger cap.num = false ∨ cap.num < 1 ∨ 4 * 1024 * 1024 + 4096 < cap.num then
      .error (.error "input-cap")
    else .ok cap.num.toNat

/-- `snapshotInput(bytes, cap)` -/
def snapshot (bytes : Bytes) (cap : Nat) : Except Refusal Bytes :=
  match snapshotInput bytes cap with
  | some copy => .ok copy
  | none => .error (.error "input-cap")

/-- The cap is the small one where none is given. -/
def decodeBoundedProofJson (bytes : Bytes) (cap : Option Rat := some smallCap) : Except Refusal (Json ν) := do
  let cap ← proofCap cap
  let copy ← snapshot bytes cap
  let text ← decode copy
  let tree ← strictTree parseTree text
  inspect numbers tree 0
  let value ← jsonParse numbers text
  requireWireJson numbers value 0
  return value

def slice (text : Text) (offset length : Nat) : Text := (text.drop offset).take length

def fieldNode (tree : Option (Node ν)) (name : Text) : Option (Node ν) :=
  ((tree.map Node.children).getD []).find? (fun property => property.key == some name)
    |>.bind fun property => property.children[1]?

def boundedProofJsonField (bytes : Bytes) (name : Text) (cap : Option Rat) : Except Refusal Bytes := do
  let _ ← decodeBoundedProofJson numbers parseTree bytes cap
  let text ← decode bytes
  let tree := (parseTree ⟨false, false⟩ text).1
  match fieldNode tree name with
  | some node =>
    if tree.map Node.type = some .object then
      return encodeText (slice text node.offset node.length)
    else throw (.error "output")
  | none => throw (.error "output")

end FormspecWeb.SourceWorker.ProofJson
