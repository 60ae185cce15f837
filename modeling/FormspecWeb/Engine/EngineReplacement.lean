import FormspecWeb.Policy.ExtractFormPolicy
import FormspecWeb.Shared.Checks
import FormspecWeb.Shared.Text
import Mathlib.Algebra.Order.Ring.Rat

/-!
# Replacement of the form engine

A replacement captures the fields and the rows of the engine it replaces, constructs a new engine from
them and waits for its sources. The call owns the new engine until it returns a handle; the handle is
adopted or disposed. The host's signal may abort at any point. What the guard answers, and what the
engine does, comes with the events.
-/

namespace FormspecWeb.Engine

open Shared Policy

structure EngineItemProperties where
  key : String
  type : ItemType
  repeatable : Bool
  /-- It has a member `prePopulate` or `seedFrom`. -/
  seeded : Bool

abbrev EngineItem := Shared.Tree EngineItemProperties

inductive WriteSource where
  | user
  | assist
  | other (name : String)
deriving DecidableEq

def keyOf : EngineItem → String
  | .node item _ => item.key

mutual

/-- The body of the test of `siblingsApart`. -/
def itemSiblingsApart : EngineItem → Bool
  | .node _ children => siblingsApart children

/-- No two items of one parent have one key. -/
def siblingsApart : List EngineItem → Bool
  | [] => true
  | item :: items =>
    !(items.map keyOf).contains (keyOf item) && itemSiblingsApart item && siblingsApart items

end

/-- What a replacement reads of an engine. The schema of definitions keeps the keys of items apart. -/
structure FormEngine where
  items : List EngineItem
  siblings_apart : siblingsApart items = true
  /-- `signals[path]?.value`, which may be `undefined`. -/
  signals : String → Option Value
  /-- `repeats[path]?.value`. -/
  repeats : String → Option Rat
  /-- `getFieldVM(path)?.writeSource.value`. -/
  writeSource : String → Option WriteSource
  activeLocale : String

mutual

/-- The body of the test of `hasCreationTimeSeeding`. -/
def itemHasCreationTimeSeeding : EngineItem → Bool
  | .node item children => item.seeded || hasCreationTimeSeeding children

def hasCreationTimeSeeding : List EngineItem → Bool
  | [] => false
  | item :: items => itemHasCreationTimeSeeding item || hasCreationTimeSeeding items

end

mutual

/-- The body of the test of `hasDependentFieldChildren`. -/
def itemHasDependentFieldChildren : EngineItem → Bool
  | .node item children =>
    (item.type == .field && !children.isEmpty) || hasDependentFieldChildren children

def hasDependentFieldChildren : List EngineItem → Bool
  | [] => false
  | item :: items => itemHasDependentFieldChildren item || hasDependentFieldChildren items

end

structure Write where
  path : String
  value : Value
  source : WriteSource

def put (data : List (String × Value)) : Option (String × Value) → List (String × Value)
  | some property => spread data [property]
  | none => data

/-- `prefix ? prefix.key : key`. -/
def itemPath (above key : String) : String := if above.isEmpty then key else above ++ "." ++ key

def rowPath (path : String) (index : Nat) : String := path ++ "[" ++ toString index ++ "]"

namespace FormEngine

variable (engine : FormEngine)

/-- The rows of a group; none where the engine does not say how many it has. -/
def rowCount (path : String) : Option Nat := do
  let count ← engine.repeats path
  if count.isInt && isSafeInteger count.num && 0 ≤ count then some count.num.toNat else none

def writeOf (path : String) (value : Value) : List Write :=
  match engine.writeSource path with
  | some .user => [⟨path, value, .user⟩]
  | some .assist => [⟨path, value, .assist⟩]
  | _ => []

mutual

def captureItem (above : String) : EngineItem → Option (Option (String × Value) × List Write)
  | .node item children =>
    match item.type with
    | .field => do
        let value ← engine.signals (itemPath above item.key)
        return (value.defined?.map fun found => (item.key, found),
          engine.writeOf (itemPath above item.key) value)
    | .group =>
      if item.repeatable then do
        let count ← engine.rowCount (itemPath above item.key)
        let rows ← (List.range count).mapM fun index =>
          capture (rowPath (itemPath above item.key) index) children []
        return (some (item.key, .array (rows.map fun row => .object row.1)), rows.flatMap (·.2))
      else do
        let (members, writes) ← capture (itemPath above item.key) children []
        return (some (item.key, .object members), writes)
    | .display => some (none, [])

/-- The loop of `capture`, with what it has put so far. -/
def capture (above : String) : List EngineItem → List (String × Value) →
    Option (List (String × Value) × List Write)
  | [], data => some (data, [])
  | item :: items, data => do
      let (property, writes) ← captureItem above item
      let (members, rest) ← capture above items (put data property)
      return (members, writes ++ rest)

end

end FormEngine

/-! ## The replacement -/

structure LocaleDocument where
  locale : String

structure NativeEngineReplacementInput where
  currentEngine : FormEngine
  localeDocuments : List LocaleDocument

inductive BuildStep where
  | loadLocale (document : LocaleDocument)
  | setLocale (locale : String)
  | setValue (write : Write)

inductive UnsupportedReason where
  | creationTimeSourceSeeding
  | dependentFieldChildren

inductive ReplacementStage where
  | opening
  /-- The engine is constructed; the host's signal is not listened to yet. -/
  | constructed (steps : List BuildStep)
  | building (steps : List BuildStep)
  | sources
  | remoteOptions
  | replaced
  | unsupported (reason : UnsupportedReason)
  | failed

inductive SourceOutcome where
  | loaded
  | unavailable
  | failed
  | aborted
deriving DecidableEq

structure Replacement where
  stage : ReplacementStage
  aborted : Bool
  responseData : Option Value
  created : Bool
  /-- `dispose` is subscribed to the signal. -/
  listening : Bool
  disposed : Bool
  adopted : Bool
  disposals : Nat

inductive ReplacementEvent where
  | abort
  /-- The call; whether the guard passes and the factory returns. -/
  | opened (current constructed : Bool)
  /-- The subscription to the signal, and the first check behind it. -/
  | subscribed (current : Bool)
  /-- A step of the construction; false where it throws. -/
  | built (succeeded : Bool)
  /-- The sources are settled; none where the wait ends with an error. -/
  | sources (outcomes : Option (List SourceOutcome)) (current : Bool)
  | remoteOptions (succeeded current : Bool)
  | adopt (current : Bool)
  | dispose

namespace Replacement

def opening : Replacement where
  stage := .opening
  aborted := false
  responseData := none
  created := false
  listening := false
  disposed := false
  adopted := false
  disposals := 0

/-- `dispose()`. -/
def disposeEngine (s : Replacement) : Replacement :=
  if s.disposed || s.adopted then s
  else { s with disposed := true, listening := false, disposals := s.disposals + 1 }

/-- `catch (error) { dispose(); throw error; }`. -/
def fail (s : Replacement) : Replacement := { s.disposeEngine with stage := .failed }

/-- `check()` passes. -/
def checks (s : Replacement) (current : Bool) : Bool := !s.aborted && current && !s.disposed

def onAbort (s : Replacement) : Replacement :=
  if s.aborted then s
  else if s.listening then { s.disposeEngine with aborted := true }
  else { s with aborted := true }

def onOpened (input : NativeEngineReplacementInput) (s : Replacement)
    (current constructed : Bool) : Replacement :=
  let engine := input.currentEngine
  if s.aborted || !current then { s with stage := .failed }
  else if hasCreationTimeSeeding engine.items then
    { s with stage := .unsupported .creationTimeSourceSeeding }
  else if hasDependentFieldChildren engine.items then
    { s with stage := .unsupported .dependentFieldChildren }
  else match engine.capture "" engine.items [] with
    | none => { s with stage := .failed }
    | some (data, writes) =>
      if constructed then { s with
        created := true
        responseData := some (.object data)
        stage := .constructed (input.localeDocuments.map .loadLocale
          ++ .setLocale engine.activeLocale :: writes.map .setValue) }
      else { s with stage := .failed }

def wait (s : Replacement) (stage : ReplacementStage) : Replacement :=
  if s.aborted then s.fail else { s with stage }

def onSubscribed (s : Replacement) (steps : List BuildStep) (current : Bool) : Replacement :=
  let s := { s with listening := true }
  if s.checks current then { s with stage := .building steps } else s.fail

def onBuilt (s : Replacement) (steps : List BuildStep) (succeeded : Bool) : Replacement :=
  match steps with
  | [] => s.wait .sources
  | _ :: rest =>
    if !succeeded then s.fail
    else if rest.isEmpty then s.wait .sources
    else { s with stage := .building rest }

def onSources (s : Replacement) (outcomes : Option (List SourceOutcome)) (current : Bool) :
    Replacement :=
  match outcomes with
  | none => s.fail
  | some outcomes =>
    if !s.checks current || outcomes.any (fun outcome => outcome == .failed || outcome == .aborted) then
      s.fail
    else s.wait .remoteOptions

def onRemoteOptions (s : Replacement) (succeeded current : Bool) : Replacement :=
  if succeeded && s.checks current then { s with stage := .replaced } else s.fail

/-- `adopt()`; a check that fails throws to the caller. -/
def onAdopt (s : Replacement) (current : Bool) : Replacement :=
  if s.checks current && !s.adopted then { s with adopted := true, listening := false } else s

def step (input : NativeEngineReplacementInput) (s : Replacement) :
    ReplacementEvent → Option Replacement
  | .abort => some s.onAbort
  | .opened current constructed =>
    match s.stage with
    | .opening => some (s.onOpened input current constructed)
    | _ => none
  | .subscribed current =>
    match s.stage with
    | .constructed steps => some (s.onSubscribed steps current)
    | _ => none
  | .built succeeded =>
    match s.stage with
    | .building steps => some (s.onBuilt steps succeeded)
    | _ => none
  | .sources outcomes current =>
    match s.stage with
    | .sources => some (s.onSources outcomes current)
    | _ => none
  | .remoteOptions succeeded current =>
    match s.stage with
    | .remoteOptions => some (s.onRemoteOptions succeeded current)
    | _ => none
  | .adopt current =>
    match s.stage with
    | .replaced => some (s.onAdopt current)
    | _ => none
  | .dispose =>
    match s.stage with
    | .replaced => some s.disposeEngine
    | _ => none

end Replacement

end FormspecWeb.Engine
