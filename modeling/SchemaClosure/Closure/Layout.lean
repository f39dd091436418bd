import SchemaClosure.Closure.Error
import SchemaClosure.Options
import SchemaClosure.Snapshot.Basic

/-!
The layout of an object: which members take part in serialization, under which keys, and in which order. Candidates are taken one after another; a key belongs to the first candidate that has it.
-/

namespace SchemaClosure

/-- A type that another type leads to, and the member that leads there. -/
structure Edge where
  member : Option String
  target : TypeRef
  deriving DecidableEq, Repr

namespace Edge

def ofType (target : TypeRef) : Edge := ⟨none, target⟩

def ofMember (member : String) (target : TypeRef) : Edge := ⟨some member, target⟩

theorem target_ofType (target : TypeRef) : (ofType target).target = target := rfl

end Edge

structure Candidate where
  storageKind : StorageKind
  name : String
  type : TypeRef
  attributes : Attributes
  isReadable : Bool
  isWritable : Bool
  deriving DecidableEq, Repr

namespace Candidate

def ofField (field : Field) : Candidate :=
  { storageKind := .field, name := field.name, type := field.type, attributes := field.attributes
    isReadable := field.isReadable, isWritable := field.isWritable }

def ofProperty (property : Property) : Candidate :=
  { storageKind := .property, name := property.name, type := property.type, attributes := property.attributes
    isReadable := property.isReadable, isWritable := property.isWritable }

/-- The candidates among the members of a type, properties first. Where members are keyed by name, a property that overrides another is left to the one it overrides. -/
def ofMembers (members : Snapshot.Members) (byName : Bool) : List Candidate :=
  let properties := members.properties.filter fun property => !property.isIndexer && !(byName && property.isOverride)
  let fields := members.fields.filter fun field => !field.isCompilerGenerated
  (properties.map ofProperty ++ fields.map ofField).filter fun candidate =>
    !candidate.attributes.isIgnored && (candidate.isReadable || candidate.isWritable)

def schema (candidate : Candidate) (key : MemberKey) : MemberSchema :=
  { storageKind := candidate.storageKind, isReadable := candidate.isReadable, isWritable := candidate.isWritable, key
    sourceName := candidate.name, declaredType := candidate.type, overrideCodec := candidate.attributes.formatter? }

end Candidate

/-- The members of an object in their order on the wire, the types that they lead to, and what is wrong with them. -/
structure Layout where
  keyMode : KeyMode
  members : List MemberSchema
  edges : List Edge
  diagnostics : List Diagnostic
  deriving DecidableEq, Repr

namespace Layout

/-- A layout in the making. Members stand in the order of their candidates; the kind of keys is open until one is met. -/
structure Draft where
  keyMode : Option KeyMode := none
  members : List MemberSchema := []
  diagnostics : List Diagnostic := []
  deriving DecidableEq, Repr

def subject (identity : TypeIdentity) (member : String) : Subject := { typeName := identity.text, member := some member }

/-- Two members with one key: the first of them keeps it. -/
def duplicateKey (identity : TypeIdentity) (key first second : String) : Diagnostic :=
  { code := .duplicateKey, severity := .error
    message := s!"key {key} of `{identity.text}` is used by both `{first}` and `{second}`"
    labels := [
      { subject := subject identity second, message := s!"key {key} already used" },
      { subject := subject identity first, message := "first used here", isPrimary := false }]
    suggestions := ["give every member a unique key"] }

def missingKey (identity : TypeIdentity) (member : String) : Diagnostic :=
  { code := .missingKey, severity := .error
    message := s!"member `{member}` of `{identity.text}` has no key"
    labels := [{ subject := subject identity member, message := "not serialized" }]
    suggestions := ["add a key attribute or an ignore attribute"] }

def nullKey (identity : TypeIdentity) (member : String) : Diagnostic :=
  { code := .nullKey, severity := .error
    message := s!"key of `{member}` on `{identity.text}` is neither an integer nor a string"
    labels := [{ subject := subject identity member, message := "null key" }] }

def ignoredKey (identity : TypeIdentity) (member : String) : Diagnostic :=
  { code := .ignoredKey, severity := .warning
    message := s!"key on `{member}` is ignored because `{identity.text}` keys members by name"
    labels := [{ subject := subject identity member, message := "key attribute ignored" }] }

def missingObjectAttribute (identity : TypeIdentity) : Diagnostic :=
  { code := .missingObjectAttribute, severity := .error
    message := s!"`{identity.text}` is serialized but not marked as a serializable object"
    labels := [{ subject := { typeName := identity.text }, message := "missing object attribute" }]
    suggestions := ["mark the type with the serializable-object attribute"] }

namespace Draft

def report (draft : Draft) (diagnostic : Diagnostic) : Draft :=
  { draft with diagnostics := draft.diagnostics ++ [diagnostic] }

/-- Adds a candidate under a key, or reports the member that has the key already. -/
def claim (draft : Draft) (identity : TypeIdentity) (candidate : Candidate) (key : MemberKey)
    (owner : Option MemberSchema) : Draft :=
  match owner with
  | some first => draft.report (duplicateKey identity key.display first.sourceName candidate.name)
  | none => { draft with members := draft.members ++ [candidate.schema key] }

def claimInteger (draft : Draft) (identity : TypeIdentity) (candidate : Candidate) (key : Int32) : Draft :=
  draft.claim identity candidate (.integer key) (draft.members.find? fun member => member.key.integer? == some key)

def claimText (draft : Draft) (identity : TypeIdentity) (candidate : Candidate) (name : String) : Draft :=
  draft.claim identity candidate (.text draft.members.length name)
    (draft.members.find? fun member => member.key.text? == some name)

/-- The first key fixes the kind of all keys. -/
def fixMode (draft : Draft) (identity : TypeIdentity) (candidate : Candidate) (mode : KeyMode) : Except CollectError Draft :=
  match draft.keyMode with
  | none => .ok { draft with keyMode := some mode }
  | some expected => if expected = mode then .ok draft else .error (.mixedKeys identity candidate.name expected)

def takeByName (identity : TypeIdentity) (warn : Bool) (draft : Draft) (candidate : Candidate) : Draft :=
  let draft := if warn && candidate.attributes.key?.isSome then draft.report (ignoredKey identity candidate.name) else draft
  draft.claimText identity candidate candidate.name

/-- Takes a candidate that is keyed by its attribute. On a marked type every candidate should have one. -/
def takeByKey (identity : TypeIdentity) (marked : Bool) (draft : Draft) (candidate : Candidate) : Except CollectError Draft :=
  match candidate.attributes.key? with
  | none => .ok (if marked then draft.report (missingKey identity candidate.name) else draft)
  | some .null => .ok (draft.report (nullKey identity candidate.name))
  | some (.integer key) => (draft.fixMode identity candidate .integer).map fun draft => draft.claimInteger identity candidate key
  | some (.text name) => (draft.fixMode identity candidate .text).map fun draft => draft.claimText identity candidate name

/-- Members with integer keys go in the order of their keys, others stay in the order of their candidates. -/
def arrange (mode : KeyMode) (members : List MemberSchema) : List MemberSchema :=
  match mode with
  | .integer => members.mergeSort fun first second => (first.key.integer?.getD 0).toInt ≤ (second.key.integer?.getD 0).toInt
  | .text => members

/-- A member leads to its type unless it has a codec of its own. -/
def edge? (member : MemberSchema) : Option Edge :=
  if member.overrideCodec.isNone then some (.ofMember member.sourceName member.declaredType) else none

def finish (draft : Draft) : Layout :=
  let keyMode := draft.keyMode.getD .integer
  { keyMode, members := arrange keyMode draft.members, edges := draft.members.filterMap edge?
    diagnostics := draft.diagnostics }

end Draft

/-- Lays out the members of a type. A type that is forced or asks to be a map keys all candidates by name. -/
def ofMembers (options : Options) (identity : TypeIdentity) (attributes : Attributes) (members : Snapshot.Members) :
    Except CollectError Layout :=
  let asksForNames := attributes.object? == some true
  let marked := attributes.object?.isSome
  let start : Draft := { diagnostics := if marked then [] else [missingObjectAttribute identity] }
  if options.forceMapMode || asksForNames then
    .ok ((Candidate.ofMembers members true).foldl (Draft.takeByName identity asksForNames)
      { start with keyMode := some .text }).finish
  else ((Candidate.ofMembers members false).foldlM (Draft.takeByKey identity marked) start).map Draft.finish

end Layout

end SchemaClosure
