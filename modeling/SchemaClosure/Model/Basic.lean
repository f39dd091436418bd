import SchemaClosure.Diagnostic.Basic
import SchemaClosure.OrderedMap
import SchemaClosure.TypeRef.Printer

namespace SchemaClosure

/-- How the members of an object are keyed on the wire: in an array by integers, or in a map by texts. -/
inductive KeyMode where
  | integer
  | text
  deriving DecidableEq, Repr, Inhabited

def KeyMode.description : KeyMode → String
  | .integer => "integer"
  | .text => "string"

inductive StorageKind where
  | field
  | property
  deriving DecidableEq, Repr

/-- The wire key of a member. The ordinal of a text key fixes its place among the members; it counts them without a bound, so it does not come round after 32 bits. -/
inductive MemberKey where
  | integer (value : Int32)
  | text (ordinal : Nat) (name : String)
  deriving DecidableEq, Repr

namespace MemberKey

def mode : MemberKey → KeyMode
  | .integer _ => .integer
  | .text .. => .text

def integer? : MemberKey → Option Int32
  | .integer value => some value
  | .text .. => none

def text? : MemberKey → Option String
  | .integer _ => none
  | .text _ name => some name

def display : MemberKey → String
  | .integer value => toString value.toInt
  | .text _ name => "\"" ++ name ++ "\""

end MemberKey

structure MemberSchema where
  storageKind : StorageKind
  isReadable : Bool
  isWritable : Bool
  key : MemberKey
  sourceName : String
  declaredType : TypeRef
  /-- A codec written by hand for this member alone. -/
  overrideCodec : Option String
  deriving DecidableEq, Repr

/-- Which callbacks an object receives, and whether each can be reached through the interface only. -/
structure LifecycleHooks where
  hasBeforeEncode : Bool := false
  hasAfterDecode : Bool := false
  beforeEncodeViaInterface : Bool := false
  afterDecodeViaInterface : Bool := false
  deriving DecidableEq, Repr

structure GenericParameterSchema where
  name : String
  constraints : List String
  deriving DecidableEq, Repr

structure ObjectSchema where
  identity : TypeIdentity
  isReferenceType : Bool
  isOpenGeneric : Bool
  genericParameters : List GenericParameterSchema
  /-- The places of the members that go to the constructor, in the order of its parameters; none where a default value is filled in. -/
  constructorBinding : Option (List Nat)
  keyMode : KeyMode
  members : List MemberSchema
  lifecycleHooks : LifecycleHooks
  codecName : String
  namespaceName : Option String
  diagnostics : List Diagnostic
  deriving DecidableEq, Repr

namespace ObjectSchema

def member? (schema : ObjectSchema) (sourceName : String) : Option MemberSchema :=
  schema.members.find? (·.sourceName == sourceName)

def constructorMembers (schema : ObjectSchema) : List MemberSchema :=
  (schema.constructorBinding.getD []).filterMap fun place => schema.members[place]?

end ObjectSchema

structure EnumSchema where
  identity : TypeIdentity
  underlyingType : String
  codecName : String
  namespaceName : Option String
  deriving DecidableEq, Repr

/-- An array, container, optional value or generic type of the user, which is served by a codec with parameters. -/
structure GenericSchema where
  identity : TypeIdentity
  codecExpression : String
  isOpenGeneric : Bool
  deriving DecidableEq, Repr

structure UnionCase where
  discriminator : Int32
  subtype : TypeIdentity
  deriving DecidableEq, Repr

structure UnionSchema where
  identity : TypeIdentity
  subtypes : List UnionCase
  codecName : String
  namespaceName : Option String
  diagnostics : List Diagnostic
  deriving DecidableEq, Repr

inductive Entry where
  | object (schema : ObjectSchema)
  | enumeration (schema : EnumSchema)
  | generic (schema : GenericSchema)
  | union (schema : UnionSchema)
  deriving DecidableEq, Repr

structure Model where
  objects : OrderedMap ObjectSchema := .empty
  enums : OrderedMap EnumSchema := .empty
  generics : OrderedMap GenericSchema := .empty
  unions : OrderedMap UnionSchema := .empty
  deriving DecidableEq

namespace Model

def empty : Model := {}

/-- Adds a finding. Of two generic entries with one identity the first is kept. -/
def record (model : Model) : Entry → Model
  | .object schema => { model with objects := model.objects.insert schema.identity.text schema }
  | .enumeration schema => { model with enums := model.enums.insert schema.identity.text schema }
  | .generic schema => { model with generics := model.generics.insertNew schema.identity.text schema }
  | .union schema => { model with unions := model.unions.insert schema.identity.text schema }

/-- The entries of both models; where both have one, the first model's. -/
def merge (first second : Model) : Model :=
  { objects := first.objects.merge second.objects
    enums := first.enums.merge second.enums
    generics := first.generics.merge second.generics
    unions := first.unions.merge second.unions }

def size (model : Model) : Nat := model.objects.size + model.enums.size + model.generics.size + model.unions.size

def isEmpty (model : Model) : Bool := model.size == 0

/-- The findings about one type that is a union or an object, those about the object first. -/
def diagnosticsOf (model : Model) (identity : String) : List Diagnostic :=
  ((model.objects.find? identity).map (·.diagnostics)).getD [] ++ ((model.unions.find? identity).map (·.diagnostics)).getD []

/-- All findings, in the order of the identities they belong to. -/
def diagnostics (model : Model) : List Diagnostic :=
  (OrderedSet.ofElements (model.objects.keys ++ model.unions.keys)).keys.flatMap model.diagnosticsOf

def hasErrors (model : Model) : Bool := model.diagnostics.any Diagnostic.isError

end Model

end SchemaClosure
