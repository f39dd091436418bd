import SchemaClosure.Closure.Binding
import SchemaClosure.Closure.Layout

namespace SchemaClosure

namespace CodecName

/-- The codec of an object or an enum. A generic definition keeps its bare name; a nested type is joined to the types around it. -/
def ofDeclaration (declaration : Declaration) : String :=
  if declaration.isGeneric then declaration.simpleName
  else String.ofList (declaration.relativeName.toList.map fun c => if c = '.' then '_' else c)

def ofArguments (arguments : List TypeRef) : String :=
  String.intercalate ", " (arguments.map fun argument => argument.identity.text)

/-- The codec of a generic type of the user, applied to type arguments. -/
def ofInstantiation (declaration : Declaration) (arguments : List TypeRef) : String :=
  "Formatters::" ++ ((declaration.namespaceName.map (· ++ ".")).getD "") ++ declaration.simpleName ++ "Formatter<" ++
    ofArguments arguments ++ ">"

end CodecName

/-- What a collection works on. -/
structure Context where
  snapshot : Snapshot
  options : Options
  deriving DecidableEq

namespace Context

def callbackReceiver : String := "MessagePack.IMessagePackSerializationCallbackReceiver"

def beforeEncodeMethod : String := "OnBeforeSerialize"

def afterDecodeMethod : String := "OnAfterDeserialize"

/-- A callback that the type does not declare itself can be reached through the interface only. -/
def lifecycleHooks (context : Context) (type : TypeRef) : LifecycleHooks :=
  if context.snapshot.implementsInterface type callbackReceiver then
    { hasBeforeEncode := true
      hasAfterDecode := true
      beforeEncodeViaInterface := !context.snapshot.declaresMethod type beforeEncodeMethod
      afterDecodeViaInterface := !context.snapshot.declaresMethod type afterDecodeMethod }
  else {}

/-- The layout of a declared type; none if there are more than `limit` declarations to inherit from. -/
def layout (context : Context) (limit : Nat) (type : TypeRef) (declaration : Declaration) :
    Option (Except CollectError Layout) :=
  (context.snapshot.members limit type).map fun members =>
    Layout.ofMembers context.options type.identity declaration.attributes members

def objectOfLayout (context : Context) (type : TypeRef) (declaration : Declaration) (layout : Layout) :
    Except CollectError ObjectSchema :=
  let isReferenceType := declaration.kind.isReference
  match Binding.bind (context.snapshot.constructors type) layout.members layout.keyMode isReferenceType with
  | .error failure => .error (.noViableConstructor type.identity failure)
  | .ok constructorBinding => .ok {
      identity := type.identity
      isReferenceType
      isOpenGeneric := declaration.isGeneric
      genericParameters := declaration.parameters.map fun parameter => ⟨parameter.name, parameter.constraints⟩
      constructorBinding
      keyMode := layout.keyMode
      members := layout.members
      lifecycleHooks := context.lifecycleHooks type
      codecName := CodecName.ofDeclaration declaration
      namespaceName := declaration.namespaceName
      diagnostics := layout.diagnostics }

def resolveObject (context : Context) (limit : Nat) (type : TypeRef) (declaration : Declaration) :
    Option (Except CollectError (ObjectSchema × List Edge)) :=
  (context.layout limit type declaration).map fun layout => do
    let layout ← layout
    let schema ← context.objectOfLayout type declaration layout
    return (schema, layout.edges)

end Context

namespace UnionSchema

/-- Two cases with one discriminator: the first of them keeps it. -/
def duplicateDiscriminator (identity : TypeIdentity) (discriminator : Int32) (first second : TypeRef) : Diagnostic :=
  { code := .duplicateDiscriminator, severity := .error
    message := s!"discriminator {discriminator.toInt} of `{identity.text}` is declared for both `{first.render}` and `{second.render}`"
    labels := [
      { subject := { typeName := identity.text, member := some second.render }
        message := s!"discriminator {discriminator.toInt} already taken" },
      { subject := { typeName := identity.text, member := some first.render }, message := "first declared here"
        isPrimary := false }] }

def foreignSubtype (identity : TypeIdentity) (discriminator : Int32) (subtype : TypeRef) : Diagnostic :=
  { code := .foreignSubtype, severity := .error
    message := s!"`{subtype.render}` does not derive from `{identity.text}`"
    labels := [
      { subject := { typeName := identity.text, member := some subtype.render }
        message := s!"declared as subtype {discriminator.toInt}" }] }

/-- The cases that are kept so far, latest first, and what is wrong with the declared ones. -/
structure Draft where
  kept : List (Int32 × TypeRef) := []
  diagnostics : List Diagnostic := []
  deriving DecidableEq, Repr

/-- Takes a declared case. The first case with a discriminator is kept, even where its subtype is not below the base. -/
def Draft.take (snapshot : Snapshot) (base : TypeRef) (draft : Draft) (case : Int32 × TypeRef) : Draft :=
  match draft.kept.lookup case.1 with
  | some first =>
    { draft with diagnostics := draft.diagnostics ++ [duplicateDiscriminator base.identity case.1 first case.2] }
  | none =>
    { kept := case :: draft.kept
      diagnostics := draft.diagnostics ++
        if snapshot.isSubtype case.2 base then [] else [foreignSubtype base.identity case.1 case.2] }

/-- Declared cases in the order of their discriminators; cases with one discriminator keep their order. -/
def sortCases (cases : List (Int32 × TypeRef)) : List (Int32 × TypeRef) :=
  cases.mergeSort fun first second => first.1.toInt ≤ second.1.toInt

end UnionSchema

def Context.resolveUnion (context : Context) (type : TypeRef) (declaration : Declaration) :
    Except CollectError (UnionSchema × List Edge) :=
  let cases := declaration.attributes.unions
  if cases.isEmpty then .error (.missingUnion type.identity)
  else
    let draft := (UnionSchema.sortCases cases).foldl (UnionSchema.Draft.take context.snapshot type) {}
    let kept := draft.kept.reverse
    .ok ({
      identity := type.identity
      subtypes := kept.map fun (discriminator, subtype) => ⟨discriminator, subtype.identity⟩
      codecName := declaration.simpleName
      namespaceName := declaration.namespaceName
      diagnostics := draft.diagnostics }, kept.map fun (_, subtype) => .ofType subtype)

end SchemaClosure
