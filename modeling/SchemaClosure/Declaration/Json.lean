import SchemaClosure.Declaration.Basic
import SchemaClosure.Json.Numeral
import SchemaClosure.Json.Record
import SchemaClosure.TypeRef.Parser

/-!
Declarations as JSON records. Writing gives every field of a record, with null for what is absent; reading asks for the few fields that have no default. Types are texts.
-/

namespace SchemaClosure

namespace TypeRef

def toJson (type : TypeRef) : Json := .text type.render

def ofJson? (value : Json) : Option TypeRef := value.text?.bind fun text => (parse text).toOption

def listToJson (types : List TypeRef) : Json := .array (types.map toJson)

end TypeRef

namespace Accessibility

def keyword : Accessibility → String
  | .publicAccess => "public"
  | .internalAccess => "internal"
  | .protectedAccess => "protected"
  | .protectedInternal => "protected_internal"
  | .privateProtected => "private_protected"
  | .privateAccess => "private"

def all : List Accessibility :=
  [.publicAccess, .internalAccess, .protectedAccess, .protectedInternal, .privateProtected, .privateAccess]

def toJson (accessibility : Accessibility) : Json := .text accessibility.keyword

def ofJson? : Json → Option Accessibility := Json.choice? (all.map fun level => (level.keyword, level))

def optionToJson (accessibility? : Option Accessibility) : Json := (accessibility?.map toJson).getD .null

end Accessibility

namespace TypeKind

def keyword : TypeKind → String
  | .classType => "class"
  | .structType => "struct"
  | .interfaceType => "interface"
  | .enumType => "enum"

def all : List TypeKind := [.classType, .structType, .interfaceType, .enumType]

def toJson (kind : TypeKind) : Json := .text kind.keyword

def ofJson? : Json → Option TypeKind := Json.choice? (all.map fun kind => (kind.keyword, kind))

end TypeKind

namespace KeyValue

def toJson : KeyValue → Json
  | .integer value => .integer value.toInt
  | .text value => .text value
  | .null => .null

def ofJson? : Json → Option KeyValue
  | .null => some .null
  | .string content => content.map .text
  | value => value.int32?.map .integer

end KeyValue

namespace Attribute

def toJson : Attribute → Json
  | .serializableObject keyAsPropertyName =>
    .record [("kind", .text "serializable_object"), ("key_as_property_name", .boolean keyAsPropertyName)]
  | .union discriminator subtype =>
    .record [("kind", .text "union"), ("discriminator", .integer discriminator.toInt), ("subtype", subtype.toJson)]
  | .serializationConstructor => .record [("kind", .text "serialization_constructor")]
  | .key value => .record [("kind", .text "key"), ("value", value.toJson)]
  | .ignoreMember => .record [("kind", .text "ignore_member")]
  | .ignoreDataMember => .record [("kind", .text "ignore_data_member")]
  | .customFormatter formatter => .record [("kind", .text "custom_formatter"), ("formatter", .text formatter)]

def fieldsOfKind : List (String × List String) := [
  ("serializable_object", ["key_as_property_name"]), ("union", ["discriminator", "subtype"]),
  ("serialization_constructor", []), ("key", ["value"]), ("ignore_member", []), ("ignore_data_member", []),
  ("custom_formatter", ["formatter"])]

def ofRecord? (kind : String) (record : Record) : Option Attribute :=
  match kind with
  | "serializable_object" => (record.optional "key_as_property_name" false Json.boolean?).map .serializableObject
  | "union" => do
    let discriminator ← record.required "discriminator" Json.int32?
    let subtype ← record.required "subtype" TypeRef.ofJson?
    return .union discriminator subtype
  | "serialization_constructor" => some .serializationConstructor
  | "key" => (record.required "value" KeyValue.ofJson?).map .key
  | "ignore_member" => some .ignoreMember
  | "ignore_data_member" => some .ignoreDataMember
  | "custom_formatter" => (record.required "formatter" Json.text?).map .customFormatter
  | _ => none

/-- The kind of an attribute and the record of its other fields: an object with one member `kind`, or an array that begins with the kind. -/
def taggedRecord? : Json → Option (String × Record)
  | .object members => do
    let [(_, kind)] := members.filter (·.1 == some "kind") | none
    let kind ← kind.text?
    let names ← fieldsOfKind.lookup kind
    return (kind, ← Record.ofMembers? names (members.filter (·.1 != some "kind")))
  | .array (kind :: items) => do
    let kind ← kind.text?
    let names ← fieldsOfKind.lookup kind
    return (kind, ← Record.ofItems? names items)
  | _ => none

def ofJson? (value : Json) : Option Attribute := do
  guard value.isReadable
  let (kind, record) ← taggedRecord? value
  ofRecord? kind record

end Attribute

namespace Attributes

def toJson (attributes : Attributes) : Json := .array (attributes.map Attribute.toJson)

/-- How many arrays and objects may stand around one another in a file where attributes are read. -/
def nestingLimit : Nat := 127

/-- Reads attributes that stand inside `outer` arrays and objects, the array of the attributes itself not counted. -/
def ofJson? (outer : Nat) (value : Json) : Option Attributes := do
  guard (outer + value.depth ≤ nestingLimit)
  value.list? Attribute.ofJson?

end Attributes

namespace GenericParameter

def fieldNames : List String := ["name", "not_null", "reference_type", "nullable_reference_type", "value_type", "unmanaged",
  "constraint_types", "default_constructor"]

def toJson (parameter : GenericParameter) : Json := .record [
  ("name", .text parameter.name), ("not_null", .boolean parameter.notNull),
  ("reference_type", .boolean parameter.referenceType), ("nullable_reference_type", .boolean parameter.nullableReferenceType),
  ("value_type", .boolean parameter.valueType), ("unmanaged", .boolean parameter.unmanaged),
  ("constraint_types", TypeRef.listToJson parameter.constraintTypes),
  ("default_constructor", .boolean parameter.defaultConstructor)]

def ofJson? (value : Json) : Option GenericParameter := do
  let record ← Record.ofJson? fieldNames value
  return {
    name := ← record.optional "name" "" Json.text?
    notNull := ← record.optional "not_null" false Json.boolean?
    referenceType := ← record.optional "reference_type" false Json.boolean?
    nullableReferenceType := ← record.optional "nullable_reference_type" false Json.boolean?
    valueType := ← record.optional "value_type" false Json.boolean?
    unmanaged := ← record.optional "unmanaged" false Json.boolean?
    constraintTypes := ← record.optional "constraint_types" [] (Json.list? TypeRef.ofJson?)
    defaultConstructor := ← record.optional "default_constructor" false Json.boolean? }

end GenericParameter

namespace Field

def fieldNames : List String := ["name", "type", "accessibility", "is_readonly", "is_static", "is_compiler_generated", "attributes"]

def toJson (field : Field) : Json := .record [
  ("name", .text field.name), ("type", field.type.toJson), ("accessibility", field.accessibility.toJson),
  ("is_readonly", .boolean field.isReadonly), ("is_static", .boolean field.isStatic),
  ("is_compiler_generated", .boolean field.isCompilerGenerated), ("attributes", field.attributes.toJson)]

/-- A field of a declaration stands five deep in its file. -/
def ofJson? (value : Json) : Option Field := do
  let record ← Record.ofJson? fieldNames value
  return {
    name := ← record.required "name" Json.text?
    type := ← record.required "type" TypeRef.ofJson?
    accessibility := ← record.optional "accessibility" .publicAccess Accessibility.ofJson?
    isReadonly := ← record.optional "is_readonly" false Json.boolean?
    isStatic := ← record.optional "is_static" false Json.boolean?
    isCompilerGenerated := ← record.optional "is_compiler_generated" false Json.boolean?
    attributes := ← record.optional "attributes" [] (Attributes.ofJson? 5) }

end Field

namespace Property

def fieldNames : List String := ["name", "type", "getter", "setter", "is_static", "is_indexer", "is_override", "attributes"]

def toJson (property : Property) : Json := .record [
  ("name", .text property.name), ("type", property.type.toJson), ("getter", Accessibility.optionToJson property.getter),
  ("setter", Accessibility.optionToJson property.setter), ("is_static", .boolean property.isStatic),
  ("is_indexer", .boolean property.isIndexer), ("is_override", .boolean property.isOverride),
  ("attributes", property.attributes.toJson)]

/-- An accessor that is not mentioned is public; one that is null is absent. -/
def ofJson? (value : Json) : Option Property := do
  let record ← Record.ofJson? fieldNames value
  return {
    name := ← record.required "name" Json.text?
    type := ← record.required "type" TypeRef.ofJson?
    getter := ← record.optional "getter" (some .publicAccess) (Json.nullable? Accessibility.ofJson?)
    setter := ← record.optional "setter" (some .publicAccess) (Json.nullable? Accessibility.ofJson?)
    isStatic := ← record.optional "is_static" false Json.boolean?
    isIndexer := ← record.optional "is_indexer" false Json.boolean?
    isOverride := ← record.optional "is_override" false Json.boolean?
    attributes := ← record.optional "attributes" [] (Attributes.ofJson? 5) }

end Property

namespace Parameter

def toJson (parameter : Parameter) : Json := .record [("name", .text parameter.name), ("type", parameter.type.toJson)]

def ofJson? (value : Json) : Option Parameter := do
  let record ← Record.ofJson? ["name", "type"] value
  return { name := ← record.required "name" Json.text?, type := ← record.required "type" TypeRef.ofJson? }

end Parameter

namespace Constructor

def toJson (constructor : Constructor) : Json := .record [
  ("accessibility", constructor.accessibility.toJson), ("params", .array (constructor.parameters.map Parameter.toJson)),
  ("attributes", constructor.attributes.toJson)]

def ofJson? (value : Json) : Option Constructor := do
  let record ← Record.ofJson? ["accessibility", "params", "attributes"] value
  return {
    accessibility := ← record.optional "accessibility" .publicAccess Accessibility.ofJson?
    parameters := ← record.optional "params" [] (Json.list? Parameter.ofJson?)
    attributes := ← record.optional "attributes" [] (Attributes.ofJson? 5) }

end Constructor

namespace Declaration

def fieldNames : List String := ["name", "kind", "is_abstract", "accessibility", "namespace", "containing_type", "external",
  "type_params", "attributes", "base", "interfaces", "fields", "properties", "constructors", "methods", "enum_underlying"]

def toJson (declaration : Declaration) : Json := .record [
  ("name", .text declaration.name), ("kind", declaration.kind.toJson), ("is_abstract", .boolean declaration.isAbstract),
  ("accessibility", declaration.accessibility.toJson), ("namespace", .optionalText declaration.namespaceName),
  ("containing_type", .optionalText declaration.containingType), ("external", .boolean declaration.isExternal),
  ("type_params", .array (declaration.parameters.map GenericParameter.toJson)),
  ("attributes", declaration.attributes.toJson), ("base", .optionalText (declaration.base.map TypeRef.render)),
  ("interfaces", TypeRef.listToJson declaration.interfaces), ("fields", .array (declaration.fields.map Field.toJson)),
  ("properties", .array (declaration.properties.map Property.toJson)),
  ("constructors", .array (declaration.constructors.map Constructor.toJson)), ("methods", .texts declaration.methods),
  ("enum_underlying", .optionalText declaration.underlyingType)]

/-- A declaration stands three deep in its file. -/
def ofJson? (value : Json) : Option Declaration := do
  let record ← Record.ofJson? fieldNames value
  return {
    name := ← record.optional "name" "" Json.text?
    kind := ← record.optional "kind" .classType TypeKind.ofJson?
    isAbstract := ← record.optional "is_abstract" false Json.boolean?
    accessibility := ← record.optional "accessibility" .publicAccess Accessibility.ofJson?
    namespaceName := ← record.optional "namespace" none (Json.nullable? Json.text?)
    containingType := ← record.optional "containing_type" none (Json.nullable? Json.text?)
    isExternal := ← record.optional "external" false Json.boolean?
    parameters := ← record.optional "type_params" [] (Json.list? GenericParameter.ofJson?)
    attributes := ← record.optional "attributes" [] (Attributes.ofJson? 3)
    base := ← record.optional "base" none (Json.nullable? TypeRef.ofJson?)
    interfaces := ← record.optional "interfaces" [] (Json.list? TypeRef.ofJson?)
    fields := ← record.optional "fields" [] (Json.list? Field.ofJson?)
    properties := ← record.optional "properties" [] (Json.list? Property.ofJson?)
    constructors := ← record.optional "constructors" [] (Json.list? Constructor.ofJson?)
    methods := ← record.optional "methods" [] (Json.list? Json.text?)
    underlyingType := ← record.optional "enum_underlying" none (Json.nullable? Json.text?) }

/-- Reads the declarations of a snapshot file: a record whose only field is the list of its types. -/
def listOfFile? (file : Json) : Option (List Declaration) := do
  let record ← Record.ofJsonExactly? ["types"] file
  record.optional "types" [] (Json.list? Declaration.ofJson?)

def fileOfList (declarations : List Declaration) : Json := .record [("types", .array (declarations.map toJson))]

end Declaration

end SchemaClosure
