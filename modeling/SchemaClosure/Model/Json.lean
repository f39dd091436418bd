import SchemaClosure.Json.Printer
import SchemaClosure.Model.Basic

namespace SchemaClosure

def KeyMode.toJson : KeyMode → Json
  | .integer => .text "int"
  | .text => .text "string"

def StorageKind.toJson : StorageKind → Json
  | .field => .text "field"
  | .property => .text "property"

def MemberKey.toJson : MemberKey → Json
  | .integer value => .integer value.toInt
  | .text ordinal name => .record [("ordinal", .natural ordinal), ("name", .text name)]

def MemberSchema.toJson (schema : MemberSchema) : Json := .record ([
  ("storage_kind", schema.storageKind.toJson), ("is_readable", .boolean schema.isReadable),
  ("is_writable", .boolean schema.isWritable), ("key", schema.key.toJson), ("source_name", .text schema.sourceName),
  ("declared_type", .text schema.declaredType.render)] ++
  schema.overrideCodec.toList.map fun codec => ("override_codec", .text codec))

def LifecycleHooks.toJson (hooks : LifecycleHooks) : Json := .record [
  ("has_before_encode", .boolean hooks.hasBeforeEncode), ("has_after_decode", .boolean hooks.hasAfterDecode),
  ("before_encode_via_interface", .boolean hooks.beforeEncodeViaInterface),
  ("after_decode_via_interface", .boolean hooks.afterDecodeViaInterface)]

def GenericParameterSchema.toJson (schema : GenericParameterSchema) : Json :=
  .record [("name", .text schema.name), ("constraints", .texts schema.constraints)]

def ObjectSchema.toJson (schema : ObjectSchema) : Json := .record [
  ("identity", .text schema.identity.text), ("is_reference_type", .boolean schema.isReferenceType),
  ("is_open_generic", .boolean schema.isOpenGeneric),
  ("generic_parameters", .array (schema.genericParameters.map GenericParameterSchema.toJson)),
  ("constructor_binding", (schema.constructorBinding.map fun places => .array (places.map .natural)).getD .null),
  ("key_mode", schema.keyMode.toJson), ("members", .array (schema.members.map MemberSchema.toJson)),
  ("lifecycle_hooks", schema.lifecycleHooks.toJson), ("codec_name", .text schema.codecName),
  ("namespace", .optionalText schema.namespaceName), ("diagnostics", .array (schema.diagnostics.map Diagnostic.toJson))]

def EnumSchema.toJson (schema : EnumSchema) : Json := .record [
  ("identity", .text schema.identity.text), ("underlying_integer_type", .text schema.underlyingType),
  ("codec_name", .text schema.codecName), ("namespace", .optionalText schema.namespaceName)]

def GenericSchema.toJson (schema : GenericSchema) : Json := .record [
  ("instantiation_identity", .text schema.identity.text), ("codec_expression", .text schema.codecExpression),
  ("is_open_generic", .boolean schema.isOpenGeneric)]

def UnionCase.toJson (case : UnionCase) : Json :=
  .record [("discriminator", .integer case.discriminator.toInt), ("subtype", .text case.subtype.text)]

def UnionSchema.toJson (schema : UnionSchema) : Json := .record [
  ("identity", .text schema.identity.text), ("subtypes", .array (schema.subtypes.map UnionCase.toJson)),
  ("codec_name", .text schema.codecName), ("namespace", .optionalText schema.namespaceName),
  ("diagnostics", .array (schema.diagnostics.map Diagnostic.toJson))]

namespace Model

def mapToJson {α : Type} (toJson : α → Json) (map : OrderedMap α) : Json :=
  .record (map.entries.map fun (key, value) => (key, toJson value))

def toJson (model : Model) : Json := .record [
  ("objects", mapToJson ObjectSchema.toJson model.objects), ("enums", mapToJson EnumSchema.toJson model.enums),
  ("generics", mapToJson GenericSchema.toJson model.generics), ("unions", mapToJson UnionSchema.toJson model.unions)]

end Model

end SchemaClosure
