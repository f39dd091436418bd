import SchemaClosure.Model.Basic

namespace SchemaClosure

def StorageKind.word : StorageKind → String
  | .field => "field"
  | .property => "property"

def MemberSchema.listing (schema : MemberSchema) : String :=
  s!"    {schema.key.display} {schema.storageKind.word} {schema.sourceName}: {schema.declaredType.render}" ++
    ((schema.overrideCodec.map fun codec => " via " ++ codec).getD "") ++ "\n"

namespace ObjectSchema

def layoutWord : KeyMode → String
  | .integer => "array"
  | .text => "map"

def constructorLine (schema : ObjectSchema) : String :=
  match schema.constructorBinding with
  | some _ => "    new(" ++ String.intercalate ", " (schema.constructorMembers.map (·.sourceName)) ++ ")\n"
  | none => "    default value\n"

def listing (schema : ObjectSchema) : String :=
  s!"  {schema.identity.text} => {schema.codecName} [{layoutWord schema.keyMode}" ++
    (if schema.isOpenGeneric then ", open over " ++ String.intercalate ", " (schema.genericParameters.map (·.name)) else "") ++
    "]\n" ++ String.join (schema.members.map MemberSchema.listing) ++ schema.constructorLine ++
    (if schema.lifecycleHooks.hasBeforeEncode || schema.lifecycleHooks.hasAfterDecode then
      "    callbacks: before-encode, after-decode\n"
    else "")

end ObjectSchema

def EnumSchema.listing (schema : EnumSchema) : String :=
  s!"  {schema.identity.text} : {schema.underlyingType} => {schema.codecName}\n"

def GenericSchema.listing (schema : GenericSchema) : String :=
  s!"  {schema.identity.text} => {schema.codecExpression}" ++ (if schema.isOpenGeneric then " (open)" else "") ++ "\n"

def UnionSchema.listing (schema : UnionSchema) : String :=
  s!"  {schema.identity.text} => {schema.codecName}\n" ++
    String.join (schema.subtypes.map fun case => s!"    {case.discriminator.toInt} : {case.subtype.text}\n")

def Model.listing (model : Model) : String :=
  "objects:\n" ++ String.join (model.objects.values.map ObjectSchema.listing) ++
  "enums:\n" ++ String.join (model.enums.values.map EnumSchema.listing) ++
  "generics:\n" ++ String.join (model.generics.values.map GenericSchema.listing) ++
  "unions:\n" ++ String.join (model.unions.values.map UnionSchema.listing)

end SchemaClosure
