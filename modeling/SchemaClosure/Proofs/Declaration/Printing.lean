import SchemaClosure.Declaration.Json
import SchemaClosure.Proofs.Json.Reading

namespace SchemaClosure

open Json (isPlain_record isPlain_array_map)

@[simp] theorem TypeRef.isPlain_toJson (type : TypeRef) : type.toJson.isPlain = true := rfl

@[simp] theorem TypeRef.isPlain_listToJson (types : List TypeRef) : (listToJson types).isPlain = true :=
  isPlain_array_map fun type _ => type.isPlain_toJson

@[simp] theorem Accessibility.isPlain_toJson (accessibility : Accessibility) : accessibility.toJson.isPlain = true := rfl

@[simp] theorem Accessibility.isPlain_optionToJson (accessibility? : Option Accessibility) :
    (optionToJson accessibility?).isPlain = true := by
  cases accessibility? <;> rfl

@[simp] theorem TypeKind.isPlain_toJson (kind : TypeKind) : kind.toJson.isPlain = true := rfl

@[simp] theorem KeyValue.isPlain_toJson (value : KeyValue) : value.toJson.isPlain = true := by
  cases value with
  | integer value => exact Json.isPlain_integer_toInt value
  | text value => rfl
  | null => rfl

theorem Attribute.isPlain_toJson (mark : Attribute) : mark.toJson.isPlain = true := by
  cases mark <;> exact isPlain_record (by simp)

@[simp] theorem Attributes.isPlain_toJson (attributes : Attributes) : attributes.toJson.isPlain = true :=
  isPlain_array_map fun mark _ => mark.isPlain_toJson

theorem GenericParameter.isPlain_toJson (parameter : GenericParameter) : parameter.toJson.isPlain = true :=
  isPlain_record (by simp)

theorem Field.isPlain_toJson (field : Field) : field.toJson.isPlain = true := isPlain_record (by simp)

theorem Property.isPlain_toJson (property : Property) : property.toJson.isPlain = true := isPlain_record (by simp)

theorem Parameter.isPlain_toJson (parameter : Parameter) : parameter.toJson.isPlain = true := isPlain_record (by simp)

theorem Constructor.isPlain_toJson (constructor : Constructor) : constructor.toJson.isPlain = true := by
  have hparameters : (Json.array (constructor.parameters.map Parameter.toJson)).isPlain = true :=
    isPlain_array_map fun parameter _ => parameter.isPlain_toJson
  exact isPlain_record (by simp [hparameters])

namespace Declaration

theorem isPlain_toJson (declaration : Declaration) : declaration.toJson.isPlain = true := by
  have hparameters : (Json.array (declaration.parameters.map GenericParameter.toJson)).isPlain = true :=
    isPlain_array_map fun parameter _ => parameter.isPlain_toJson
  have hfields : (Json.array (declaration.fields.map Field.toJson)).isPlain = true :=
    isPlain_array_map fun field _ => field.isPlain_toJson
  have hproperties : (Json.array (declaration.properties.map Property.toJson)).isPlain = true :=
    isPlain_array_map fun property _ => property.isPlain_toJson
  have hconstructors : (Json.array (declaration.constructors.map Constructor.toJson)).isPlain = true :=
    isPlain_array_map fun constructor _ => constructor.isPlain_toJson
  exact isPlain_record (by simp [hparameters, hfields, hproperties, hconstructors])

theorem isPlain_fileOfList (declarations : List Declaration) : (fileOfList declarations).isPlain = true := by
  apply isPlain_record
  rw [List.forall_mem_singleton]
  exact isPlain_array_map fun declaration _ => declaration.isPlain_toJson

end Declaration

end SchemaClosure
