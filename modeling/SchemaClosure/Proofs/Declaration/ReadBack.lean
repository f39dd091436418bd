import SchemaClosure.Declaration.Json
import SchemaClosure.Proofs.Declaration.Types
import SchemaClosure.Proofs.Json.Decoding
import SchemaClosure.Proofs.TypeRef.Rendering

namespace SchemaClosure

/-- What is read of the text of a type. -/
def TypeRef.ReadAs (view : TypeRef → TypeRef) (type : TypeRef) : Prop := ofJson? type.toJson = some (view type)

namespace TypeRef

variable {type : TypeRef} {view : TypeRef → TypeRef}

theorem readAs_forgetParameters {scope : List String} (h : type.isLegible scope = true) : type.ReadAs forgetParameters := by
  have htext : ofJson? type.toJson = (parse type.render).toOption := rfl
  rw [ReadAs, htext, parse_render h]
  rfl

/-- A type that came from a text is read back as it is. -/
theorem readAs_id (h : type.isLegible [] = true) : type.ReadAs id := by
  rw [ReadAs, readAs_forgetParameters h, forgetParameters_eq_self (isOpen_eq_false_of_isLegible h)]
  rfl

theorem list?_listToJson {types : List TypeRef} (h : ∀ type ∈ types, type.ReadAs view) :
    Json.list? ofJson? (listToJson types) = some (types.map view) :=
  Json.list?_array_map h

end TypeRef

theorem Accessibility.ofJson?_toJson (accessibility : Accessibility) : ofJson? accessibility.toJson = some accessibility := by
  cases accessibility <;> rfl

theorem Accessibility.nullable?_optionToJson (accessibility? : Option Accessibility) :
    Json.nullable? ofJson? (optionToJson accessibility?) = some accessibility? := by
  cases accessibility? with
  | none => rfl
  | some accessibility => cases accessibility <;> rfl

theorem TypeKind.ofJson?_toJson (kind : TypeKind) : ofJson? kind.toJson = some kind := by
  cases kind <;> rfl

theorem KeyValue.ofJson?_toJson (value : KeyValue) : ofJson? value.toJson = some value := by
  cases value with
  | integer value =>
    have hinteger : ofJson? (toJson (.integer value)) = (Json.int32? (.integer value.toInt)).map .integer := rfl
    rw [hinteger, Json.int32?_integer_toInt]
    rfl
  | text value => rfl
  | null => rfl

variable {view : TypeRef → TypeRef}

namespace Attribute

theorem ofJson?_toJson {mark : Attribute} (h : ∀ case ∈ Attributes.unions [mark], case.2.ReadAs view) :
    ofJson? mark.toJson = some (mark.mapType view) := by
  cases mark with
  | serializableObject keyAsPropertyName => rfl
  | union discriminator subtype =>
    have hunion : ofJson? (toJson (.union discriminator subtype)) = do
        return .union (← Json.int32? (.integer discriminator.toInt)) (← TypeRef.ofJson? subtype.toJson) := rfl
    have hsubtype : TypeRef.ofJson? subtype.toJson = some (view subtype) := h (discriminator, subtype) List.mem_cons_self
    rw [hunion, Json.int32?_integer_toInt, hsubtype]
    rfl
  | serializationConstructor => rfl
  | key value =>
    have hkey : ofJson? (toJson (.key value)) = (KeyValue.ofJson? value.toJson).map .key := by
      cases value <;> rfl
    rw [hkey, KeyValue.ofJson?_toJson]
    rfl
  | ignoreMember => rfl
  | ignoreDataMember => rfl
  | customFormatter formatter => rfl

theorem depth_toJson (mark : Attribute) : mark.toJson.depth = 1 := by
  cases mark with
  | key value => cases value <;> rfl
  | _ => rfl

end Attribute

namespace Attributes

theorem depth_toJson_le (attributes : Attributes) : attributes.toJson.depth ≤ 2 := by
  have hitems : Json.itemsDepth (attributes.map Attribute.toJson) ≤ 1 := by
    induction attributes with
    | nil => exact Nat.zero_le 1
    | cons mark rest ih =>
      rw [List.map_cons, Json.itemsDepth, Attribute.depth_toJson]
      exact Nat.max_le.mpr ⟨Nat.le_refl 1, ih⟩
  rw [toJson, Json.depth]
  exact Nat.succ_le_succ hitems

/-- Written attributes are flat, so they are never too deep for a file. -/
theorem ofJson?_toJson {attributes : Attributes} {outer : Nat} (houter : outer + 2 ≤ nestingLimit)
    (h : ∀ case ∈ attributes.unions, case.2.ReadAs view) :
    ofJson? outer attributes.toJson = some (attributes.map (Attribute.mapType view)) := by
  have hdepth : outer + attributes.toJson.depth ≤ nestingLimit :=
    Nat.le_trans (Nat.add_le_add_left (depth_toJson_le attributes) outer) houter
  have hlist : Json.list? Attribute.ofJson? attributes.toJson = some (attributes.map (Attribute.mapType view)) :=
    Json.list?_array_map fun mark hmark => Attribute.ofJson?_toJson fun case hcase => h case (mem_unions_of_mem hmark hcase)
  rw [ofJson?, guard, if_pos hdepth]
  exact hlist

/-- On a member a union attribute mentions nothing, but its subtype came from a text. -/
theorem ofJson?_toJson_self {attributes : Attributes} {outer : Nat} (houter : outer + 2 ≤ nestingLimit)
    (h : attributes.IsRead) : ofJson? outer attributes.toJson = some attributes := by
  rw [ofJson?_toJson houter fun case hcase => TypeRef.readAs_id (h case hcase), Declaration.map_eq_self]
  exact fun mark _ => Attribute.mapType_eq_self fun case _ => rfl

end Attributes

theorem GenericParameter.ofJson?_toJson {parameter : GenericParameter} (h : ∀ type ∈ parameter.constraintTypes, type.ReadAs view) :
    ofJson? parameter.toJson = some { parameter with constraintTypes := parameter.constraintTypes.map view } := by
  have hrecord : Record.ofJson? fieldNames parameter.toJson = some ⟨_⟩ :=
    Record.ofJson?_record (by simp [fieldNames]) (by simp)
  have hfields : ofJson? parameter.toJson = do
      return { parameter with constraintTypes := ← Json.list? TypeRef.ofJson? (TypeRef.listToJson parameter.constraintTypes) } := by
    rw [ofJson?, hrecord]
    rfl
  rw [hfields, TypeRef.list?_listToJson h]
  rfl

theorem Field.ofJson?_toJson {field : Field} (htype : field.type.ReadAs view)
    (hattributes : field.attributes.IsRead) :
    ofJson? field.toJson = some { field with type := view field.type } := by
  have hrecord : Record.ofJson? fieldNames field.toJson = some ⟨_⟩ :=
    Record.ofJson?_record (by simp [fieldNames]) (by simp)
  have hfields : ofJson? field.toJson = do
      let type ← TypeRef.ofJson? field.type.toJson
      let accessibility ← Accessibility.ofJson? field.accessibility.toJson
      let attributes ← Attributes.ofJson? 5 field.attributes.toJson
      return { field with type, accessibility, attributes } := by
    rw [ofJson?, hrecord]
    rfl
  rw [hfields, htype, Accessibility.ofJson?_toJson, Attributes.ofJson?_toJson_self (by decide) hattributes]
  rfl

theorem Property.ofJson?_toJson {property : Property} (htype : property.type.ReadAs view)
    (hattributes : property.attributes.IsRead) :
    ofJson? property.toJson = some { property with type := view property.type } := by
  have hrecord : Record.ofJson? fieldNames property.toJson = some ⟨_⟩ :=
    Record.ofJson?_record (by simp [fieldNames]) (by simp)
  have hfields : ofJson? property.toJson = do
      let type ← TypeRef.ofJson? property.type.toJson
      let getter ← Json.nullable? Accessibility.ofJson? (Accessibility.optionToJson property.getter)
      let setter ← Json.nullable? Accessibility.ofJson? (Accessibility.optionToJson property.setter)
      let attributes ← Attributes.ofJson? 5 property.attributes.toJson
      return { property with type, getter, setter, attributes } := by
    rw [ofJson?, hrecord]
    rfl
  rw [hfields, htype, Accessibility.nullable?_optionToJson, Accessibility.nullable?_optionToJson,
    Attributes.ofJson?_toJson_self (by decide) hattributes]
  rfl

theorem Parameter.ofJson?_toJson {parameter : Parameter} (htype : parameter.type.ReadAs view) :
    ofJson? parameter.toJson = some { parameter with type := view parameter.type } := by
  have hrecord : Record.ofJson? ["name", "type"] parameter.toJson = some ⟨_⟩ :=
    Record.ofJson?_record (by simp) (by simp)
  have hfields : ofJson? parameter.toJson = do
      return { parameter with type := ← TypeRef.ofJson? parameter.type.toJson } := by
    rw [ofJson?, hrecord]
    rfl
  rw [hfields, htype]
  rfl

theorem Constructor.ofJson?_toJson {constructor : Constructor} (htypes : ∀ parameter ∈ constructor.parameters, parameter.type.ReadAs view)
    (hattributes : constructor.attributes.IsRead) :
    ofJson? constructor.toJson = some { constructor with parameters := constructor.parameters.map fun parameter =>
      { parameter with type := view parameter.type } } := by
  have hrecord : Record.ofJson? ["accessibility", "params", "attributes"] constructor.toJson = some ⟨_⟩ :=
    Record.ofJson?_record (by simp) (by simp)
  have hfields : ofJson? constructor.toJson = do
      let accessibility ← Accessibility.ofJson? constructor.accessibility.toJson
      let parameters ← Json.list? Parameter.ofJson? (.array (constructor.parameters.map Parameter.toJson))
      let attributes ← Attributes.ofJson? 5 constructor.attributes.toJson
      return { accessibility, parameters, attributes } := by
    rw [ofJson?, hrecord]
    rfl
  rw [hfields, Accessibility.ofJson?_toJson, Attributes.ofJson?_toJson_self (by decide) hattributes,
    Json.list?_array_map fun parameter hparameter => Parameter.ofJson?_toJson (htypes parameter hparameter)]
  rfl

namespace Declaration

variable {declaration : Declaration}

/-- A declaration is written with all its fields, so it is read field by field. -/
theorem ofJson?_toJson_eq (declaration : Declaration) : ofJson? declaration.toJson = do
    let kind ← TypeKind.ofJson? declaration.kind.toJson
    let accessibility ← Accessibility.ofJson? declaration.accessibility.toJson
    let namespaceName ← Json.nullable? Json.text? (.optionalText declaration.namespaceName)
    let containingType ← Json.nullable? Json.text? (.optionalText declaration.containingType)
    let parameters ← Json.list? GenericParameter.ofJson? (.array (declaration.parameters.map GenericParameter.toJson))
    let attributes ← Attributes.ofJson? 3 declaration.attributes.toJson
    let base ← Json.nullable? TypeRef.ofJson? (.optionalText (declaration.base.map TypeRef.render))
    let interfaces ← Json.list? TypeRef.ofJson? (TypeRef.listToJson declaration.interfaces)
    let fields ← Json.list? Field.ofJson? (.array (declaration.fields.map Field.toJson))
    let properties ← Json.list? Property.ofJson? (.array (declaration.properties.map Property.toJson))
    let constructors ← Json.list? Constructor.ofJson? (.array (declaration.constructors.map Constructor.toJson))
    let methods ← Json.list? Json.text? (.texts declaration.methods)
    let underlyingType ← Json.nullable? Json.text? (.optionalText declaration.underlyingType)
    return { declaration with
      kind, accessibility, namespaceName, containingType, parameters, attributes, base, interfaces, fields, properties,
      constructors, methods, underlyingType } := by
  have hrecord : Record.ofJson? fieldNames declaration.toJson = some ⟨_⟩ :=
    Record.ofJson?_record (by simp [fieldNames]) (by simp)
  rw [ofJson?, hrecord]
  rfl

/-- A declaration is read back with its types as their texts say. -/
theorem ofJson?_toJson (htypes : ∀ type ∈ declaration.mentionedTypes, type.ReadAs view)
    (hmembers : declaration.memberAttributes.IsRead) :
    ofJson? declaration.toJson = some (declaration.mapTypes view) := by
  have hparameters := Json.list?_array_map fun parameter (hparameter : parameter ∈ declaration.parameters) =>
    GenericParameter.ofJson?_toJson fun type htype => htypes type (constraintType_mem_mentionedTypes hparameter htype)
  have hattributes : Attributes.ofJson? 3 declaration.attributes.toJson = some (declaration.attributes.map (Attribute.mapType view)) :=
    Attributes.ofJson?_toJson (by decide) fun case hcase => htypes case.2 (unionCase_mem_mentionedTypes hcase)
  have hbase : Json.nullable? TypeRef.ofJson? (.optionalText (declaration.base.map TypeRef.render)) =
      some (declaration.base.map view) := by
    cases hbase : declaration.base with
    | none => rfl
    | some base =>
      have hread : TypeRef.ofJson? (.text base.render) = some (view base) := htypes base (base_mem_mentionedTypes hbase)
      rw [Option.map_some, Json.optionalText, Option.map_some, Option.getD_some, Json.nullable?_of_ne_null (by simp [Json.text]), hread]
      rfl
  have hinterfaces := TypeRef.list?_listToJson fun interface hinterface =>
    htypes interface (interface_mem_mentionedTypes hinterface)
  have hfields := Json.list?_array_map fun field (hfield : field ∈ declaration.fields) =>
    Field.ofJson?_toJson (htypes field.type (field_mem_mentionedTypes hfield))
      fun case hcase => hmembers case (mem_unions_memberAttributes_iff.mpr (.inl ⟨field, hfield, hcase⟩))
  have hproperties := Json.list?_array_map fun property (hproperty : property ∈ declaration.properties) =>
    Property.ofJson?_toJson (htypes property.type (property_mem_mentionedTypes hproperty))
      fun case hcase => hmembers case (mem_unions_memberAttributes_iff.mpr (.inr (.inl ⟨property, hproperty, hcase⟩)))
  have hconstructors := Json.list?_array_map fun constructor (hconstructor : constructor ∈ declaration.constructors) =>
    Constructor.ofJson?_toJson
      (fun parameter hparameter => htypes parameter.type (parameter_mem_mentionedTypes hconstructor hparameter))
      fun case hcase => hmembers case (mem_unions_memberAttributes_iff.mpr (.inr (.inr ⟨constructor, hconstructor, hcase⟩)))
  rw [ofJson?_toJson_eq, TypeKind.ofJson?_toJson, Accessibility.ofJson?_toJson, Json.nullable?_optionalText,
    Json.nullable?_optionalText, hparameters, hattributes, hbase, hinterfaces, hfields, hproperties, hconstructors, Json.list?_texts,
    Json.nullable?_optionalText]
  rfl

end Declaration

end SchemaClosure
