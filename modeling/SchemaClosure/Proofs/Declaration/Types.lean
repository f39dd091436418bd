import SchemaClosure.Proofs.Snapshot.Acceptance

namespace SchemaClosure

namespace Attribute

def mapType (f : TypeRef → TypeRef) : Attribute → Attribute
  | .union discriminator subtype => .union discriminator (f subtype)
  | other => other

theorem mapType_eq_self {f : TypeRef → TypeRef} {mark : Attribute} (h : ∀ case ∈ Attributes.unions [mark], f case.2 = case.2) :
    mark.mapType f = mark := by
  cases mark with
  | union discriminator subtype =>
    have hsubtype : f subtype = subtype := h (discriminator, subtype) List.mem_cons_self
    rw [mapType, hsubtype]
  | _ => rfl

theorem mapType_mapType (f g : TypeRef → TypeRef) (mark : Attribute) : (mark.mapType f).mapType g = mark.mapType (g ∘ f) := by
  cases mark <;> rfl

end Attribute

/-- The subtypes that attributes name came from texts. -/
def Attributes.IsRead (attributes : Attributes) : Prop := ∀ case ∈ attributes.unions, case.2.isLegible [] = true

theorem Attributes.isRead_nil : IsRead [] := fun _ hcase => absurd hcase List.not_mem_nil

theorem Attributes.mem_unions_of_mem {attributes : Attributes} {mark : Attribute} {case : Int32 × TypeRef} (hmem : mark ∈ attributes)
    (h : case ∈ unions [mark]) : case ∈ attributes.unions := by
  obtain ⟨own, hown, hcase⟩ := List.mem_filterMap.mp h
  rw [List.mem_singleton.mp hown] at hcase
  exact List.mem_filterMap.mpr ⟨mark, hmem, hcase⟩

namespace Declaration

/-- Changes the types that a declaration mentions. Union attributes of members mention none. -/
def mapTypes (f : TypeRef → TypeRef) (declaration : Declaration) : Declaration :=
  { declaration with
    parameters := declaration.parameters.map fun parameter => { parameter with constraintTypes := parameter.constraintTypes.map f }
    attributes := declaration.attributes.map (Attribute.mapType f)
    base := declaration.base.map f
    interfaces := declaration.interfaces.map f
    fields := declaration.fields.map fun field => { field with type := f field.type }
    properties := declaration.properties.map fun property => { property with type := f property.type }
    constructors := declaration.constructors.map fun constructor =>
      { constructor with parameters := constructor.parameters.map fun parameter => { parameter with type := f parameter.type } } }

/-- The attributes of the members of a declaration. -/
def memberAttributes (declaration : Declaration) : Attributes :=
  declaration.fields.flatMap (·.attributes) ++ declaration.properties.flatMap (·.attributes) ++
    declaration.constructors.flatMap (·.attributes)

/-- Everything that a declaration mentions came from a text, and so did the subtypes in the attributes of its members. -/
structure IsRead (declaration : Declaration) : Prop where
  mentioned : ∀ type ∈ declaration.mentionedTypes, type.isLegible [] = true
  members : declaration.memberAttributes.IsRead

variable {f g : TypeRef → TypeRef} {declaration : Declaration}

theorem mem_unions_memberAttributes_iff {case : Int32 × TypeRef} :
    case ∈ declaration.memberAttributes.unions ↔
      (∃ field ∈ declaration.fields, case ∈ field.attributes.unions) ∨
        (∃ property ∈ declaration.properties, case ∈ property.attributes.unions) ∨
        ∃ constructor ∈ declaration.constructors, case ∈ constructor.attributes.unions := by
  have hunions {α : Type} (attributes : α → Attributes) (members : List α) :
      case ∈ Attributes.unions (members.flatMap attributes) ↔ ∃ member ∈ members, case ∈ (attributes member).unions := by
    rw [Attributes.unions, List.filterMap_flatMap, List.mem_flatMap]
    rfl
  rw [memberAttributes, Attributes.unions, List.filterMap_append, List.filterMap_append, List.mem_append, List.mem_append, or_assoc]
  exact or_congr (hunions _ _) (or_congr (hunions _ _) (hunions _ _))

@[simp] theorem name_mapTypes : (declaration.mapTypes f).name = declaration.name := rfl

@[simp] theorem namespaceName_mapTypes : (declaration.mapTypes f).namespaceName = declaration.namespaceName := rfl

@[simp] theorem containingType_mapTypes : (declaration.mapTypes f).containingType = declaration.containingType := rfl

@[simp] theorem parameterNames_mapTypes : (declaration.mapTypes f).parameterNames = declaration.parameterNames := by
  simp [parameterNames, mapTypes]

theorem bindParameters_eq_mapTypes (scope : List String) (declaration : Declaration) :
    declaration.bindParameters scope = declaration.mapTypes (·.bindParameters scope) := by
  have hunion : bindUnion scope = Attribute.mapType (·.bindParameters scope) := by
    funext mark
    cases mark <;> rfl
  rw [bindParameters, mapTypes, hunion]

theorem mapTypes_mapTypes (f g : TypeRef → TypeRef) (declaration : Declaration) :
    (declaration.mapTypes f).mapTypes g = declaration.mapTypes (g ∘ f) := by
  simp [mapTypes, Attribute.mapType_mapType, Function.comp_def]

theorem memberAttributes_mapTypes (f : TypeRef → TypeRef) (declaration : Declaration) :
    (declaration.mapTypes f).memberAttributes = declaration.memberAttributes := by
  simp [memberAttributes, mapTypes, List.flatMap_map]

theorem interface_mem_mentionedTypes {interface : TypeRef} (h : interface ∈ declaration.interfaces) :
    interface ∈ declaration.mentionedTypes := by
  simp only [mentionedTypes, List.mem_append, h, true_or, or_true]

theorem constraintType_mem_mentionedTypes {parameter : GenericParameter} (h : parameter ∈ declaration.parameters) {type : TypeRef}
    (htype : type ∈ parameter.constraintTypes) : type ∈ declaration.mentionedTypes := by
  have hmentioned : type ∈ declaration.parameters.flatMap (·.constraintTypes) := List.mem_flatMap.mpr ⟨parameter, h, htype⟩
  simp only [mentionedTypes, List.mem_append, hmentioned, true_or, or_true]

theorem map_eq_self {α : Type} {change : α → α} {elements : List α} (h : ∀ element ∈ elements, change element = element) :
    elements.map change = elements := by
  rw [List.map_congr_left h, List.map_id']

theorem mapTypes_eq_self (h : ∀ type ∈ declaration.mentionedTypes, f type = type) : declaration.mapTypes f = declaration := by
  have hparameters : (declaration.parameters.map fun parameter =>
      { parameter with constraintTypes := parameter.constraintTypes.map f }) = declaration.parameters := by
    apply map_eq_self
    intro parameter hparameter
    rw [map_eq_self fun type htype => h type (constraintType_mem_mentionedTypes hparameter htype)]
  have hattributes : declaration.attributes.map (Attribute.mapType f) = declaration.attributes := by
    apply map_eq_self
    intro mark hmark
    exact Attribute.mapType_eq_self fun case hcase => h case.2 (unionCase_mem_mentionedTypes (Attributes.mem_unions_of_mem hmark hcase))
  have hbase : declaration.base.map f = declaration.base := by
    cases hbase : declaration.base with
    | none => rfl
    | some base => rw [Option.map_some, h base (base_mem_mentionedTypes hbase)]
  have hinterfaces : declaration.interfaces.map f = declaration.interfaces :=
    map_eq_self fun interface hinterface => h interface (interface_mem_mentionedTypes hinterface)
  have hfields : (declaration.fields.map fun field => { field with type := f field.type }) = declaration.fields := by
    apply map_eq_self
    intro field hfield
    rw [h field.type (field_mem_mentionedTypes hfield)]
  have hproperties : (declaration.properties.map fun property => { property with type := f property.type }) =
      declaration.properties := by
    apply map_eq_self
    intro property hproperty
    rw [h property.type (property_mem_mentionedTypes hproperty)]
  have hconstructors : (declaration.constructors.map fun constructor =>
      { constructor with parameters := constructor.parameters.map fun parameter => { parameter with type := f parameter.type } }) =
      declaration.constructors := by
    apply map_eq_self
    intro constructor hconstructor
    rw [map_eq_self fun parameter hparameter => by rw [h parameter.type (parameter_mem_mentionedTypes hconstructor hparameter)]]
  rw [mapTypes, hparameters, hattributes, hbase, hinterfaces, hfields, hproperties, hconstructors]

end Declaration

end SchemaClosure
