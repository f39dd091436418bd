import SchemaClosure.Proofs.Declaration.ReadBack

namespace SchemaClosure

open Json (Yields)

theorem TypeRef.yields_isLegible : Yields ofJson? (·.isLegible [] = true) := by
  intro value type h
  obtain ⟨text, -, hparse⟩ := Option.bind_eq_some_iff.mp h
  cases hread : parse text with
  | error error => simp [hread, Except.toOption] at hparse
  | ok read =>
    rw [hread] at hparse
    exact Option.some.inj hparse ▸ isLegible_of_parse hread

theorem Attribute.isRead_of_ofRecord? {kind : String} {record : Record} {mark : Attribute} (h : ofRecord? kind record = some mark) :
    Attributes.IsRead [mark] := by
  intro case hcase
  cases mark with
  | union discriminator subtype =>
    rw [List.mem_singleton.mp hcase]
    unfold ofRecord? at h
    split at h
    case h_2 =>
      obtain ⟨read, -, h⟩ := Option.bind_eq_some_iff.mp h
      obtain ⟨subtype, hread, hmark⟩ := Option.bind_eq_some_iff.mp h
      rw [← (Attribute.union.inj (Option.some.inj hmark)).2]
      exact TypeRef.yields_isLegible.of_required hread
    all_goals simp at h
  | _ => exact absurd hcase List.not_mem_nil

theorem Attribute.yields_isRead : Yields ofJson? fun mark => Attributes.IsRead [mark] := by
  intro value mark h
  obtain ⟨-, -, h⟩ := Option.bind_eq_some_iff.mp h
  obtain ⟨⟨kind, record⟩, -, h⟩ := Option.bind_eq_some_iff.mp h
  exact isRead_of_ofRecord? h

theorem Attributes.yields_isRead {outer : Nat} : Yields (ofJson? outer) IsRead := by
  intro value attributes h case hcase
  obtain ⟨-, -, h⟩ := Option.bind_eq_some_iff.mp h
  obtain ⟨mark, hmark, hcase⟩ := List.mem_filterMap.mp hcase
  have hread := Attribute.yields_isRead.list value attributes h mark hmark
  exact hread case (List.mem_filterMap.mpr ⟨mark, List.mem_singleton_self mark, hcase⟩)

theorem GenericParameter.yields_isLegible : Yields ofJson? fun parameter => ∀ type ∈ parameter.constraintTypes, type.isLegible [] = true := by
  intro value parameter h
  simp only [ofJson?, Option.bind_eq_bind, Option.bind_eq_some_iff, Option.pure_def, Option.some.injEq] at h
  obtain ⟨record, -, -, -, -, -, -, -, -, -, -, -, -, -, constraintTypes, hconstraintTypes, -, -, rfl⟩ := h
  exact TypeRef.yields_isLegible.list.of_optional (by simp) hconstraintTypes

theorem Field.yields_isRead : Yields ofJson? fun field => field.type.isLegible [] = true ∧ field.attributes.IsRead := by
  intro value field h
  simp only [ofJson?, Option.bind_eq_bind, Option.bind_eq_some_iff, Option.pure_def, Option.some.injEq] at h
  obtain ⟨record, -, -, -, type, htype, -, -, -, -, -, -, -, -, attributes, hattributes, rfl⟩ := h
  exact ⟨TypeRef.yields_isLegible.of_required htype, Attributes.yields_isRead.of_optional Attributes.isRead_nil hattributes⟩

theorem Property.yields_isRead : Yields ofJson? fun property => property.type.isLegible [] = true ∧ property.attributes.IsRead := by
  intro value property h
  simp only [ofJson?, Option.bind_eq_bind, Option.bind_eq_some_iff, Option.pure_def, Option.some.injEq] at h
  obtain ⟨record, -, -, -, type, htype, -, -, -, -, -, -, -, -, -, -, attributes, hattributes, rfl⟩ := h
  exact ⟨TypeRef.yields_isLegible.of_required htype, Attributes.yields_isRead.of_optional Attributes.isRead_nil hattributes⟩

theorem Parameter.yields_isLegible : Yields ofJson? fun parameter => parameter.type.isLegible [] = true := by
  intro value parameter h
  simp only [ofJson?, Option.bind_eq_bind, Option.bind_eq_some_iff, Option.pure_def, Option.some.injEq] at h
  obtain ⟨record, -, -, -, type, htype, rfl⟩ := h
  exact TypeRef.yields_isLegible.of_required htype

theorem Constructor.yields_isRead : Yields ofJson? fun constructor =>
    (∀ parameter ∈ constructor.parameters, parameter.type.isLegible [] = true) ∧ constructor.attributes.IsRead := by
  intro value constructor h
  simp only [ofJson?, Option.bind_eq_bind, Option.bind_eq_some_iff, Option.pure_def, Option.some.injEq] at h
  obtain ⟨record, -, -, -, parameters, hparameters, attributes, hattributes, rfl⟩ := h
  exact ⟨Parameter.yields_isLegible.list.of_optional (by simp) hparameters,
    Attributes.yields_isRead.of_optional Attributes.isRead_nil hattributes⟩

namespace Declaration

theorem yields_isRead : Yields ofJson? IsRead := by
  intro value declaration h
  rw [ofJson?] at h
  iterate 8 obtain ⟨_, -, h⟩ := Option.bind_eq_some_iff.mp h
  obtain ⟨parameters, hparameters, h⟩ := Option.bind_eq_some_iff.mp h
  obtain ⟨attributes, hattributes, h⟩ := Option.bind_eq_some_iff.mp h
  obtain ⟨base, hbase, h⟩ := Option.bind_eq_some_iff.mp h
  obtain ⟨interfaces, hinterfaces, h⟩ := Option.bind_eq_some_iff.mp h
  obtain ⟨fields, hfields, h⟩ := Option.bind_eq_some_iff.mp h
  obtain ⟨properties, hproperties, h⟩ := Option.bind_eq_some_iff.mp h
  obtain ⟨constructors, hconstructors, h⟩ := Option.bind_eq_some_iff.mp h
  iterate 2 obtain ⟨_, -, h⟩ := Option.bind_eq_some_iff.mp h
  obtain rfl := Option.some.inj h
  have hparameters := GenericParameter.yields_isLegible.list.of_optional (by simp) hparameters
  have hattributes := Attributes.yields_isRead.of_optional Attributes.isRead_nil hattributes
  have hbase := TypeRef.yields_isLegible.nullable.of_optional (by simp) hbase
  have hinterfaces := TypeRef.yields_isLegible.list.of_optional (by simp) hinterfaces
  have hfields := Field.yields_isRead.list.of_optional (by simp) hfields
  have hproperties := Property.yields_isRead.list.of_optional (by simp) hproperties
  have hconstructors := Constructor.yields_isRead.list.of_optional (by simp) hconstructors
  constructor
  · intro type hmem
    simp only [mentionedTypes, List.mem_append, List.mem_map, List.mem_flatMap, Option.mem_toList] at hmem
    rcases hmem with (((((hmem | hmem) | ⟨case, hcase, rfl⟩) | ⟨field, hfield, rfl⟩) | ⟨property, hproperty, rfl⟩) |
      ⟨parameter, hparameter, hmem⟩) | ⟨constructor, hconstructor, parameter, hparameter, rfl⟩
    · exact hbase type hmem
    · exact hinterfaces type hmem
    · exact hattributes case hcase
    · exact (hfields field hfield).1
    · exact (hproperties property hproperty).1
    · exact hparameters parameter hparameter type hmem
    · exact (hconstructors constructor hconstructor).1 parameter hparameter
  · intro case hcase
    rcases mem_unions_memberAttributes_iff.mp hcase with ⟨field, hfield, hcase⟩ | ⟨property, hproperty, hcase⟩ |
      ⟨constructor, hconstructor, hcase⟩
    · exact (hfields field hfield).2 case hcase
    · exact (hproperties property hproperty).2 case hcase
    · exact (hconstructors constructor hconstructor).2 case hcase

theorem isRead_of_listOfFile? {file : Json} {declarations : List Declaration} (h : listOfFile? file = some declarations) :
    ∀ declaration ∈ declarations, declaration.IsRead := by
  obtain ⟨record, -, h⟩ := Option.bind_eq_some_iff.mp h
  exact yields_isRead.list.of_optional (by simp) h

end Declaration

end SchemaClosure
