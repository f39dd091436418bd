import SchemaClosure.Proofs.Closure.Accounting

/-!
What errors are about. A type without a shape is the one that cannot be served, and whatever else can be wrong is wrong with the declaration of a type: its keys, its constructors or its cases. An error of a resolution or of a root check thus names the type itself. The member on the way to the type is added afterwards, and to shape errors only.
-/

namespace SchemaClosure

namespace CollectError

/-- What can be wrong with a type that has a shape. -/
inductive IsOfDeclaration (type : TypeRef) : CollectError → Prop where
  | mixedKeys (member : String) (expected : KeyMode) : IsOfDeclaration type (.mixedKeys type.identity member expected)
  | noViableConstructor (failure : ConstructorFailure) : IsOfDeclaration type (.noViableConstructor type.identity failure)
  | missingUnion : IsOfDeclaration type (.missingUnion type.identity)

/-- What can be wrong with the members of a type and its constructors. -/
inductive IsOfMembers (type : TypeRef) : CollectError → Prop where
  | mixedKeys (member : String) (expected : KeyMode) : IsOfMembers type (.mixedKeys type.identity member expected)
  | noViableConstructor (failure : ConstructorFailure) : IsOfMembers type (.noViableConstructor type.identity failure)

theorem IsOfMembers.isOfDeclaration {type : TypeRef} {error : CollectError} (h : error.IsOfMembers type) :
    error.IsOfDeclaration type := by
  cases h with
  | mixedKeys member expected => exact .mixedKeys member expected
  | noViableConstructor failure => exact .noViableConstructor failure

theorem IsOfDeclaration.identity? {type : TypeRef} {error : CollectError} (h : error.IsOfDeclaration type) :
    error.identity? = some type.identity := by
  cases h <;> rfl

/-- Only a shape error is told a member. -/
theorem IsOfDeclaration.reachedThrough {type : TypeRef} {error : CollectError} (h : error.IsOfDeclaration type)
    (member : Option String) : error.reachedThrough member = error := by
  cases h <;> rfl

theorem identity?_reachedThrough (error : CollectError) (member : Option String) :
    (error.reachedThrough member).identity? = error.identity? := by
  unfold reachedThrough
  split <;> rfl

end CollectError

namespace Context

variable {context : Context} {limit : Nat} {type root : TypeRef} {declaration : Declaration} {error : CollectError}

theorem exists_shape_of_classifyNamed (h : context.classifyNamed type = .error error) : ∃ reason, error = .shape type reason := by
  unfold classifyNamed classifyDeclared at h
  simp only at h
  repeat' split at h
  all_goals cases h
  all_goals exact ⟨_, rfl⟩

/-- A type without a shape is itself the one that cannot be served. -/
theorem exists_shape_of_classify (h : context.classify type = .error error) : ∃ reason, error = .shape type reason := by
  unfold classify at h
  simp only at h
  split at h
  · simp at h
  · split at h
    · split at h
      · simp at h
      · exact ⟨_, (Except.error.inj h).symm⟩
    · split at h
      · simp at h
      · split at h
        · simp at h
        · exact exists_shape_of_classifyNamed h

theorem isOfMembers_of_layout (h : context.layout limit type declaration = some (.error error)) : error.IsOfMembers type := by
  obtain ⟨members, -, hmixed⟩ := Option.map_eq_some_iff.mp h
  obtain ⟨_, offender, _, expected, -, -, rfl⟩ := Layout.exists_mixed_of_error hmixed
  exact .mixedKeys offender.name expected

theorem isOfMembers_of_objectOfLayout {layout : Layout} (h : context.objectOfLayout type declaration layout = .error error) :
    error.IsOfMembers type := by
  unfold objectOfLayout at h
  simp only at h
  split at h
  · rw [← Except.error.inj h]
    exact .noViableConstructor _
  · simp at h

theorem isOfMembers_of_objectSteps (h : context.objectSteps limit type declaration = some (.error error)) :
    error.IsOfMembers type := by
  obtain ⟨resolved, hresolved, herror⟩ := Option.map_eq_some_iff.mp h
  obtain ⟨outcome, hlayout, hbind⟩ := Option.map_eq_some_iff.mp hresolved
  rw [← hbind, map_eq_error_iff, bind_eq_error_iff] at herror
  rcases herror with rfl | ⟨layout, rfl, herror⟩
  · exact isOfMembers_of_layout hlayout
  · rcases bind_eq_error_iff.mp herror with herror | ⟨schema, -, hpure⟩
    · exact isOfMembers_of_objectOfLayout herror
    · simp [pure, Except.pure] at hpure

theorem unionSteps_eq_error (h : context.unionSteps type declaration = .error error) :
    error = .missingUnion type.identity ∧ declaration.attributes.hasUnions = false := by
  have hunion := map_eq_error_iff.mp h
  rw [resolveUnion] at hunion
  split at hunion
  · rename_i hempty
    rw [Attributes.hasUnions, hempty]
    exact ⟨(Except.error.inj hunion).symm, rfl⟩
  · simp at hunion

/-- A type with a shape fails on missing unions, or on its members and constructors. -/
theorem stepsOfShape_eq_error {shape : Shape} (h : context.stepsOfShape limit type shape = some (.error error)) :
    (∃ declaration, shape.union? = some declaration ∧ context.unionSteps type declaration = .error error) ∨
      error.IsOfMembers type := by
  cases shape with
  | object declaration => exact Or.inr (isOfMembers_of_objectSteps h)
  | union declaration => exact Or.inl ⟨declaration, rfl, Option.some.inj h⟩
  | definition declaration =>
    obtain ⟨resolved, hresolved, hmap⟩ := Option.map_eq_some_iff.mp h
    rw [map_eq_error_iff] at hmap
    subst hmap
    split at hresolved
    · rename_i hbase
      exact Or.inl ⟨declaration, if_pos hbase, Option.some.inj hresolved⟩
    · exact Or.inr (isOfMembers_of_objectSteps hresolved)
  | instantiation declaration =>
    unfold stepsOfShape instantiationSteps at h
    simp only at h
    split at h
    · simp at h
    · obtain ⟨layout, hlayout, hmap⟩ := Option.map_eq_some_iff.mp h
      rw [map_eq_error_iff] at hmap
      subst hmap
      exact Or.inr (isOfMembers_of_layout hlayout)
  | served => simp [stepsOfShape] at h
  | array element template => simp [stepsOfShape] at h
  | nullable inner => simp [stepsOfShape] at h
  | container template => simp [stepsOfShape] at h
  | enumeration declaration => simp [stepsOfShape] at h

theorem isOfDeclaration_of_stepsOfShape {shape : Shape} (h : context.stepsOfShape limit type shape = some (.error error)) :
    error.IsOfDeclaration type := by
  rcases stepsOfShape_eq_error h with ⟨declaration, -, hunion⟩ | hmembers
  · obtain ⟨rfl, -⟩ := unionSteps_eq_error hunion
    exact .missingUnion
  · exact hmembers.isOfDeclaration

/-- A type that does not resolve has no shape, or something is wrong with its declaration. -/
theorem resolve_eq_error (h : context.resolve limit type = some (.error error)) :
    (∃ reason, error = .shape type reason ∧ context.classify type = .error error) ∨ error.IsOfDeclaration type := by
  unfold resolve at h
  split at h
  · rename_i cause hcause
    rw [Except.error.inj (Option.some.inj h)] at hcause
    obtain ⟨reason, hreason⟩ := exists_shape_of_classify hcause
    exact Or.inl ⟨reason, hreason, hcause⟩
  · exact Or.inr (isOfDeclaration_of_stepsOfShape h)

theorem checkRoot_eq_error (h : context.checkRoot root = .error error) :
    (∃ reason, error = .shape root reason) ∨ error.IsOfDeclaration root := by
  unfold checkRoot at h
  simp only at h
  repeat' split at h
  all_goals cases h
  all_goals first
    | exact Or.inl ⟨_, rfl⟩
    | exact Or.inr .missingUnion

theorem identity?_of_resolve (h : context.resolve limit type = some (.error error)) : error.identity? = some type.identity := by
  rcases resolve_eq_error h with ⟨reason, rfl, -⟩ | hdeclaration
  · rfl
  · exact hdeclaration.identity?

theorem identity?_of_checkRoot (h : context.checkRoot root = .error error) : error.identity? = some root.identity := by
  rcases checkRoot_eq_error h with ⟨reason, rfl⟩ | hdeclaration
  · rfl
  · exact hdeclaration.identity?

end Context

end SchemaClosure
