import SchemaClosure.Proofs.Closure.Resolution
import SchemaClosure.Proofs.Model.Entries
import SchemaClosure.Proofs.TypeRef.ReadBack

/-!
A closure of legible types is coherent. Legible types lead to legible types, and where two of them yield entries of one kind with one identity, the entries are the same; only a look-up may mark the sequence of its elements as open although the elements are closed.
-/

namespace SchemaClosure

namespace Shape

def declaration? : Shape → Option Declaration
  | .enumeration declaration | .definition declaration | .instantiation declaration | .union declaration
  | .object declaration => some declaration
  | _ => none

variable {shape : Shape} {declaration : Declaration}

theorem declaration?_of_object? (h : shape.object? = some declaration) : shape.declaration? = some declaration := by
  cases shape <;> simp_all [object?, declaration?]

theorem declaration?_of_union? (h : shape.union? = some declaration) : shape.declaration? = some declaration := by
  cases shape <;> simp_all [union?, declaration?]

end Shape

namespace Context

variable {context : Context} {scope : List String} {type : TypeRef} {shape : Shape} {declaration : Declaration}

/-- The shape of a declared type that is not served elsewhere. -/
def ownShape (context : Context) (type : TypeRef) (declaration : Declaration) : Shape :=
  if declaration.kind = .enumType then .enumeration declaration
  else if declaration.isGeneric then
    if context.snapshot.isDefinition type then .definition declaration else .instantiation declaration
  else if declaration.isPolymorphicBase then .union declaration
  else .object declaration

/-- What the shape of a type says about its declaration. -/
def Suits (context : Context) (type : TypeRef) : Shape → Prop
  | .enumeration declaration => declaration.kind = .enumType
  | .definition declaration =>
    declaration.kind ≠ .enumType ∧ declaration.isGeneric = true ∧ context.snapshot.isDefinition type = true
  | .instantiation declaration =>
    declaration.kind ≠ .enumType ∧ declaration.isGeneric = true ∧ context.snapshot.isDefinition type = false
  | .union declaration => declaration.kind ≠ .enumType ∧ declaration.isGeneric = false ∧ declaration.isPolymorphicBase = true
  | .object declaration => declaration.kind ≠ .enumType ∧ declaration.isGeneric = false ∧ declaration.isPolymorphicBase = false
  | _ => True

theorem suits_ownShape (context : Context) (type : TypeRef) (declaration : Declaration) :
    context.Suits type (context.ownShape type declaration) := by
  unfold ownShape
  split
  · assumption
  · rename_i hkind
    split
    · rename_i hgeneric
      split
      · rename_i hdefinition
        exact ⟨hkind, hgeneric, hdefinition⟩
      · rename_i hdefinition
        exact ⟨hkind, hgeneric, eq_false_of_ne_true hdefinition⟩
    · rename_i hplain
      split
      · rename_i hbase
        exact ⟨hkind, eq_false_of_ne_true hplain, hbase⟩
      · rename_i hbase
        exact ⟨hkind, eq_false_of_ne_true hplain, eq_false_of_ne_true hbase⟩

/-- An object is resolved for a class or a structure, and if this is generic, for its definition. -/
theorem Suits.of_object? (h : context.Suits type shape) (hobject : shape.object? = some declaration) :
    declaration.kind ≠ .enumType ∧ declaration.isPolymorphicBase = false ∧
      (declaration.isGeneric = true → context.snapshot.isDefinition type = true) := by
  cases shape with
  | object own =>
    obtain rfl := Option.some.inj hobject
    exact ⟨h.1, h.2.2, fun hgeneric => absurd (hgeneric.symm.trans h.2.1) (by decide)⟩
  | definition own =>
    simp only [Shape.object?] at hobject
    split at hobject
    · simp at hobject
    · rename_i hbase
      obtain rfl := Option.some.inj hobject
      exact ⟨h.1, eq_false_of_ne_true hbase, fun _ => h.2.2⟩
  | served | array | nullable | container | enumeration | instantiation | union => simp [Shape.object?] at hobject

/-- A union is resolved for a polymorphic base, and if this is generic, for its definition. -/
theorem Suits.of_union? (h : context.Suits type shape) (hunion : shape.union? = some declaration) :
    declaration.kind ≠ .enumType ∧ declaration.isPolymorphicBase = true ∧
      (declaration.isGeneric = true → context.snapshot.isDefinition type = true) := by
  cases shape with
  | union own =>
    obtain rfl := Option.some.inj hunion
    exact ⟨h.1, h.2.2, fun hgeneric => absurd (hgeneric.symm.trans h.2.1) (by decide)⟩
  | definition own =>
    simp only [Shape.union?] at hunion
    split at hunion
    · rename_i hbase
      obtain rfl := Option.some.inj hunion
      exact ⟨h.1, hbase, fun _ => h.2.2⟩
    · simp at hunion
  | served | array | nullable | container | enumeration | instantiation | object => simp [Shape.union?] at hunion

/-- A type is classified by name once it is neither served elsewhere, nor an array, nor optional. -/
theorem classify_cases (h : context.classify type = .ok shape) :
    shape = .served ∨ (∃ element rank template, type = .array element rank ∧ shape = .array element template) ∨
      (∃ inner, type.nullableInner? = some inner ∧ shape = .nullable inner) ∨
      (type.nullableInner? = none ∧ context.classifyNamed type = .ok shape) := by
  unfold classify at h
  simp only at h
  split at h
  · exact Or.inl (Except.ok.inj h).symm
  · split at h
    · rename_i element rank harray
      split at h
      · rename_i template htemplate
        exact Or.inr (Or.inl ⟨element, rank, template, TypeRef.eq_array_of_arrayParts? harray, (Except.ok.inj h).symm⟩)
      · simp at h
    · split at h
      · exact Or.inl (Except.ok.inj h).symm
      · split at h
        · rename_i inner hinner
          exact Or.inr (Or.inr (Or.inl ⟨inner, hinner, (Except.ok.inj h).symm⟩))
        · rename_i hinner
          exact Or.inr (Or.inr (Or.inr ⟨hinner, h⟩))

theorem classifyNamed_cases (h : context.classifyNamed type = .ok shape) :
    (∃ template, type.isGeneric = true ∧ Catalog.containerTemplate? type.unboundSignature = some template ∧
        shape = .container template) ∨
      ((type.isGeneric = true → Catalog.containerTemplate? type.unboundSignature = none) ∧
        ∃ declaration, context.snapshot.declaration? type = some declaration ∧
          context.classifyDeclared type declaration = .ok shape) := by
  unfold classifyNamed at h
  simp only at h
  split at h
  · rename_i template htemplate
    split at h
    · simp at h
    · split at htemplate
      · rename_i hgeneric
        exact Or.inl ⟨template, hgeneric, htemplate, (Except.ok.inj h).symm⟩
      · simp at htemplate
  · simp at h
  · rename_i declaration htemplate hdeclaration
    refine Or.inr ⟨?_, declaration, hdeclaration, h⟩
    intro hgeneric
    rwa [if_pos hgeneric] at htemplate

/-- A declared type is served by a codec from elsewhere, or it has its own shape. -/
theorem classifyDeclared_eq_ok (h : context.classifyDeclared type declaration = .ok shape) :
    (declaration.attributes.formatter?.isSome = true ∨ declaration.isGeneric = false ∧ declaration.isExternal = true) ∧
        shape = .served ∨
      shape = context.ownShape type declaration := by
  unfold classifyDeclared at h
  simp only at h
  split at h
  · rename_i hformatter
    exact Or.inl ⟨Or.inl hformatter, (Except.ok.inj h).symm⟩
  · split at h
    · simp at h
    · unfold ownShape
      split at h
      · rename_i hkind
        rw [if_pos hkind]
        exact Or.inr (Except.ok.inj h).symm
      · rename_i hkind
        rw [if_neg hkind]
        split at h
        · simp at h
        · split at h
          · rename_i hgeneric
            rw [if_pos hgeneric]
            exact Or.inr (Except.ok.inj h).symm
          · rename_i hplain
            rw [if_neg hplain]
            split at h
            · rename_i hexternal
              exact Or.inl ⟨Or.inr ⟨eq_false_of_ne_true hplain, hexternal⟩, (Except.ok.inj h).symm⟩
            · refine Or.inr ?_
              split at h
              · rename_i hbase
                rw [if_pos hbase, Except.ok.inj h]
              · rename_i hbase
                rw [if_neg hbase, Except.ok.inj h]

theorem classifyDeclared_cases (h : context.classifyDeclared type declaration = .ok shape) :
    shape = .served ∨ shape = .enumeration declaration ∨ (declaration.isGeneric = true ∧ shape = .definition declaration) ∨
      (declaration.isGeneric = true ∧ shape = .instantiation declaration) ∨ shape = .union declaration ∨
      shape = .object declaration := by
  rcases classifyDeclared_eq_ok h with ⟨-, hserved⟩ | hown
  · exact Or.inl hserved
  · unfold ownShape at hown
    split at hown
    · exact Or.inr (Or.inl hown)
    · split at hown
      · rename_i hgeneric
        split at hown
        · exact Or.inr (Or.inr (Or.inl ⟨hgeneric, hown⟩))
        · exact Or.inr (Or.inr (Or.inr (Or.inl ⟨hgeneric, hown⟩)))
      · split at hown
        · exact Or.inr (Or.inr (Or.inr (Or.inr (Or.inl hown))))
        · exact Or.inr (Or.inr (Or.inr (Or.inr (Or.inr hown))))

theorem nullableInner?_of_classify {inner : TypeRef} (h : context.classify type = .ok (.nullable inner)) :
    type.nullableInner? = some inner := by
  rcases classify_cases h with hserved | ⟨_, _, _, -, harray⟩ | ⟨inner', hinner, heq⟩ | ⟨-, hnamed⟩
  · simp at hserved
  · simp at harray
  · rw [hinner, Shape.nullable.inj heq]
  · rcases classifyNamed_cases hnamed with ⟨_, _, _, heq⟩ | ⟨-, declaration, -, hdeclared⟩
    · simp at heq
    · rcases classifyDeclared_cases hdeclared with heq | heq | ⟨-, heq⟩ | ⟨-, heq⟩ | heq | heq <;> simp at heq

theorem declaration?_of_classify (h : context.classify type = .ok shape) (hdeclaration : shape.declaration? = some declaration) :
    context.snapshot.declaration? type = some declaration ∧ context.classifyDeclared type declaration = .ok shape := by
  rcases classify_cases h with rfl | ⟨_, _, _, -, rfl⟩ | ⟨inner, -, rfl⟩ | ⟨-, hnamed⟩
  · simp [Shape.declaration?] at hdeclaration
  · simp [Shape.declaration?] at hdeclaration
  · simp [Shape.declaration?] at hdeclaration
  · rcases classifyNamed_cases hnamed with ⟨_, _, _, rfl⟩ | ⟨-, declaration', hfound, hdeclared⟩
    · simp [Shape.declaration?] at hdeclaration
    · have hsame : declaration' = declaration := by
        rcases classifyDeclared_cases hdeclared with rfl | rfl | ⟨-, rfl⟩ | ⟨-, rfl⟩ | rfl | rfl
        · simp [Shape.declaration?] at hdeclaration
        all_goals exact Option.some.inj hdeclaration
      subst hsame
      exact ⟨hfound, hdeclared⟩

theorem declaration?_definition (hdeclaration : context.snapshot.declaration? type = some declaration) :
    context.snapshot.declaration? declaration.definition = some declaration := by
  obtain ⟨name, -, hfind⟩ := Option.bind_eq_some_iff.mp hdeclaration
  rw [Snapshot.declaration?, Declaration.definition, TypeRef.name?, Option.bind_some, Snapshot.name_eq_of_find? hfind, hfind]

theorem definition?_of_isGeneric (hdeclaration : context.snapshot.declaration? type = some declaration)
    (hgeneric : declaration.isGeneric = true) : context.snapshot.definition? type = some declaration.definition := by
  rw [Snapshot.definition?, hdeclaration, Option.filter_some, if_pos hgeneric, Option.map_some]

theorem eq_ownShape_of_classify (h : context.classify type = .ok shape) (hdeclaration : shape.declaration? = some declaration) :
    shape = context.ownShape type declaration := by
  obtain ⟨-, hdeclared⟩ := declaration?_of_classify h hdeclaration
  rcases classifyDeclared_eq_ok hdeclared with ⟨-, rfl⟩ | hown
  · simp [Shape.declaration?] at hdeclaration
  · exact hown

theorem suits_of_classify (h : context.classify type = .ok shape) : context.Suits type shape := by
  cases hdeclaration : shape.declaration? with
  | none => cases shape <;> simp_all [Shape.declaration?, Suits]
  | some declaration =>
    rw [eq_ownShape_of_classify h hdeclaration]
    exact suits_ownShape context type declaration

theorem isGeneric_of_instantiation (h : context.classify type = .ok (.instantiation declaration)) : declaration.isGeneric = true :=
  (suits_of_classify h).2.1

/-- If an object or a union is resolved for a generic type, then the type is the definition. -/
theorem eq_definition_of_classify (h : context.classify type = .ok shape)
    (hresolved : shape.object? = some declaration ∨ shape.union? = some declaration) (hgeneric : declaration.isGeneric = true) :
    type = declaration.definition := by
  obtain ⟨hfound, -⟩ := declaration?_of_classify h (hresolved.elim Shape.declaration?_of_object? Shape.declaration?_of_union?)
  have hdefinition : context.snapshot.isDefinition type = true :=
    hresolved.elim (fun hobject => ((suits_of_classify h).of_object? hobject).2.2 hgeneric)
      (fun hunion => ((suits_of_classify h).of_union? hunion).2.2 hgeneric)
  have hsame : context.snapshot.definition? type = some type := eq_of_beq hdefinition
  rw [definition?_of_isGeneric hfound hgeneric] at hsame
  exact (Option.some.inj hsame).symm

theorem mem_arguments_of_nullableInner? {inner : TypeRef} (h : type.nullableInner? = some inner) : inner ∈ type.arguments := by
  unfold TypeRef.nullableInner? at h
  split at h
  · split at h
    · rw [← Option.some.inj h]
      exact List.mem_cons_self
    · simp at h
  · simp at h

theorem LeadsTo.isLegible (hsnapshot : context.snapshot.isLegible scope = true) (htype : type.isLegible scope = true)
    {target : TypeRef} (h : context.LeadsTo type target) : target.isLegible scope = true := by
  obtain ⟨edge, hdiscovers, rfl⟩ := h
  cases hdiscovers with
  | containerArgument hshape hmem => exact TypeRef.isLegible_of_mem_arguments htype hmem
  | optionalValue hshape =>
    exact TypeRef.isLegible_of_mem_arguments htype (mem_arguments_of_nullableInner? (nullableInner?_of_classify hshape))
  | member hshape hlaidOut hlayout hmem hcodec =>
    obtain ⟨members, hmembers, hlayout⟩ := ofMembers_of_layout hlayout
    obtain ⟨hfields, hproperties⟩ :=
      Snapshot.isLegible_members hsnapshot (fun _ => TypeRef.isLegible_of_mem_arguments htype) hmembers
    exact Layout.isLegible_member hlayout hfields hproperties hmem
  | unionCase hshape hunion hkept =>
    obtain ⟨hdeclaration, -⟩ := declaration?_of_classify hshape (Shape.declaration?_of_union? hunion)
    apply Declaration.isLegible_of_mem_mentionedTypes (Snapshot.isLegible_declaration? hsnapshot hdeclaration)
    exact Declaration.unionCase_mem_mentionedTypes (mem_of_lookup_eq_some hkept)
  | definition hshape =>
    obtain ⟨hdeclaration, -⟩ := declaration?_of_classify hshape rfl
    exact Snapshot.isLegible_definition hsnapshot htype hdeclaration (isGeneric_of_instantiation hshape)
  | instanceArgument hshape hmem => exact TypeRef.isLegible_of_mem_arguments htype hmem

/-! The companions of a look-up are containers, so a closure that visits them yields the same entries. -/

theorem companion_cases {lookup companion : TypeRef} (h : companion ∈ companionsOf lookup) :
    ∃ key element rest, lookup.arguments = key :: element :: rest ∧
      (companion = .named Catalog.groupingName lookup.arguments ∨ companion = .named Catalog.enumerableName [element]) := by
  unfold companionsOf at h
  split at h
  · rename_i key element rest harguments
    refine ⟨key, element, rest, harguments, ?_⟩
    simpa using h
  · exact absurd h List.not_mem_nil

theorem isCanonical_companion {lookup companion : TypeRef} (hlookup : lookup.IsCanonical scope)
    (h : companion ∈ companionsOf lookup) : companion.IsCanonical scope := by
  have hgrouping : TypeRef.isPath Catalog.groupingName.toList = true := by decide +kernel
  have henumerable : TypeRef.isPath Catalog.enumerableName.toList = true := by decide +kernel
  obtain ⟨key, element, rest, harguments, rfl | rfl⟩ := companion_cases h
  · have hkey : key ∈ lookup.arguments := by simp [harguments]
    exact TypeRef.isCanonical_named hgrouping hkey fun argument hmem => hlookup.of_mem_arguments hmem
  · have helement : element ∈ lookup.arguments := by simp [harguments]
    refine TypeRef.isCanonical_named henumerable List.mem_cons_self ?_
    intro argument hmem
    rw [List.mem_singleton.mp hmem]
    exact hlookup.of_mem_arguments helement

theorem nullableInner?_companion {lookup companion : TypeRef} (h : companion ∈ companionsOf lookup) :
    companion.nullableInner? = none := by
  have henumerable : Catalog.enumerableName ≠ TypeRef.nullableName := by decide
  obtain ⟨key, element, rest, harguments, rfl | rfl⟩ := companion_cases h
  · simp [TypeRef.nullableInner?, harguments]
  · simp [TypeRef.nullableInner?, henumerable]

theorem isGeneric_companion {lookup companion : TypeRef} (h : companion ∈ companionsOf lookup) : companion.isGeneric = true := by
  obtain ⟨key, element, rest, harguments, rfl | rfl⟩ := companion_cases h
  · change (!lookup.arguments.isEmpty) = true
    rw [harguments]
    rfl
  · rfl

theorem ownGeneric?_companion {lookup companion : TypeRef} {template : String} {schema : GenericSchema}
    (hmem : companion ∈ companionsOf lookup) (htemplate : Catalog.containerTemplate? companion.unboundSignature = some template)
    (hshape : context.classify companion = .ok shape) (hschema : context.ownGeneric? companion shape = some schema) :
    schema = ⟨companion.identity, Catalog.instantiate template (CodecName.ofArguments companion.arguments), companion.isOpen⟩ := by
  rcases classify_cases hshape with rfl | ⟨element, rank, template', harray, -⟩ | ⟨inner, hinner, -⟩ | ⟨-, hnamed⟩
  · simp [ownGeneric?] at hschema
  · have hgeneric := isGeneric_companion hmem
    rw [harray] at hgeneric
    simp [TypeRef.isGeneric, TypeRef.arguments] at hgeneric
  · rw [nullableInner?_companion hmem] at hinner
    simp at hinner
  · rcases classifyNamed_cases hnamed with ⟨template', -, htemplate', rfl⟩ | ⟨hnone, -⟩
    · rw [htemplate] at htemplate'
      rw [Option.some.inj htemplate']
      exact (Option.some.inj hschema).symm
    · rw [hnone (isGeneric_companion hmem)] at htemplate
      simp at htemplate

/-- An open look-up whose elements are closed: on its behalf the sequence of the elements is marked as open. -/
def OpensElements (lookup : TypeRef) (schema : GenericSchema) : Prop :=
  lookup.unboundSignature = Catalog.lookupSignature ∧ lookup.isOpen = true ∧
    ∃ key element rest, lookup.arguments = key :: element :: rest ∧ element.isOpen = false ∧
      schema.identity = (TypeRef.named Catalog.enumerableName [element]).identity

theorem isOpen_eq_anyOpen {key : TypeRef} {rest : List TypeRef} (h : type.arguments = key :: rest) :
    type.isOpen = TypeRef.anyOpen (key :: rest) := by
  cases type with
  | named name arguments =>
    rw [TypeRef.isOpen, ← h]
    rfl
  | parameter name => simp [TypeRef.arguments] at h
  | array element rank => simp [TypeRef.arguments] at h
  | tuple elements => simp [TypeRef.arguments] at h

theorem isOpen_companion {lookup companion : TypeRef} (hlookup : lookup.unboundSignature = Catalog.lookupSignature)
    (h : companion ∈ companionsOf lookup) {schema : GenericSchema} (hidentity : schema.identity = companion.identity) :
    lookup.isOpen = companion.isOpen ∨ OpensElements lookup schema := by
  obtain ⟨key, element, rest, harguments, rfl | rfl⟩ := companion_cases h
  · have hopen := isOpen_eq_anyOpen harguments
    rw [← harguments] at hopen
    exact Or.inl hopen
  · have hopen := isOpen_eq_anyOpen harguments
    have hcompanion : (TypeRef.named Catalog.enumerableName [element]).isOpen = element.isOpen := by
      simp [TypeRef.isOpen, TypeRef.anyOpen]
    rw [TypeRef.anyOpen, TypeRef.anyOpen] at hopen
    rw [hcompanion]
    cases helement : element.isOpen with
    | true => exact Or.inl (by simp [hopen, helement])
    | false =>
      cases hlookupOpen : lookup.isOpen with
      | true => exact Or.inr ⟨hlookup, hlookupOpen, key, element, rest, harguments, helement, hidentity⟩
      | false => exact Or.inl rfl

theorem Yields.generic_cases {schema : GenericSchema} (h : context.Yields type (.generic schema)) :
    (∃ shape, context.classify type = .ok shape ∧ context.ownGeneric? type shape = some schema) ∨
      ∃ companion ∈ companionsOf type, type.unboundSignature = Catalog.lookupSignature ∧
        ∃ template, Catalog.containerTemplate? companion.unboundSignature = some template ∧ schema =
          ⟨companion.identity, Catalog.instantiate template (CodecName.ofArguments companion.arguments), type.isOpen⟩ := by
  cases h with
  | generic hshape hschema => exact Or.inl ⟨_, hshape, hschema⟩
  | companion hshape hlookup hmem htemplate => exact Or.inr ⟨_, hmem, hlookup, _, htemplate, rfl⟩

theorem identity_of_ownGeneric? {schema : GenericSchema} (h : context.ownGeneric? type shape = some schema) :
    schema.identity = type.identity := by
  unfold ownGeneric? at h
  split at h
  · rw [← Option.some.inj h]
  · split at h
    · simp at h
    · rw [← Option.some.inj h]
  · rw [← Option.some.inj h]
  · rw [← Option.some.inj h]
  · rw [← Option.some.inj h]
  · simp at h

variable {first second : TypeRef} {schema schema' : GenericSchema}

theorem ownGeneric?_agrees_companion {companion : TypeRef} {template : String} (hfirst : first.IsCanonical scope)
    (hsecond : second.IsCanonical scope) (hshape : context.classify first = .ok shape)
    (hschema : context.ownGeneric? first shape = some schema) (hmem : companion ∈ companionsOf second)
    (hlookup : second.unboundSignature = Catalog.lookupSignature)
    (htemplate : Catalog.containerTemplate? companion.unboundSignature = some template) (hschema' : schema' =
      ⟨companion.identity, Catalog.instantiate template (CodecName.ofArguments companion.arguments), second.isOpen⟩)
    (hidentity : schema.identity = schema'.identity) :
    schema.codecExpression = schema'.codecExpression ∧
      (schema.isOpenGeneric = schema'.isOpenGeneric ∨ OpensElements second schema') := by
  have hsame : first = companion := by
    apply hfirst.eq_of_identity_eq (isCanonical_companion hsecond hmem)
    rw [← identity_of_ownGeneric? hschema, hidentity, hschema']
  rw [hsame] at hshape hschema
  have hown := ownGeneric?_companion hmem htemplate hshape hschema
  refine ⟨by rw [hown, hschema'], ?_⟩
  rcases isOpen_companion hlookup hmem (congrArg GenericSchema.identity hschema') with hopen | hopens
  · exact Or.inl (by rw [hown, hschema', hopen])
  · exact Or.inr hopens

/-- Generic entries with one identity differ at most in the mark, and only on behalf of a look-up that opens its elements. -/
theorem Yields.generic_agrees (hfirst : first.IsCanonical scope) (hsecond : second.IsCanonical scope)
    (h : context.Yields first (.generic schema)) (h' : context.Yields second (.generic schema'))
    (hidentity : schema.identity = schema'.identity) :
    schema.codecExpression = schema'.codecExpression ∧
      (schema.isOpenGeneric = schema'.isOpenGeneric ∨ OpensElements first schema ∨ OpensElements second schema') := by
  rcases h.generic_cases with ⟨shape, hshape, hschema⟩ | ⟨companion, hmem, hlookup, template, htemplate, hschema⟩
  · rcases h'.generic_cases with ⟨shape', hshape', hschema'⟩ | ⟨companion, hmem, hlookup, template, htemplate, hschema'⟩
    · have hsame : first = second := by
        apply hfirst.eq_of_identity_eq hsecond
        rw [← identity_of_ownGeneric? hschema, hidentity, identity_of_ownGeneric? hschema']
      rw [← hsame, hshape] at hshape'
      rw [← hsame, ← Except.ok.inj hshape', hschema] at hschema'
      rw [Option.some.inj hschema']
      exact ⟨rfl, Or.inl rfl⟩
    · obtain ⟨hcodec, hmark⟩ :=
        ownGeneric?_agrees_companion hfirst hsecond hshape hschema hmem hlookup htemplate hschema' hidentity
      exact ⟨hcodec, hmark.imp_right Or.inr⟩
  · rcases h'.generic_cases with ⟨shape', hshape', hschema'⟩ | ⟨companion', hmem', hlookup', template', htemplate', hschema'⟩
    · obtain ⟨hcodec, hmark⟩ :=
        ownGeneric?_agrees_companion hsecond hfirst hshape' hschema' hmem hlookup htemplate hschema hidentity.symm
      exact ⟨hcodec.symm, hmark.imp Eq.symm Or.inl⟩
    · have hsame : companion = companion' := by
        apply (isCanonical_companion hfirst hmem).eq_of_identity_eq (isCanonical_companion hsecond hmem')
        rwa [hschema, hschema'] at hidentity
      subst hsame
      rw [htemplate] at htemplate'
      refine ⟨by rw [hschema, hschema', Option.some.inj htemplate'], ?_⟩
      rcases isOpen_companion hlookup hmem (congrArg GenericSchema.identity hschema) with hopen | hopens
      · rcases isOpen_companion hlookup' hmem' (congrArg GenericSchema.identity hschema') with hopen' | hopens'
        · exact Or.inl (by rw [hschema, hschema', hopen, hopen'])
        · exact Or.inr (Or.inr hopens')
      · exact Or.inr (Or.inl hopens)

theorem Yields.object_cases {schema : ObjectSchema} (h : context.Yields type (.object schema)) :
    ∃ shape declaration limit edges, context.classify type = .ok shape ∧ shape.object? = some declaration ∧
      context.resolveObject limit type declaration = some (.ok (schema, edges)) := by
  cases h with
  | object hshape hobject hschema => exact ⟨_, _, _, _, hshape, hobject, hschema⟩

theorem Yields.union_cases {schema : UnionSchema} (h : context.Yields type (.union schema)) :
    ∃ shape declaration edges, context.classify type = .ok shape ∧ shape.union? = some declaration ∧
      context.resolveUnion type declaration = .ok (schema, edges) := by
  cases h with
  | union hshape hunion hschema => exact ⟨_, _, _, hshape, hunion, hschema⟩

theorem Yields.enumeration_cases {schema : EnumSchema} (h : context.Yields type (.enumeration schema)) :
    ∃ declaration, context.classify type = .ok (.enumeration declaration) ∧
      .record (.enumeration schema) = context.enumEntry type declaration := by
  cases h with
  | enumeration hshape => exact ⟨_, hshape, rfl⟩

/-- Only generic entries may have the identity of another type. -/
theorem Yields.identity_eq {entry : Entry} (h : context.Yields type entry) (hkind : entry.kind ≠ .generic) :
    entry.identity = type.identity := by
  cases h with
  | object hshape hobject hschema => exact identity_of_resolveObject hschema
  | union hshape hunion hschema => exact identity_of_resolveUnion hschema
  | enumeration hshape => rfl
  | generic hshape hschema => exact absurd rfl hkind
  | companion hshape hlookup hmem htemplate => exact absurd rfl hkind

theorem Yields.eq_of_kind_eq {entry entry' : Entry} (h : context.Yields type entry) (h' : context.Yields type entry')
    (hkind : entry.kind = entry'.kind) (hgeneric : entry.kind ≠ .generic) : entry = entry' := by
  cases entry with
  | generic schema => exact absurd rfl hgeneric
  | object schema =>
    obtain ⟨shape, declaration, limit, edges, hshape, hobject, hschema⟩ := h.object_cases
    cases entry' with
    | object schema' =>
      obtain ⟨shape', declaration', limit', edges', hshape', hobject', hschema'⟩ := h'.object_cases
      rw [hshape] at hshape'
      rw [← Except.ok.inj hshape', hobject] at hobject'
      rw [← Option.some.inj hobject'] at hschema'
      rw [(Prod.mk.inj (Except.ok.inj (resolveObject_unique hschema hschema'))).1]
    | enumeration schema' => simp [Entry.kind] at hkind
    | generic schema' => simp [Entry.kind] at hkind
    | union schema' => simp [Entry.kind] at hkind
  | enumeration schema =>
    obtain ⟨declaration, hshape, hschema⟩ := h.enumeration_cases
    cases entry' with
    | enumeration schema' =>
      obtain ⟨declaration', hshape', hschema'⟩ := h'.enumeration_cases
      rw [hshape] at hshape'
      rw [← Shape.enumeration.inj (Except.ok.inj hshape'), ← hschema] at hschema'
      exact (Step.record.inj hschema').symm
    | object schema' => simp [Entry.kind] at hkind
    | generic schema' => simp [Entry.kind] at hkind
    | union schema' => simp [Entry.kind] at hkind
  | union schema =>
    obtain ⟨shape, declaration, edges, hshape, hunion, hschema⟩ := h.union_cases
    cases entry' with
    | union schema' =>
      obtain ⟨shape', declaration', edges', hshape', hunion', hschema'⟩ := h'.union_cases
      rw [hshape] at hshape'
      rw [← Except.ok.inj hshape', hunion] at hunion'
      rw [← Option.some.inj hunion', hschema] at hschema'
      rw [(Prod.mk.inj (Except.ok.inj hschema')).1]
    | object schema' => simp [Entry.kind] at hkind
    | enumeration schema' => simp [Entry.kind] at hkind
    | generic schema' => simp [Entry.kind] at hkind

theorem Yields.agrees {entry entry' : Entry} (hfirst : first.IsCanonical scope) (hsecond : second.IsCanonical scope)
    (h : context.Yields first entry) (h' : context.Yields second entry') (hkey : entry.key = entry'.key) :
    entry.Agrees entry' := by
  have hkind : entry.kind = entry'.kind := congrArg EntryKey.kind hkey
  have hidentity : entry.identity = entry'.identity := Entry.identity_eq_of_key_eq hkey
  by_cases hgeneric : entry.kind = .generic
  · cases entry with
    | generic schema =>
      cases entry' with
      | generic schema' =>
        exact Entry.agrees_generic_iff.mpr ⟨hidentity, (h.generic_agrees hfirst hsecond h' hidentity).1⟩
      | object schema' => simp [Entry.kind] at hkind
      | enumeration schema' => simp [Entry.kind] at hkind
      | union schema' => simp [Entry.kind] at hkind
    | object schema => simp [Entry.kind] at hgeneric
    | enumeration schema => simp [Entry.kind] at hgeneric
    | union schema => simp [Entry.kind] at hgeneric
  · have hgeneric' : entry'.kind ≠ .generic := by rwa [← hkind]
    have hsame : first = second := by
      apply hfirst.eq_of_identity_eq hsecond
      rw [← h.identity_eq hgeneric, hidentity, h'.identity_eq hgeneric']
    rw [← hsame] at h'
    rw [h.eq_of_kind_eq h' hkind hgeneric]
    exact Entry.agrees_refl _

end Context

end SchemaClosure
