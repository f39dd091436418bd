import SchemaClosure.Proofs.Closure.Reachability
import SchemaClosure.Proofs.Closure.Scheduling
import SchemaClosure.Proofs.Snapshot.Extension

/-!
Unrelated declarations do not interfere. A collection asks about the types that it comes to, and it comes only to types that use the names of its roots and of what declarations refer to; so declarations under other names change nothing: `collect_of_extension`.
-/

namespace SchemaClosure

namespace Context

/-- The same options, and a snapshot with further declarations. -/
structure IsExtendedBy (context extended : Context) (known : String → Prop) : Prop where
  options : extended.options = context.options
  snapshot : context.snapshot.IsExtendedBy extended.snapshot known

namespace IsExtendedBy

variable {context extended : Context} {known : String → Prop} {type : TypeRef} {declaration : Declaration} {limit : Nat}

theorem classifyDeclared_eq (h : context.IsExtendedBy extended known) (htype : type.UsesOnly known) :
    extended.classifyDeclared type declaration = context.classifyDeclared type declaration := by
  unfold classifyDeclared
  rw [h.snapshot.accessibility_eq htype, h.snapshot.isDefinition_eq htype]

theorem classifyNamed_eq (h : context.IsExtendedBy extended known) (htype : type.UsesOnly known) :
    extended.classifyNamed type = context.classifyNamed type := by
  unfold classifyNamed
  rw [h.snapshot.declaration?_eq htype]
  simp only [h.classifyDeclared_eq htype]

theorem classify_eq (h : context.IsExtendedBy extended known) (htype : type.UsesOnly known) :
    extended.classify type = context.classify type := by
  unfold classify
  rw [h.options, h.classifyNamed_eq htype]

theorem checkRoot_eq (h : context.IsExtendedBy extended known) (htype : type.UsesOnly known) :
    extended.checkRoot type = context.checkRoot type := by
  unfold checkRoot
  rw [h.snapshot.declaration?_eq htype, h.snapshot.accessibility_eq htype]

theorem layout_eq (h : context.IsExtendedBy extended known) (htype : type.UsesOnly known) :
    extended.layout limit type declaration = context.layout limit type declaration := by
  rw [layout, layout, h.options, h.snapshot.members_eq htype]

theorem lifecycleHooks_eq (h : context.IsExtendedBy extended known) (htype : type.UsesOnly known) :
    extended.lifecycleHooks type = context.lifecycleHooks type := by
  unfold lifecycleHooks
  rw [h.snapshot.implementsInterface_eq htype, h.snapshot.declaresMethod_eq htype, h.snapshot.declaresMethod_eq htype]

theorem resolveObject_eq (h : context.IsExtendedBy extended known) (htype : type.UsesOnly known) :
    extended.resolveObject limit type declaration = context.resolveObject limit type declaration := by
  unfold resolveObject objectOfLayout
  rw [h.layout_eq htype, h.snapshot.constructors_eq htype, h.lifecycleHooks_eq htype]

theorem objectSteps_eq (h : context.IsExtendedBy extended known) (htype : type.UsesOnly known) :
    extended.objectSteps limit type declaration = context.objectSteps limit type declaration := by
  rw [objectSteps, objectSteps, h.resolveObject_eq htype]

/-- Whether a case is below its base is asked of the subtype, which the declaration refers to. -/
theorem resolveUnion_eq (h : context.IsExtendedBy extended known) (hmem : declaration ∈ context.snapshot.declarations) :
    extended.resolveUnion type declaration = context.resolveUnion type declaration := by
  have hcases : (UnionSchema.sortCases declaration.attributes.unions).foldl (UnionSchema.Draft.take extended.snapshot type) {} =
      (UnionSchema.sortCases declaration.attributes.unions).foldl (UnionSchema.Draft.take context.snapshot type) {} := by
    apply List.foldl_ext
    intro draft case hcase
    have hdeclared : case ∈ declaration.attributes.unions := (List.mergeSort_perm _ _).mem_iff.mp hcase
    have hknown := h.snapshot.usesOnly hmem (Declaration.unionCase_mem_mentionedTypes hdeclared)
    unfold UnionSchema.Draft.take
    rw [h.snapshot.isSubtype_eq hknown]
  simp only [resolveUnion, hcases]

theorem unionSteps_eq (h : context.IsExtendedBy extended known) (hmem : declaration ∈ context.snapshot.declarations) :
    extended.unionSteps type declaration = context.unionSteps type declaration := by
  rw [unionSteps, unionSteps, h.resolveUnion_eq hmem]

theorem stepsOfShape_eq (h : context.IsExtendedBy extended known) (htype : type.UsesOnly known) {shape : Shape}
    (hshape : context.classify type = .ok shape) :
    extended.stepsOfShape limit type shape = context.stepsOfShape limit type shape := by
  have hmem {declaration : Declaration} (hdeclaration : shape.declaration? = some declaration) : declaration ∈ context.snapshot.declarations :=
    Snapshot.mem_of_declaration? (declaration?_of_classify hshape hdeclaration).1
  cases shape with
  | served => rfl
  | array element template => rfl
  | nullable inner =>
    have hinner := htype.of_mem_arguments (mem_arguments_of_nullableInner? (nullableInner?_of_classify hshape))
    rw [stepsOfShape, stepsOfShape, nullableSteps, nullableSteps, h.snapshot.declaration?_eq hinner]
  | container template => rfl
  | enumeration declaration => rw [stepsOfShape, stepsOfShape, enumEntry, enumEntry, h.snapshot.underlyingType?_eq htype]
  | definition declaration =>
    rw [stepsOfShape, stepsOfShape, definitionSteps, definitionSteps, h.objectSteps_eq htype, h.unionSteps_eq (hmem rfl)]
  | instantiation declaration =>
    rw [stepsOfShape, stepsOfShape, instantiationSteps, instantiationSteps, h.layout_eq htype]
  | union declaration => rw [stepsOfShape, stepsOfShape, h.unionSteps_eq (hmem rfl)]
  | object declaration => rw [stepsOfShape, stepsOfShape, h.objectSteps_eq htype]

theorem resolve_eq (h : context.IsExtendedBy extended known) (htype : type.UsesOnly known) :
    extended.resolve limit type = context.resolve limit type := by
  unfold resolve
  rw [h.classify_eq htype]
  split
  · rfl
  · rename_i shape hshape
    exact h.stepsOfShape_eq htype hshape

theorem usesOnly_of_leadsTo (h : context.IsExtendedBy extended known) {target : TypeRef} (htype : type.UsesOnly known)
    (hleads : context.LeadsTo type target) : target.UsesOnly known := by
  obtain ⟨edge, hdiscovers, rfl⟩ := hleads
  cases hdiscovers with
  | containerArgument hshape hmem => exact htype.of_mem_arguments hmem
  | optionalValue hshape => exact htype.of_mem_arguments (mem_arguments_of_nullableInner? (nullableInner?_of_classify hshape))
  | member hshape hlaidOut hlayout hmem hcodec =>
    obtain ⟨members, hmembers, hlayout⟩ := ofMembers_of_layout hlayout
    obtain ⟨levels, hlevels, rfl⟩ := Option.map_eq_some_iff.mp hmembers
    have hmentioned {level : Declaration × TypeRef.Bindings} (hlevel : level ∈ levels) {mentioned : TypeRef}
        (hmem : mentioned ∈ level.1.mentionedTypes) : (mentioned.substitute level.2).UsesOnly known :=
      h.snapshot.usesOnly_of_mem_lineage htype hlevels hlevel hmem
    rcases Layout.declaredType_of_mem_members hlayout hmem with ⟨property, hproperty, hdeclared⟩ | ⟨field, hfield, hdeclared⟩
    · obtain ⟨level, hlevel, mentioned, hmem, hproperty⟩ := Snapshot.Members.exists_level_of_mem.2 property hproperty
      rw [hdeclared, hproperty]
      exact hmentioned hlevel hmem
    · obtain ⟨level, hlevel, mentioned, hmem, hfield⟩ := Snapshot.Members.exists_level_of_mem.1 field hfield
      rw [hdeclared, hfield]
      exact hmentioned hlevel hmem
  | unionCase hshape hunion hkept =>
    obtain ⟨hdeclaration, -⟩ := declaration?_of_classify hshape (Shape.declaration?_of_union? hunion)
    have hcase := Declaration.unionCase_mem_mentionedTypes (mem_of_lookup_eq_some hkept)
    exact h.snapshot.usesOnly (Snapshot.mem_of_declaration? hdeclaration) hcase
  | definition hshape =>
    obtain ⟨hdeclaration, -⟩ := declaration?_of_classify hshape rfl
    intro name hname
    rcases TypeRef.mem_names_named.mp hname with rfl | ⟨argument, hargument, hname⟩
    · rw [Snapshot.eq_named_of_declaration? hdeclaration] at htype
      exact htype _ (TypeRef.mem_names_of_name? rfl)
    · obtain ⟨parameter, -, rfl⟩ := List.mem_map.mp hargument
      exact absurd hname List.not_mem_nil
  | instanceArgument hshape hmem => exact htype.of_mem_arguments hmem

end IsExtendedBy

end Context

namespace Collection

variable {context extended : Context} {known : String → Prop} {collection : Collection} {signal : Signal} {fuel limit : Nat} {raised : Bool}

theorem advance_eq (h : context.IsExtendedBy extended known) (hwithin : collection.IsWithin (·.UsesOnly known)) :
    collection.advance extended limit raised = collection.advance context limit raised := by
  unfold advance
  split
  · rfl
  · rfl
  · rename_i edge rest hpending
    have htarget : edge.target.normalize.UsesOnly known := hwithin edge.target (by rw [hpending]; exact List.mem_cons_self)
    unfold visit
    rw [h.resolve_eq htarget]

/-- What is still to be visited uses known names at every step, so both runs take the same steps. -/
theorem run_eq (h : context.IsExtendedBy extended known) (hwithin : collection.IsWithin (·.UsesOnly known)) :
    collection.run extended signal fuel = collection.run context signal fuel := by
  induction fuel generalizing collection with
  | zero => rfl
  | succ fuel ih =>
    unfold run
    rw [advance_eq h hwithin]
    split
    · rfl
    · rename_i hpending
      split
      · rfl
      · rfl
      · rename_i next hadvance
        have hmoves : collection.Moves context next := moves_of_advance (by simpa using hpending) hadvance
        exact ih (hwithin.moves (fun htype hleads => (h.usesOnly_of_leadsTo htype hleads).normalize) hmoves)

end Collection

namespace Context

theorem IsExtendedBy.collect_eq {context extended : Context} {known : String → Prop} (h : context.IsExtendedBy extended known)
    {roots : List TypeRef} (hroots : ∀ root ∈ roots, root.UsesOnly known) (signal : Signal) (fuel : Nat) :
    extended.collect signal fuel roots = context.collect signal fuel roots := by
  have hchecks : (roots.map TypeRef.normalize).forM extended.checkRoot = (roots.map TypeRef.normalize).forM context.checkRoot :=
    forM_congr (List.forall_mem_map.mpr fun root hroot => h.checkRoot_eq (hroots root hroot).normalize)
  have hwithin : (Collection.start (roots.map TypeRef.normalize)).IsWithin (·.UsesOnly known) :=
    Collection.isWithin_start (List.forall_mem_map.mpr fun root hroot => (hroots root hroot).normalize.normalize)
  unfold collect
  simp only [hchecks, Collection.run_eq h hwithin]

/-- **Unrelated declarations do not interfere.** Where no original declaration refers to a further one, and no root text names one, the roots are the same with the further declarations and without, and so is what becomes of their collection. A text with a tuple names the type that stands for tuples, and one with a question mark the wrapper of optional values. -/
theorem collect_of_extension {declarations further all : List Declaration} {snapshot extended : Snapshot} {texts : List String}
    (haccepted : Snapshot.ofDeclarations declarations = .ok snapshot) (hextended : Snapshot.ofDeclarations all = .ok extended)
    (hperm : all.Perm (declarations ++ further))
    (hdeclarations : ∀ added ∈ further, ∀ declaration ∈ declarations, ¬declaration.RefersTo added.name)
    (htexts : ∀ added ∈ further, ∀ text ∈ texts, ∀ type, TypeRef.parse text = .ok type → added.name ∉ type.names) :
    texts.map extended.resolveType = texts.map snapshot.resolveType ∧
      ∀ roots, texts.mapM snapshot.resolveType = .ok roots → ∀ options signal fuel,
        (Context.mk extended options).collect signal fuel roots = (Context.mk snapshot options).collect signal fuel roots := by
  have hsnapshot := Snapshot.isExtendedBy_of_perm haccepted hextended hperm hdeclarations
  have hknown {text : String} (htext : text ∈ texts) (type : TypeRef) (hparse : TypeRef.parse text = .ok type) :
      type.UsesOnly (· ∉ further.map (·.name)) := by
    intro name hname hadded
    obtain ⟨added, hmem, rfl⟩ := List.mem_map.mp hadded
    exact htexts added hmem text htext type hparse hname
  refine ⟨List.map_congr_left fun text htext => hsnapshot.resolveType_eq (hknown htext), ?_⟩
  intro roots hroots options signal fuel
  have hcontext : (Context.mk snapshot options).IsExtendedBy ⟨extended, options⟩ (· ∉ further.map (·.name)) := ⟨rfl, hsnapshot⟩
  refine hcontext.collect_eq ?_ signal fuel
  intro root hroot
  obtain ⟨text, htext, hresolve⟩ := exists_of_mem_mapM (mapM_eq_ok_iff.mp hroots) hroot
  obtain ⟨type, hparse, rfl⟩ := map_eq_ok_iff.mp hresolve
  exact (hknown htext type hparse).bindArguments

/-- A declaration that refers to others, but that they do not refer to. -/
def cubeDeclaration : Declaration where
  name := "Demo.Cube"
  namespaceName := some "Demo"
  base := some (.named "Demo.Box" [.named "int" []])

def cubeSnapshot : Snapshot := ⟨[boxDeclaration.bindParameters ["T"], cubeDeclaration, plainDeclaration, unionDeclaration]⟩

theorem ofDeclarations_cubeSnapshot :
    Snapshot.ofDeclarations [boxDeclaration, cubeDeclaration, plainDeclaration, unionDeclaration] = .ok cubeSnapshot := by
  rw [Snapshot.ofDeclarations_of_sorted (by decide +kernel)]
  rfl

/-- With the cube declared the union and the box are collected all the same. -/
theorem collect_beside_cube :
    cubeSnapshot.resolveType "Demo.Box<T>" = .ok boxType ∧
      ∃ model, (Context.mk cubeSnapshot {}).collect .never 60 [unionType, boxType] = some (.ok model) := by
  have hdeclarations : ∀ added ∈ [cubeDeclaration], ∀ declaration ∈ [boxDeclaration, plainDeclaration, unionDeclaration],
      ¬declaration.RefersTo added.name := by
    decide +kernel
  have hunion : TypeRef.parse "Demo.Shape" = .ok (.named "Demo.Shape" []) := by decide +kernel
  have hbox : TypeRef.parse "Demo.Box<T>" = .ok (.named "Demo.Box" [.named "T" []]) := by decide +kernel
  have htexts : ∀ added ∈ [cubeDeclaration], ∀ text ∈ ["Demo.Shape", "Demo.Box<T>"], ∀ type, TypeRef.parse text = .ok type →
      added.name ∉ type.names := by
    intro added hadded text htext type hparse
    rw [List.mem_singleton.mp hadded]
    rw [List.mem_pair] at htext
    rcases htext with rfl | rfl
    · rw [← Except.ok.inj (hunion.symm.trans hparse)]
      decide +kernel
    · rw [← Except.ok.inj (hbox.symm.trans hparse)]
      decide +kernel
  obtain ⟨hroots, hcollect⟩ := collect_of_extension ofDeclarations_boxContext ofDeclarations_cubeSnapshot
    (by decide +kernel) hdeclarations htexts
  have hresolve : ["Demo.Shape", "Demo.Box<T>"].mapM boxContext.snapshot.resolveType = .ok [unionType, boxType] := by decide +kernel
  have hsome : ((boxContext.collect .never 60 [unionType, boxType]).bind Except.toOption).isSome = true := by decide +kernel
  obtain ⟨model, hmodel⟩ := Option.isSome_iff_exists.mp hsome
  refine ⟨?_, model, ?_⟩
  · have hsame : cubeSnapshot.resolveType "Demo.Box<T>" = boxContext.snapshot.resolveType "Demo.Box<T>" :=
      List.map_inj_left.mp hroots "Demo.Box<T>" (by simp)
    rw [hsame]
    decide +kernel
  · rw [hcollect _ hresolve {} .never 60]
    exact eq_ok_of_toOption hmodel

end Context

end SchemaClosure
