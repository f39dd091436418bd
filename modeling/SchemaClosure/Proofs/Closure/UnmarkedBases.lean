import SchemaClosure.Proofs.Closure.Blame
import SchemaClosure.Proofs.Closure.RootEntries

/-!
Interfaces and abstract classes without union declarations. As roots they are missing their unions. Below the roots they are left alone if a codec from elsewhere serves them, and are reported as shapes otherwise: as hidden if they are, and as not marked if they are not. Generic ones from outside the compilation are a case of their own.
-/

namespace SchemaClosure

open Relation

namespace Declaration

/-- An interface or abstract class without union declarations. -/
def isUnmarked (declaration : Declaration) : Bool := declaration.isPolymorphicBase && !declaration.attributes.hasUnions

/-- A generic type from outside the compilation. -/
def isForeignGeneric (declaration : Declaration) : Bool := declaration.isGeneric && declaration.isExternal

variable {declaration : Declaration}

theorem isPolymorphicBase_of_isUnmarked (h : declaration.isUnmarked = true) : declaration.isPolymorphicBase = true :=
  (Bool.and_eq_true_iff.mp h).1

theorem hasUnions_of_isUnmarked (h : declaration.isUnmarked = true) : declaration.attributes.hasUnions = false := by
  simpa using (Bool.and_eq_true_iff.mp h).2

theorem kind_ne_enumType (h : declaration.isPolymorphicBase = true) : declaration.kind ≠ .enumType := by
  intro hkind
  simp [isPolymorphicBase, hkind] at h

end Declaration

theorem CollectError.eq_missingUnion_of_reachedThrough {error : CollectError} {member : Option String} {identity : TypeIdentity}
    (h : error.reachedThrough member = .missingUnion identity) : error = .missingUnion identity := by
  unfold reachedThrough at h
  split at h
  · simp at h
  · exact h

/-- The shapes that have no use for the declaration of the type. -/
def Shape.isElsewhere : Shape → Bool
  | .served | .nullable _ | .container _ => true
  | _ => false

namespace Context

/-- What is wrong with an interface or abstract class that is not served elsewhere. -/
def obstacle (context : Context) (type : TypeRef) : ShapeReason :=
  if (context.snapshot.accessibility type).isVisible then .unmarkedPolymorphic
  else .inaccessible (context.snapshot.accessibility type)

/-- A generic interface or abstract class from outside the compilation, without union declarations and applied to its own parameters. -/
structure IsForeignDefinition (context : Context) (type : TypeRef) (declaration : Declaration) : Prop where
  declared : context.snapshot.declaration? type = some declaration
  isUnmarked : declaration.isUnmarked = true
  isForeign : declaration.isForeignGeneric = true
  isDefinition : context.snapshot.isDefinition type = true

variable {context : Context} {limit : Nat} {type : TypeRef} {declaration : Declaration} {identity : TypeIdentity}

theorem classifyDeclared_unmarked (hdeclaration : context.snapshot.declaration? type = some declaration)
    (hunmarked : declaration.isUnmarked = true) (hlocal : declaration.isForeignGeneric = false) :
    (context.ServedElsewhere type ∧ context.classifyDeclared type declaration = .ok .served) ∨
      context.classifyDeclared type declaration = .error (.shape type (context.obstacle type)) := by
  have hbase := Declaration.isPolymorphicBase_of_isUnmarked hunmarked
  simp only [classifyDeclared, hbase, Declaration.hasUnions_of_isUnmarked hunmarked, Declaration.kind_ne_enumType hbase, obstacle]
  by_cases hformatter : declaration.attributes.formatter?.isSome = true
  · exact Or.inl ⟨.formatter hdeclaration hformatter, if_pos hformatter⟩
  · rw [if_neg hformatter]
    cases hvisible : (context.snapshot.accessibility type).isVisible with
    | false => exact Or.inr rfl
    | true =>
      cases hexternal : declaration.isExternal with
      | false => exact Or.inr rfl
      | true =>
        have hplain : declaration.isGeneric = false := by
          rwa [Declaration.isForeignGeneric, hexternal, Bool.and_true] at hlocal
        refine Or.inl ⟨.external hdeclaration hplain hexternal, ?_⟩
        simp [hplain]

theorem classifyNamed_unmarked (hdeclaration : context.snapshot.declaration? type = some declaration)
    (hunmarked : declaration.isUnmarked = true) (hlocal : declaration.isForeignGeneric = false) :
    (context.ServedElsewhere type ∧ ∃ shape, context.classifyNamed type = .ok shape ∧ shape.isElsewhere = true) ∨
      context.classifyNamed type = .error (.shape type (context.obstacle type)) := by
  cases htemplate : if type.isGeneric then Catalog.containerTemplate? type.unboundSignature else none with
  | some template =>
    simp only [Option.ite_none_right_eq_some] at htemplate
    refine Or.inl ⟨.container htemplate.1 (by rw [htemplate.2]; rfl), .container template, ?_, rfl⟩
    simp [classifyNamed, htemplate, hdeclaration, Declaration.hasUnions_of_isUnmarked hunmarked]
  | none =>
    simp only [classifyNamed, htemplate, hdeclaration]
    rcases classifyDeclared_unmarked hdeclaration hunmarked hlocal with ⟨helsewhere, hserved⟩ | herror
    · exact Or.inl ⟨helsewhere, .served, hserved, rfl⟩
    · exact Or.inr herror

/-- An interface or abstract class without union declarations is served elsewhere, or has no shape. -/
theorem classify_unmarked (hdeclaration : context.snapshot.declaration? type = some declaration)
    (hunmarked : declaration.isUnmarked = true) (hlocal : declaration.isForeignGeneric = false) :
    (context.ServedElsewhere type ∧ ∃ shape, context.classify type = .ok shape ∧ shape.isElsewhere = true) ∨
      context.classify type = .error (.shape type (context.obstacle type)) := by
  have hnamed := Snapshot.eq_named_of_declaration? hdeclaration
  have harray : type.arrayParts? = none := by rw [hnamed]; rfl
  have hparameter : type.isParameter = false := by rw [hnamed]; rfl
  simp only [classify, harray, hparameter, Bool.or_false]
  by_cases hterminal : context.options.isTerminal type.identity.text = true
  · rw [if_pos hterminal]
    exact Or.inl ⟨servedElsewhere_iff.mpr (Or.inl hterminal), .served, rfl, rfl⟩
  · rw [if_neg hterminal]
    by_cases hcodec : (context.options.customCodec? type.identity.text).isSome = true
    · rw [if_pos hcodec]
      exact Or.inl ⟨.customCodec hcodec, .served, rfl, rfl⟩
    · rw [if_neg hcodec]
      cases hnullable : type.nullableInner? with
      | some inner => exact Or.inl ⟨.nullable (by rw [TypeRef.isNullable, hnullable]; rfl), .nullable inner, rfl, rfl⟩
      | none => exact classifyNamed_unmarked hdeclaration hunmarked hlocal

/-- The unmarked types that are resolved by their declarations are generic ones from outside the compilation. -/
theorem isForeignGeneric_of_classify {shape : Shape} (h : context.classify type = .ok shape)
    (hshape : shape.declaration? = some declaration) (hunmarked : declaration.isUnmarked = true) :
    declaration.isForeignGeneric = true := by
  by_contra hlocal
  obtain ⟨hdeclaration, -⟩ := declaration?_of_classify h hshape
  rcases classify_unmarked hdeclaration hunmarked (eq_false_of_ne_true hlocal) with ⟨-, other, hother, helsewhere⟩ | herror
  · rw [h] at hother
    obtain rfl := Except.ok.inj hother
    cases shape <;> simp_all [Shape.isElsewhere, Shape.declaration?]
  · simp [h] at herror

theorem isForeignDefinition_of_resolve (h : context.resolve limit type = some (.error (.missingUnion identity))) :
    type.identity = identity ∧ ∃ declaration, context.IsForeignDefinition type declaration := by
  have hidentity := identity?_of_resolve h
  refine ⟨(Option.some.inj hidentity).symm, ?_⟩
  unfold resolve at h
  split at h
  · rename_i error herror
    obtain ⟨reason, rfl⟩ := exists_shape_of_classify herror
    simp [CollectError.shape] at h
  · rename_i shape hshape
    rcases stepsOfShape_eq_error h with ⟨declaration, hunion, hmissing⟩ | hmembers
    · obtain ⟨-, hunions⟩ := unionSteps_eq_error hmissing
      obtain ⟨-, hbase, hdefinition⟩ := (suits_of_classify hshape).of_union? hunion
      have hdeclared := Shape.declaration?_of_union? hunion
      have hunmarked : declaration.isUnmarked = true := by rw [Declaration.isUnmarked, hbase, hunions]; rfl
      have hforeign := isForeignGeneric_of_classify hshape hdeclared hunmarked
      exact ⟨declaration, (declaration?_of_classify hshape hdeclared).1, hunmarked, hforeign,
        hdefinition (Bool.and_eq_true_iff.mp hforeign).1⟩
    · cases hmembers

end Context

namespace Collection

variable {context : Context} {roots : List TypeRef} {edge : Edge} {collection : Collection} {declaration : Declaration}

theorem moves_of_toOption {limit : Nat} {next : Collection}
    (h : (collection.advance context limit false).bind Except.toOption = some next) (hpending : next.pending ≠ []) :
    collection.Moves context next := by
  have hadvance := eq_some_ok_of_toOption h
  refine ⟨?_, limit, hadvance⟩
  intro hdone
  rw [advance, hdone] at hadvance
  exact hpending (Except.ok.inj (Option.some.inj hadvance) ▸ hdone)

/-- A collection of roots that pass their checks is about to discover the type that an edge leads to. -/
structure ComesTo (context : Context) (roots : List TypeRef) (edge : Edge) (collection : Collection) : Prop where
  checked : ∀ root ∈ roots, context.checkRoot root.normalize = .ok ()
  steps : ReflTransGen (Moves context) (start (roots.map TypeRef.normalize)) collection
  pending : ∃ rest, collection.pending = .visit edge :: rest
  fresh : edge.target.normalize.identity ∉ collection.visited

/-- A type without a shape is reported with the member that it is reached through. -/
theorem ComesTo.collects_shape (h : collection.ComesTo context roots edge) {reason : ShapeReason}
    (hclassify : context.classify edge.target.normalize = .error (.shape edge.target.normalize reason)) :
    context.Collects roots (.error (.unsupportedShape edge.target.normalize.identity edge.member reason)) := by
  obtain ⟨rest, hpending⟩ := h.pending
  have hresolve : context.resolve 0 edge.target.normalize = some (.error (.shape edge.target.normalize reason)) := by
    rw [Context.resolve, hclassify]
  have hfails : collection.Fails context (.unsupportedShape edge.target.normalize.identity edge.member reason) :=
    fails_iff.mpr ⟨edge, rest, 0, _, hpending, h.fresh, hresolve, rfl⟩
  exact (Context.collects_iff_ends h.checked).mpr (ends_of_steps h.steps (.fails hfails))

theorem ComesTo.exists_moves (h : collection.ComesTo context roots edge) {shape : Shape}
    (hclassify : context.classify edge.target.normalize = .ok shape) (helsewhere : shape.isElsewhere = true) :
    ∃ next, collection.Moves context next := by
  obtain ⟨rest, hpending⟩ := h.pending
  have hresolve : ∃ resolution, context.resolve 0 edge.target.normalize = some (.ok resolution) := by
    rw [Context.resolve, hclassify]
    cases shape <;> simp [Shape.isElsewhere] at helsewhere
    all_goals exact ⟨_, rfl⟩
  obtain ⟨resolution, hresolve⟩ := hresolve
  exact ⟨_, moves_discover hpending h.fresh hresolve⟩

end Collection

namespace Context

open Collection

variable {context : Context} {roots : List TypeRef} {identity : TypeIdentity}

theorem missingUnion_of_collect {signal : Signal} {fuel : Nat}
    (h : context.collect signal fuel roots = some (.error (.missingUnion identity))) :
    (∃ root ∈ roots, root.normalize.identity = identity) ∨
      ∃ type declaration, context.Reachable roots type ∧ type.identity = identity ∧ context.IsForeignDefinition type declaration := by
  rcases collects_iff.mp (collects_of_ne_cancelled h (by simp)) with ⟨error, hchecked, herror⟩ | ⟨-, hends⟩
  · obtain rfl := Except.error.inj herror
    obtain ⟨checked, hmem, hroot⟩ := exists_of_forM_eq_error hchecked
    obtain ⟨root, hroots, rfl⟩ := List.mem_map.mp hmem
    exact Or.inl ⟨root, hroots, Option.some.inj (identity?_of_checkRoot hroot).symm⟩
  · obtain ⟨last, htraced, -, hend⟩ := hends.invariant isTraced_start fun htraced hmoves => htraced.moves hmoves
    rcases hend with ⟨-, hmodel⟩ | ⟨error, hfails, herror⟩
    · simp at hmodel
    · obtain ⟨edge, rest, limit, cause, hpending, -, hresolve, rfl⟩ := fails_iff.mp hfails
      obtain rfl := CollectError.eq_missingUnion_of_reachedThrough (Except.error.inj herror).symm
      obtain ⟨path, hpath, -⟩ := htraced edge (by rw [hpending]; exact List.mem_cons_self)
      obtain ⟨hidentity, declaration, hforeign⟩ := isForeignDefinition_of_resolve hresolve
      exact Or.inr ⟨_, declaration, hpath.reachable, hidentity, hforeign⟩

/-- If unions are missing, then they are missing from a root, or from the definition of a generic type from outside the compilation. Any other interface or abstract class without union declarations that a collection comes to is passed, as its codec comes from elsewhere, or it is what the collection reports: as hidden if it is, and as not marked if it is not. -/
theorem unmarked_of_collect (context : Context) (roots : List TypeRef) :
    (∀ (signal : Signal) (fuel : Nat) (identity : TypeIdentity),
      context.collect signal fuel roots = some (.error (.missingUnion identity)) →
        (∃ root ∈ roots, root.normalize.identity = identity) ∨
          ∃ type declaration, context.Reachable roots type ∧ type.identity = identity ∧
            context.IsForeignDefinition type declaration) ∧
      ∀ (edge : Edge) (collection : Collection) (declaration : Declaration), collection.ComesTo context roots edge →
        context.snapshot.declaration? edge.target.normalize = some declaration → declaration.isUnmarked = true →
        declaration.isForeignGeneric = false →
        (context.ServedElsewhere edge.target.normalize ∧
          ∃ shape next, context.classify edge.target.normalize = .ok shape ∧ shape.isElsewhere = true ∧
            collection.Moves context next) ∨
          context.Collects roots (.error
            (.unsupportedShape edge.target.normalize.identity edge.member (context.obstacle edge.target.normalize))) := by
  refine ⟨fun signal fuel identity => missingUnion_of_collect, ?_⟩
  intro edge collection declaration hcomes hdeclaration hunmarked hlocal
  rcases classify_unmarked hdeclaration hunmarked hlocal with ⟨helsewhere, shape, hshape, hpassed⟩ | herror
  · obtain ⟨next, hmoves⟩ := hcomes.exists_moves hshape hpassed
    exact Or.inl ⟨helsewhere, shape, next, hshape, hpassed, hmoves⟩
  · exact Or.inr (hcomes.collects_shape herror)

def carrierType : TypeRef := .named "Demo.Carrier" []

def shipmentType : TypeRef := .named "Demo.Shipment" []

def carrierDeclaration : Declaration where
  name := "Demo.Carrier"
  namespaceName := some "Demo"
  kind := .interfaceType

def hiddenCarrierDeclaration : Declaration where
  name := "Demo.Carrier"
  namespaceName := some "Demo"
  kind := .interfaceType
  accessibility := .privateAccess

def shipmentDeclaration : Declaration where
  name := "Demo.Shipment"
  namespaceName := some "Demo"
  attributes := [.serializableObject true]
  properties := [{ name := "Carrier", type := carrierType }]

def shipmentContext : Context where
  snapshot := ⟨[carrierDeclaration, shipmentDeclaration]⟩
  options := {}

/-- A shipment whose carrier is a hidden interface. -/
def hiddenShipmentContext : Context where
  snapshot := ⟨[hiddenCarrierDeclaration, shipmentDeclaration]⟩
  options := {}

theorem exists_comesTo_carrier : ∃ collection, ComesTo shipmentContext [shipmentType] (.ofMember "Carrier" carrierType) collection := by
  have hlast : ((((start [shipmentType]).advance shipmentContext 5 false).bind Except.toOption).bind fun next =>
      ((next.advance shipmentContext 5 false).bind Except.toOption)).map (fun last => (last.visited, last.pending)) =
      some ([shipmentType.identity], [.visit (.ofMember "Carrier" carrierType)]) := by decide +kernel
  obtain ⟨last, hlast, hstate⟩ := Option.map_eq_some_iff.mp hlast
  obtain ⟨hvisited, hpending⟩ := Prod.mk.inj hstate
  obtain ⟨next, hnext, hlast⟩ := Option.bind_eq_some_iff.mp hlast
  have hsecond : next.Moves shipmentContext last := moves_of_toOption hlast (by simp [hpending])
  have hfirst : (start [shipmentType]).Moves shipmentContext next := moves_of_toOption hnext hsecond.1
  have hchecked : ∀ root ∈ [shipmentType], shipmentContext.checkRoot root.normalize = .ok () := by decide +kernel
  have hfresh : (Edge.ofMember "Carrier" carrierType).target.normalize.identity ∉ last.visited := by
    rw [hvisited]
    decide +kernel
  have hstart : [shipmentType].map TypeRef.normalize = [shipmentType] := by decide +kernel
  refine ⟨last, hchecked, ?_, ⟨[], hpending⟩, hfresh⟩
  rw [hstart]
  exact .head hfirst (.single hsecond)

/-- A root that is an interface misses its unions, and a member's type that is one is reported through the member. -/
theorem unmarked_of_collect_shipment :
    shipmentContext.collect .never 5 [carrierType] = some (.error (.missingUnion carrierType.identity)) ∧
      (∃ root ∈ [carrierType], root.normalize.identity = carrierType.identity) ∧
      shipmentContext.Collects [shipmentType] (.error (.unsupportedShape carrierType.identity (some "Carrier") .unmarkedPolymorphic)) := by
  have hroot : shipmentContext.collect .never 5 [carrierType] = some (.error (.missingUnion carrierType.identity)) := by decide +kernel
  have hnormal : carrierType.normalize = carrierType := by decide +kernel
  have hobstacle : shipmentContext.obstacle carrierType = .unmarkedPolymorphic := by decide +kernel
  have hdeclaration : shipmentContext.snapshot.declaration? carrierType = some carrierDeclaration := by decide +kernel
  have hlocal : ∀ declaration ∈ shipmentContext.snapshot.declarations, declaration.isForeignGeneric = false := by decide
  refine ⟨hroot, ?_, ?_⟩
  · rcases (unmarked_of_collect shipmentContext [carrierType]).1 .never 5 _ hroot with hroot | ⟨_, declaration, -, -, hforeign⟩
    · exact hroot
    · have hdeclared := hlocal declaration (Snapshot.mem_of_declaration? hforeign.declared)
      exact absurd hforeign.isForeign (Bool.eq_false_iff.mp hdeclared)
  · obtain ⟨collection, hcomes⟩ := exists_comesTo_carrier
    have hfate := (unmarked_of_collect shipmentContext [shipmentType]).2 _ collection carrierDeclaration hcomes
    rw [show (Edge.ofMember "Carrier" carrierType).target = carrierType from rfl, hnormal, hobstacle] at hfate
    rcases hfate hdeclaration (by decide) (by decide) with ⟨helsewhere, -⟩ | hreported
    · exact absurd helsewhere (by decide +kernel)
    · exact hreported

/-- The hidden carrier is an interface without union declarations, too, but what is reported is that it is hidden. -/
theorem collect_hidden_carrier :
    Snapshot.ofDeclarations [hiddenCarrierDeclaration, shipmentDeclaration] = .ok hiddenShipmentContext.snapshot ∧
      hiddenShipmentContext.snapshot.declaration? carrierType = some hiddenCarrierDeclaration ∧
      hiddenCarrierDeclaration.isUnmarked = true ∧
      hiddenShipmentContext.collect .never 5 [shipmentType] =
        some (.error (.unsupportedShape carrierType.identity (some "Carrier") (.inaccessible .privateAccess))) := by
  refine ⟨?_, by decide +kernel, by decide, by decide +kernel⟩
  rw [Snapshot.ofDeclarations_of_sorted (by decide +kernel)]
  rfl

end Context

end SchemaClosure
