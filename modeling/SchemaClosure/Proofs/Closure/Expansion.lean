import SchemaClosure.Proofs.Closure.Cancellation
import SchemaClosure.Proofs.Closure.Termination
import SchemaClosure.Proofs.Snapshot.Expansion

/-!
Collections end where generic types do not expand. Built types lead to built types, and there are finitely many of them; so a collection of any roots ends, and discovers each identity once: `collect_terminates`.
-/

namespace SchemaClosure

open Relation

namespace Snapshot.IsBuilt

variable {context : Context} {roots : List TypeRef} {type target : TypeRef}

/-- Built types lead to built types, whatever the shape of the type. -/
theorem leadsTo (hsnapshot : context.snapshot.IsNonExpanding) (h : context.snapshot.IsBuilt roots type)
    (hleads : context.LeadsTo type target) : context.snapshot.IsBuilt roots target.normalize := by
  have hargument : ∀ {argument}, argument ∈ type.arguments → context.snapshot.IsBuilt roots argument.normalize := by
    intro argument hmem
    rw [(h.argument hmem).normalize_eq]
    exact h.argument hmem
  obtain ⟨edge, hdiscovers, rfl⟩ := hleads
  cases hdiscovers with
  | containerArgument hshape hmem => exact hargument hmem
  | optionalValue hshape => exact hargument (Context.mem_arguments_of_nullableInner? (Context.nullableInner?_of_classify hshape))
  | member hshape hlaidOut hlayout hmem hcodec =>
    obtain ⟨members, hmembers, hlayout⟩ := Context.ofMembers_of_layout hlayout
    have hnormal : context.snapshot.IsBuilt roots type.normalize := h.normalize_eq.symm ▸ h
    obtain ⟨hfields, hproperties⟩ := hnormal.members hsnapshot hmembers
    rcases Layout.declaredType_of_mem_members hlayout hmem with ⟨property, hproperty, htype⟩ | ⟨field, hfield, htype⟩
    · rw [htype]
      exact hproperties property hproperty
    · rw [htype]
      exact hfields field hfield
  | unionCase hshape hunion hkept =>
    obtain ⟨hdeclaration, -⟩ := Context.declaration?_of_classify hshape (Shape.declaration?_of_union? hunion)
    have hcase := Declaration.unionCase_mem_collectedTypes (mem_of_lookup_eq_some hkept)
    exact written (normalize_mem_writtenParts (mem_of_declaration? hdeclaration) hcase)
  | definition hshape =>
    obtain ⟨hdeclaration, -⟩ := Context.declaration?_of_classify hshape rfl
    have hwritten := definition_mem_writtenParts (mem_of_declaration? hdeclaration)
    rw [Edge.target_ofType, TypeRef.normalize_eq_self (Declaration.isTupleFree_definition _)]
    exact written hwritten
  | instanceArgument hshape hmem => exact hargument hmem

end Snapshot.IsBuilt

namespace Context

variable {context : Context} {limit : Nat}

/-- Where walks along bases end, every type resolves or fails to. -/
theorem isSome_resolve (h : ∀ type, (context.snapshot.lineage limit type).isSome = true) (type : TypeRef) :
    (context.resolve limit type).isSome = true := by
  have hlayout (declaration : Declaration) : (context.layout limit type declaration).isSome = true := by
    rw [layout, Snapshot.members, Option.isSome_map, Option.isSome_map]
    exact h type
  have hobject (declaration : Declaration) : (context.objectSteps limit type declaration).isSome = true := by
    rw [objectSteps, resolveObject, Option.isSome_map, Option.isSome_map]
    exact hlayout declaration
  unfold resolve
  split
  · rfl
  · rename_i shape hshape
    cases shape with
    | definition declaration =>
      rw [stepsOfShape, definitionSteps, Option.isSome_map]
      split
      · rfl
      · exact hobject declaration
    | instantiation declaration =>
      simp only [stepsOfShape, instantiationSteps]
      split
      · rfl
      · rw [Option.isSome_map]
        exact hlayout declaration
    | object declaration => exact hobject declaration
    | served => rfl
    | array element template => rfl
    | nullable inner => rfl
    | container template => rfl
    | enumeration declaration => rfl
    | union declaration => rfl

end Context

namespace Collection

variable {context : Context} {limit fuel : Nat} {collection next before after : Collection} {type : TypeRef}

/-- The next step discovers the type, which has not been visited so far. -/
def Dispatches (collection : Collection) (type : TypeRef) : Prop :=
  ∃ edge rest, collection.pending = .visit edge :: rest ∧ type = edge.target.normalize ∧ type.identity ∉ collection.visited

theorem mem_visited_moves {identity : TypeIdentity} (h : identity ∈ collection.visited) (hmoves : collection.Moves context next) :
    identity ∈ next.visited := by
  rcases moves_cases hmoves with ⟨entry, rest, -, rfl⟩ | ⟨edge, rest, -, -, rfl⟩ | ⟨edge, rest, limit, resolution, -, -, -, rfl⟩
  · exact h
  · exact h
  · exact List.mem_cons_of_mem _ h

theorem mem_visited_steps {identity : TypeIdentity} (h : identity ∈ collection.visited)
    (hsteps : ReflTransGen (Moves context) collection next) : identity ∈ next.visited := by
  induction hsteps with
  | refl => exact h
  | tail _ hmoves ih => exact mem_visited_moves ih hmoves

theorem Dispatches.mem_visited (h : collection.Dispatches type) (hmoves : collection.Moves context next) :
    type.identity ∈ next.visited := by
  obtain ⟨edge, rest, hsteps, rfl, hfresh⟩ := h
  rcases moves_cases hmoves with ⟨entry, rest', hsteps', rfl⟩ | ⟨edge', rest', hsteps', hvisited, rfl⟩ |
      ⟨edge', rest', limit, resolution, hsteps', -, -, rfl⟩
  · simp [hsteps] at hsteps'
  · obtain ⟨rfl, -⟩ : edge = edge' ∧ rest = rest' := by simpa [hsteps] using hsteps'
    exact absurd hvisited hfresh
  · obtain ⟨rfl, -⟩ : edge = edge' ∧ rest = rest' := by simpa [hsteps] using hsteps'
    exact List.mem_cons_self

/-- Once a type has been dispatched, no type with its identity is dispatched again. -/
theorem Dispatches.identity_ne {later : TypeRef} (h : before.Dispatches type) (hmoves : before.Moves context next)
    (hsteps : ReflTransGen (Moves context) next after) (hlater : after.Dispatches later) : type.identity ≠ later.identity := by
  obtain ⟨_, _, -, -, hfresh⟩ := hlater
  intro heq
  exact hfresh (heq ▸ mem_visited_steps (h.mem_visited hmoves) hsteps)

end Collection

namespace Context

variable {context : Context} {declarations : List Declaration}

theorem isSome_collect {fuel : Nat} {roots : List TypeRef} (h : (context.collect .never fuel roots).isSome = true) (signal : Signal) :
    (context.collect signal fuel roots).isSome = true := by
  obtain ⟨outcome, hcollect⟩ := Option.isSome_iff_exists.mp h
  rw [collect_of_polls hcollect signal]
  rfl

theorem exists_collects (haccepted : Snapshot.ofDeclarations declarations = .ok context.snapshot)
    (hbases : ∀ declaration ∈ context.snapshot.declarations, declaration.hasBareBase = false)
    (hsnapshot : context.snapshot.IsNonExpanding) (roots : List TypeRef) : ∃ outcome, context.Collects roots outcome := by
  cases hchecked : (roots.map TypeRef.normalize).forM context.checkRoot with
  | error error => exact ⟨_, collects_iff.mpr (Or.inl ⟨error, hchecked, rfl⟩)⟩
  | ok checked =>
    have hroots := checkRoots_eq_ok.mp hchecked
    have hresolves (type : TypeRef) (_ : context.snapshot.IsBuilt roots type) :
        ∃ limit outcome, context.resolve limit type = some outcome :=
      ⟨_, Option.isSome_iff_exists.mp (isSome_resolve (Snapshot.isSome_lineage haccepted hbases) type)⟩
    have hfinite (type : TypeRef) (h : context.snapshot.IsBuilt roots type) :
        type.identity ∈ (context.snapshot.buildable roots).map TypeRef.identity :=
      List.mem_map_of_mem h.mem_buildable
    have hwithin : (Collection.start (roots.map TypeRef.normalize)).IsWithin (context.snapshot.IsBuilt roots) := by
      intro target hmem
      rw [Collection.start, Step.targets_visits] at hmem
      obtain ⟨root, hroot, rfl⟩ := List.mem_map.mp hmem
      rw [TypeRef.normalize_normalize]
      exact .atom (Snapshot.normalize_mem_atoms hroot)
    obtain ⟨outcome, hends⟩ := Collection.exists_ends (fun h hleads => h.leadsTo hsnapshot hleads) hresolves hfinite _ hwithin
    exact ⟨outcome, (collects_iff_ends hroots).mpr hends⟩

/-- Where no base is a type parameter and generic types do not expand, as where there are none, every collection ends. On the way no identity is dispatched twice. -/
theorem collect_terminates (haccepted : Snapshot.ofDeclarations declarations = .ok context.snapshot)
    (hbases : ∀ declaration ∈ context.snapshot.declarations, declaration.hasBareBase = false) :
    (context.snapshot.IsNonExpanding → ∀ roots signal, ∃ fuel outcome, context.collect signal fuel roots = some outcome) ∧
      ((∀ declaration ∈ context.snapshot.declarations, declaration.isGeneric = false) → context.snapshot.IsNonExpanding) ∧
      ∀ (before next after : Collection) (type later : TypeRef), before.Dispatches type → before.Moves context next →
        ReflTransGen (Collection.Moves context) next after → after.Dispatches later → type.identity ≠ later.identity := by
  refine ⟨?_, Snapshot.isNonExpanding_of_isGeneric_eq_false, ?_⟩
  · intro hsnapshot roots signal
    obtain ⟨outcome, fuel, hfuel⟩ := exists_collects haccepted hbases hsnapshot roots
    exact ⟨fuel, Option.isSome_iff_exists.mp (isSome_collect (hfuel ▸ rfl) signal)⟩
  · intro before next after type later hdispatches hmoves hsteps hlater
    exact hdispatches.identity_ne hmoves hsteps hlater

def ownedDeclaration : Declaration where
  name := "Demo.Owned"
  namespaceName := some "Demo"
  parameters := [{ name := "T" }]
  properties := [{ name := "Owner", type := .named "T" [] },
    { name := "Others", type := .named "System.Collections.Generic.List" [.named "Demo.Chain" [.named "T" []]] }]

def chainDeclaration : Declaration where
  name := "Demo.Chain"
  namespaceName := some "Demo"
  parameters := [{ name := "T" }]
  attributes := [.serializableObject true]
  base := some (.named "Demo.Owned" [.named "T" []])
  properties := [{ name := "Next", type := .named "Demo.Chain" [.named "T" []] },
    { name := "Ends", type := .tuple [.named "Demo.Chain" [.named "Demo.Leaf" []], .array (.named "T" []) 1] }]

def chainLeafDeclaration : Declaration where
  name := "Demo.Leaf"
  namespaceName := some "Demo"
  attributes := [.serializableObject true]
  base := some (.named "Demo.Owned" [.named "Demo.Leaf" []])
  properties := [{ name := "Chains", type := .named "Demo.Chain" [.array (.named "Demo.Leaf" []) 1] }]

/-- Generic types that lead to each other, up along their bases and through their members. -/
def chainContext : Context where
  snapshot := ⟨[chainDeclaration.bindParameters ["T"], chainLeafDeclaration, ownedDeclaration.bindParameters ["T"]]⟩
  options := {}

theorem ofDeclarations_chainContext :
    Snapshot.ofDeclarations [chainDeclaration, chainLeafDeclaration, ownedDeclaration] = .ok chainContext.snapshot := by
  rw [Snapshot.ofDeclarations_of_sorted (by decide +kernel)]
  rfl

theorem collect_terminates_chain :
    chainContext.snapshot.IsNonExpanding ∧
      ∀ roots signal, ∃ fuel outcome, chainContext.collect signal fuel roots = some outcome := by
  have hsnapshot : chainContext.snapshot.IsNonExpanding := by decide +kernel
  exact ⟨hsnapshot, (collect_terminates ofDeclarations_chainContext (by decide +kernel)).1 hsnapshot⟩

end Context

end SchemaClosure
