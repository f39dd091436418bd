import SchemaClosure.Proofs.Closure.Binding
import SchemaClosure.Proofs.Snapshot.Instantiation

/-!
The layout of a generic definition holds for every instantiation. Laying out members does not look at their types, so both fail at the same member or have the same members up to the substitution; and what binds a constructor of the definition binds the same constructor of the instantiation, since types with one identity keep one under the substitution: `layout_instantiation`.
-/

namespace SchemaClosure

def MemberSchema.retype (f : TypeRef → TypeRef) (member : MemberSchema) : MemberSchema :=
  { member with declaredType := f member.declaredType }

def Candidate.retype (f : TypeRef → TypeRef) (candidate : Candidate) : Candidate := { candidate with type := f candidate.type }

def Parameter.retype (f : TypeRef → TypeRef) (parameter : Parameter) : Parameter := { parameter with type := f parameter.type }

theorem Candidate.ofMembers_retype (f : TypeRef → TypeRef) (members : Snapshot.Members) (byName : Bool) :
    ofMembers (members.retype f) byName = (ofMembers members byName).map (retype f) := by
  simp only [ofMembers, Snapshot.Members.retype, List.filter_map, List.map_map, List.map_append, List.filter_append]
  rfl

namespace Layout

/-- Two computations about types with the given identities fail at members of one name, for the same reason, or succeed with related results. -/
inductive GoAlike {α β : Type} (identity identity' : TypeIdentity) (Related : α → β → Prop) :
    Except CollectError α → Except CollectError β → Prop
  | failure (member : String) (expected : KeyMode) : GoAlike identity identity' Related
      (.error (.mixedKeys identity member expected)) (.error (.mixedKeys identity' member expected))
  | success {result : α} {result' : β} (h : Related result result') : GoAlike identity identity' Related (.ok result) (.ok result')

variable {identity identity' : TypeIdentity} {f : TypeRef → TypeRef}

theorem GoAlike.map {α β γ δ : Type} {Related : α → β → Prop} {Related' : γ → δ → Prop} {first : Except CollectError α}
    {second : Except CollectError β} {g : α → γ} {g' : β → δ} (h : GoAlike identity identity' Related first second)
    (hmap : ∀ result result', Related result result' → Related' (g result) (g' result')) :
    GoAlike identity identity' Related' (first.map g) (second.map g') := by
  cases h with
  | failure member expected => exact .failure member expected
  | success h => exact .success (hmap _ _ h)

/-- The same keys and members, each member with the image of its type. -/
structure IsRetyped (f : TypeRef → TypeRef) (layout layout' : Layout) : Prop where
  keyMode : layout'.keyMode = layout.keyMode
  members : layout'.members = layout.members.map (MemberSchema.retype f)

namespace Draft

structure IsRetyped (f : TypeRef → TypeRef) (draft draft' : Draft) : Prop where
  keyMode : draft'.keyMode = draft.keyMode
  members : draft'.members = draft.members.map (MemberSchema.retype f)

variable {draft draft' : Draft} {candidate : Candidate}

theorem IsRetyped.claim (h : draft.IsRetyped f draft') (key : MemberKey) (owner : Option MemberSchema) :
    (draft.claim identity candidate key owner).IsRetyped f
      (draft'.claim identity' (candidate.retype f) key (owner.map (MemberSchema.retype f))) := by
  cases owner with
  | some first => exact ⟨h.keyMode, h.members⟩
  | none =>
    refine ⟨h.keyMode, ?_⟩
    simp only [Draft.claim, Option.map_none, h.members, List.map_append]
    rfl

theorem IsRetyped.claimInteger (h : draft.IsRetyped f draft') (key : Int32) :
    (draft.claimInteger identity candidate key).IsRetyped f (draft'.claimInteger identity' (candidate.retype f) key) := by
  rw [Draft.claimInteger, Draft.claimInteger, h.members, List.find?_map]
  exact h.claim _ _

theorem IsRetyped.claimText (h : draft.IsRetyped f draft') (name : String) :
    (draft.claimText identity candidate name).IsRetyped f (draft'.claimText identity' (candidate.retype f) name) := by
  rw [Draft.claimText, Draft.claimText, h.members, List.find?_map, List.length_map]
  exact h.claim _ _

theorem IsRetyped.takeByName (h : draft.IsRetyped f draft') (warn : Bool) :
    (Draft.takeByName identity warn draft candidate).IsRetyped f
      (Draft.takeByName identity' warn draft' (candidate.retype f)) := by
  unfold Draft.takeByName
  by_cases hwarn : (warn && candidate.attributes.key?.isSome) = true
  · have hwarn' : (warn && (candidate.retype f).attributes.key?.isSome) = true := hwarn
    have hready : (draft.report (ignoredKey identity candidate.name)).IsRetyped f
        (draft'.report (ignoredKey identity' candidate.name)) := ⟨h.keyMode, h.members⟩
    rw [if_pos hwarn, if_pos hwarn']
    exact hready.claimText candidate.name
  · have hwarn' : ¬(warn && (candidate.retype f).attributes.key?.isSome) = true := hwarn
    rw [if_neg hwarn, if_neg hwarn']
    exact h.claimText candidate.name

theorem IsRetyped.fixMode (h : draft.IsRetyped f draft') (mode : KeyMode) :
    GoAlike identity identity' (IsRetyped f) (draft.fixMode identity candidate mode)
      (draft'.fixMode identity' (candidate.retype f) mode) := by
  unfold Draft.fixMode
  rw [h.keyMode]
  split
  · exact .success ⟨rfl, h.members⟩
  · split
    · exact .success h
    · exact .failure candidate.name _

theorem IsRetyped.takeByKey (h : draft.IsRetyped f draft') (marked : Bool) :
    GoAlike identity identity' (IsRetyped f) (Draft.takeByKey identity marked draft candidate)
      (Draft.takeByKey identity' marked draft' (candidate.retype f)) := by
  have hkey : (candidate.retype f).attributes.key? = candidate.attributes.key? := rfl
  unfold Draft.takeByKey
  rw [hkey]
  split
  · cases marked with
    | true => exact .success ⟨h.keyMode, h.members⟩
    | false => exact .success h
  · exact .success ⟨h.keyMode, h.members⟩
  · exact (h.fixMode .integer).map fun _ _ hfixed => hfixed.claimInteger _
  · exact (h.fixMode .text).map fun _ _ hfixed => hfixed.claimText _

theorem IsRetyped.foldl_takeByName (h : draft.IsRetyped f draft') (warn : Bool) (candidates : List Candidate) :
    (candidates.foldl (Draft.takeByName identity warn) draft).IsRetyped f
      ((candidates.map (Candidate.retype f)).foldl (Draft.takeByName identity' warn) draft') := by
  induction candidates generalizing draft draft' with
  | nil => exact h
  | cons candidate rest ih => exact ih (h.takeByName warn)

theorem IsRetyped.foldlM_takeByKey (h : draft.IsRetyped f draft') (marked : Bool) (candidates : List Candidate) :
    GoAlike identity identity' (IsRetyped f) (candidates.foldlM (Draft.takeByKey identity marked) draft)
      ((candidates.map (Candidate.retype f)).foldlM (Draft.takeByKey identity' marked) draft') := by
  induction candidates generalizing draft draft' with
  | nil => exact .success h
  | cons candidate rest ih =>
    rw [List.map_cons, foldlM_takeByKey_cons, foldlM_takeByKey_cons]
    have hnext : GoAlike identity identity' (IsRetyped f) (Draft.takeByKey identity marked draft candidate)
        (Draft.takeByKey identity' marked draft' (candidate.retype f)) := h.takeByKey marked
    generalize Draft.takeByKey identity marked draft candidate = first, Draft.takeByKey identity' marked draft'
      (candidate.retype f) = second at hnext ⊢
    cases hnext with
    | failure member expected => exact .failure member expected
    | success hnext => exact ih hnext

theorem arrange_retype (mode : KeyMode) (members : List MemberSchema) :
    arrange mode (members.map (MemberSchema.retype f)) = (arrange mode members).map (MemberSchema.retype f) := by
  cases mode with
  | integer =>
    rw [arrange, arrange, List.map_mergeSort]
    intro first _ second _
    rfl
  | text => rfl

theorem IsRetyped.finish (h : draft.IsRetyped f draft') : Layout.IsRetyped f draft.finish draft'.finish := by
  have hmode : draft'.finish.keyMode = draft.finish.keyMode := by rw [Draft.finish, h.keyMode, Draft.finish]
  refine ⟨hmode, ?_⟩
  calc draft'.finish.members
      = arrange draft'.finish.keyMode draft'.members := rfl
    _ = arrange draft.finish.keyMode (draft.members.map (MemberSchema.retype f)) := by rw [hmode, h.members]
    _ = draft.finish.members.map (MemberSchema.retype f) := arrange_retype _ _

end Draft

/-- Members with other types are laid out alike. -/
theorem ofMembers_retype (options : Options) (attributes : Attributes) (members : Snapshot.Members) :
    GoAlike identity identity' (IsRetyped f) (ofMembers options identity attributes members)
      (ofMembers options identity' attributes (members.retype f)) := by
  have hstart (mode : Option KeyMode) (diagnostics diagnostics' : List Diagnostic) :
      Draft.IsRetyped f { keyMode := mode, diagnostics } { keyMode := mode, diagnostics := diagnostics' } := ⟨rfl, rfl⟩
  unfold ofMembers
  simp only [Candidate.ofMembers_retype]
  split
  · exact .success ((hstart (some .text) _ _).foldl_takeByName _ _).finish
  · exact ((hstart none _ _).foldlM_takeByKey _ _).map fun _ _ h => h.finish

end Layout

namespace Binding

variable {members : List MemberSchema} {keyMode : KeyMode} {position place : Nat} {parameter : Parameter}
  {constructor : Constructor} {binding : List Nat} {f : TypeRef → TypeRef}

theorem answersAt_retype : AnswersAt (members.map (MemberSchema.retype f)) keyMode position (parameter.retype f) place ↔
    AnswersAt members keyMode position parameter place := by
  simp only [AnswersAt, List.getElem?_map, Option.map_eq_some_iff]
  constructor
  · rintro ⟨-, ⟨member, hmember, rfl⟩, hanswers⟩
    exact ⟨member, hmember, hanswers⟩
  · rintro ⟨member, hmember, hanswers⟩
    exact ⟨member.retype f, ⟨member, hmember, rfl⟩, hanswers⟩

/-- Whether a constructor fits does not change with the types, as long as types with one identity go to such types. -/
theorem Fits.retype (h : Fits members keyMode constructor binding)
    (hidentity : ∀ member ∈ members, ∀ parameter ∈ constructor.parameters,
      member.declaredType.identity = parameter.type.identity → (f member.declaredType).identity = (f parameter.type).identity) :
    Fits (members.map (MemberSchema.retype f)) keyMode (constructor.retype f) binding := by
  have hzip : (constructor.retype f).parameters.zipIdx = constructor.parameters.zipIdx.map (Prod.map (Parameter.retype f) id) :=
    List.zipIdx_map ..
  have hmem : ∀ indexed ∈ constructor.parameters.zipIdx, indexed.1 ∈ constructor.parameters :=
    fun indexed hindexed => List.fst_mem_of_mem_zipIdx hindexed
  rw [Fits, hzip, List.forall₂_map_left_iff]
  refine ((List.forall₂_and_left _ _).mpr ⟨hmem, h⟩).imp ?_
  rintro ⟨parameter, position⟩ place ⟨hparameter, ⟨hplace, honly⟩, member, hmember, htype, hreadable⟩
  refine ⟨⟨answersAt_retype.mpr hplace, fun other hother => honly other (answersAt_retype.mp hother)⟩, member.retype f, ?_, ?_, hreadable⟩
  · rw [List.getElem?_map, hmember, Option.map_some]
  · exact hidentity member (List.mem_of_getElem? hmember) parameter hparameter htype

end Binding

namespace Declaration

/-- The type with the given arguments. -/
def instantiate (declaration : Declaration) (arguments : List TypeRef) : TypeRef := .named declaration.name arguments

/-- What stands for the parameters of a declaration in an instantiation. -/
def replacements (declaration : Declaration) (arguments : List TypeRef) : TypeRef.Bindings :=
  declaration.parameterNames.zip arguments

theorem definition_substitute {declaration : Declaration} (hnodup : declaration.parameterNames.Nodup) {arguments : List TypeRef}
    (harity : arguments.length = declaration.parameters.length) :
    declaration.definition.substitute (declaration.replacements arguments) = declaration.instantiate arguments := by
  have harguments : (declaration.parameters.map fun parameter => TypeRef.parameter parameter.name) =
      declaration.parameterNames.map .parameter := by
    rw [parameterNames, List.map_map]
    rfl
  have hlength : arguments.length = declaration.parameterNames.length := by rw [parameterNames, List.length_map, harity]
  rw [definition, TypeRef.substitute, harguments, replacements, TypeRef.substituteAll_parameters hnodup hlength, instantiate]

end Declaration

namespace Snapshot

variable {snapshot : Snapshot} {declarations : List Declaration} {scope : List String} {declaration : Declaration}

theorem IsRegular.isSaturated_definition (h : snapshot.IsRegular declarations scope) (hmem : declaration ∈ snapshot.declarations) :
    snapshot.IsSaturated declaration.definition where
  rooted parameter := by simp [Declaration.definition]
  arity other hother := by
    have hfind : snapshot.declaration? declaration.definition = some declaration := find?_name_of_mem h.accepted hmem
    rw [hfind] at hother
    rw [← Option.some.inj hother, Declaration.definition, TypeRef.arguments, List.length_map]

theorem IsRegular.isLegible_arguments (h : snapshot.IsRegular declarations scope) (hmem : declaration ∈ snapshot.declarations) :
    ∀ argument ∈ declaration.definition.arguments, argument.isLegible scope = true := by
  rw [Declaration.definition, TypeRef.arguments, List.forall_mem_map]
  exact fun parameter hparameter => Declaration.isLegible_parameter (isLegible_declaration h.legible hmem) hparameter

end Snapshot

namespace Context

open Layout Binding

variable {context : Context} {declarations : List Declaration} {scope : List String} {declaration : Declaration}
  {arguments : List TypeRef}

theorem layout_substitute {type : TypeRef} (hregular : context.snapshot.IsRegular declarations scope)
    (htype : context.snapshot.IsSaturated type) (outer : TypeRef.Bindings) (limit : Nat) (declaration : Declaration) :
    Option.Rel (GoAlike type.identity (type.substitute outer).identity (IsRetyped (·.substitute outer)))
      (context.layout limit type declaration) (context.layout limit (type.substitute outer) declaration) := by
  rw [layout, layout, Snapshot.members_substitute hregular limit htype]
  cases context.snapshot.members limit type with
  | none => exact .none
  | some members => exact .some (ofMembers_retype _ _ _)

theorem exists_ok_of_rel {identity identity' : TypeIdentity} {Related : Layout → Layout → Prop}
    {first second : Option (Except CollectError Layout)} {layout : Layout}
    (h : Option.Rel (GoAlike identity identity' Related) first second) (hfirst : first = some (.ok layout)) :
    ∃ layout', second = some (.ok layout') ∧ Related layout layout' := by
  subst hfirst
  cases h with
  | some halike =>
    cases halike with
    | success hrelated => exact ⟨_, rfl, hrelated⟩

/-- Whatever members a constructor of a type is bound to, the same constructor is bound to after a substitution. -/
theorem fits_substitute {type : TypeRef} {limit : Nat} {layout layout' : Layout} {binding : List Nat} {constructor : Constructor}
    (hlegible : context.snapshot.isLegible scope = true) (htype : ∀ argument ∈ type.arguments, argument.isLegible scope = true)
    (hlayout : context.layout limit type declaration = some (.ok layout)) (outer : TypeRef.Bindings)
    (hretyped : IsRetyped (·.substitute outer) layout layout') (hmem : constructor ∈ context.snapshot.constructors type)
    (hfits : Fits layout.members layout.keyMode constructor binding) :
    Fits layout'.members layout'.keyMode (constructor.retype (·.substitute outer)) binding := by
  obtain ⟨members, hmembers, hlaid⟩ := ofMembers_of_layout hlayout
  obtain ⟨hfields, hproperties⟩ := Snapshot.isLegible_members hlegible htype hmembers
  rw [hretyped.keyMode, hretyped.members]
  apply hfits.retype
  intro member hmember parameter hparameter hidentity
  exact TypeRef.identity_substitute_eq (Layout.isLegible_member hlaid hfields hproperties hmember)
    (Snapshot.isLegible_constructors hlegible htype hmem parameter hparameter) hidentity outer

/-- The layout of a definition is that of every instantiation, up to the types of the members, and a constructor binding of the definition fits the same constructor of the instantiation. -/
theorem layout_instantiation (hregular : context.snapshot.IsRegular declarations scope)
    (hmem : declaration ∈ context.snapshot.declarations) (harity : arguments.length = declaration.parameters.length) :
    (∃ limit outcome, context.layout limit declaration.definition declaration = some outcome) ∧
    (∀ limit, Option.Rel (GoAlike declaration.definition.identity (declaration.instantiate arguments).identity
        (IsRetyped (·.substitute (declaration.replacements arguments))))
      (context.layout limit declaration.definition declaration)
      (context.layout limit (declaration.instantiate arguments) declaration)) ∧
    ∀ limit schema edges binding, context.resolveObject limit declaration.definition declaration = some (.ok (schema, edges)) →
      schema.constructorBinding = some binding →
      (∃ constructor ∈ accessible (context.snapshot.constructors declaration.definition),
        Fits schema.members schema.keyMode constructor binding) ∧
      ∃ layout, context.layout limit (declaration.instantiate arguments) declaration = some (.ok layout) ∧
        ∀ (place : Nat) (constructor : Constructor),
          (context.snapshot.constructors declaration.definition)[place]? = some constructor →
          (context.snapshot.constructors (declaration.instantiate arguments))[place]? =
            some (constructor.retype (·.substitute (declaration.replacements arguments))) ∧
          (Fits schema.members schema.keyMode constructor binding →
            Fits layout.members layout.keyMode (constructor.retype (·.substitute (declaration.replacements arguments))) binding) := by
  have hdefinition := hregular.isSaturated_definition hmem
  have hinstance := Declaration.definition_substitute (hregular.nodup_parameterNames hmem) harity
  have halike (limit : Nat) := layout_substitute hregular hdefinition (declaration.replacements arguments) limit declaration
  rw [← hinstance]
  refine ⟨?_, halike, ?_⟩
  · have hrooted : ∀ other ∈ context.snapshot.declarations, ∀ parameter, other.base ≠ some (.parameter parameter) :=
      fun other hother parameter hbase => (hregular.saturated other hother _ hbase).rooted parameter rfl
    obtain ⟨limit, levels, hlevels⟩ := Snapshot.exists_lineage hregular.accepted hrooted hmem
      (declaration.parameters.map fun parameter => .parameter parameter.name)
    have hsome : (context.layout limit declaration.definition declaration).isSome = true := by
      rw [layout, Snapshot.members, Declaration.definition, hlevels]
      rfl
    exact ⟨limit, Option.isSome_iff_exists.mp hsome⟩
  · intro limit schema edges binding hresolved hbinding
    obtain ⟨layout, hlayout, hschema, -⟩ := layout_of_resolveObject hresolved
    obtain ⟨hbound, hmode, hmembers, -⟩ := objectOfLayout_eq_ok hschema
    obtain ⟨held, -, hlaid⟩ := ofMembers_of_layout hlayout
    obtain ⟨layout', hlayout', hretyped⟩ := exists_ok_of_rel (halike limit) hlayout
    rw [hmembers, hmode]
    rw [hbinding] at hbound
    refine ⟨fits_of_bind (hasDistinctKeys_of_layout hlaid) hbound, layout', hlayout', ?_⟩
    intro place constructor hplace
    refine ⟨?_, ?_⟩
    · rw [Snapshot.constructors_substitute hregular hdefinition, List.getElem?_map, hplace, Option.map_some]
    · exact fits_substitute hregular.legible (hregular.isLegible_arguments hmem) hlayout _ hretyped (List.mem_of_getElem? hplace)

def holderDeclaration : Declaration where
  name := "Demo.Holder"
  namespaceName := some "Demo"
  parameters := [{ name := "T" }]
  attributes := [.serializableObject true]
  properties := [{ name := "Held", type := .named "T" [] }]

/-- Its parameter has the same name as that of its base, and stands for something else. -/
def pairDeclaration : Declaration where
  name := "Demo.Pair"
  namespaceName := some "Demo"
  parameters := [{ name := "T" }]
  attributes := [.serializableObject true]
  base := some (.named "Demo.Holder" [.array (.named "T" []) 1])
  properties := [{ name := "Own", type := .named "T" [] }]
  constructors := [{ parameters := [⟨"held", .array (.named "T" []) 1⟩, ⟨"own", .named "T" []⟩] }]

def pairContext : Context where
  snapshot := ⟨[holderDeclaration.bindParameters ["T"], pairDeclaration.bindParameters ["T"]]⟩
  options := {}

theorem isRegular_pairContext : pairContext.snapshot.IsRegular [holderDeclaration, pairDeclaration] ["T"] where
  accepted := by
    rw [Snapshot.ofDeclarations_of_sorted (by decide +kernel)]
    rfl
  parsed := by
    have hparse : ∀ declaration ∈ [holderDeclaration, pairDeclaration], ∀ type ∈ declaration.mentionedTypes,
        TypeRef.parse type.render = .ok type := by decide +kernel
    exact fun declaration hmem type htype => ⟨type.render, hparse declaration hmem type htype⟩
  flat := by decide +kernel
  distinct := by decide +kernel
  saturated declaration hmem base hbase := by
    have hsaturated : ∀ declaration ∈ pairContext.snapshot.declarations, ∀ base ∈ declaration.base,
        base.isParameter = false ∧ ∀ above ∈ pairContext.snapshot.declaration? base,
          base.arguments.length = above.parameters.length := by decide +kernel
    obtain ⟨hrooted, harity⟩ := hsaturated declaration hmem base hbase
    refine ⟨?_, harity⟩
    rintro parameter rfl
    simp [TypeRef.isParameter] at hrooted
  legible := by decide +kernel

/-- A pair of integers has the layout of the definition, and its constructor takes the same members. -/
theorem layout_instantiation_pair :
    ∃ layout constructor, pairContext.layout 3 (.named "Demo.Pair" [.named "int" []]) (pairDeclaration.bindParameters ["T"]) =
        some (.ok layout) ∧
      constructor ∈ pairContext.snapshot.constructors (.named "Demo.Pair" [.named "int" []]) ∧
      Fits layout.members layout.keyMode constructor [1, 0] := by
  have hmem : pairDeclaration.bindParameters ["T"] ∈ pairContext.snapshot.declarations := by decide +kernel
  have hbound : ((pairContext.resolveObject 3 (pairDeclaration.bindParameters ["T"]).definition
      (pairDeclaration.bindParameters ["T"])).bind Except.toOption).map (·.1.constructorBinding) = some (some [1, 0]) := by
    decide +kernel
  obtain ⟨⟨schema, edges⟩, hresolved, hbinding⟩ := Option.map_eq_some_iff.mp hbound
  have harity : [TypeRef.named "int" []].length = (pairDeclaration.bindParameters ["T"]).parameters.length := rfl
  obtain ⟨⟨constructor, haccessible, hfits⟩, layout, hlayout, hevery⟩ :=
    (layout_instantiation isRegular_pairContext hmem harity).2.2 3 schema edges [1, 0] (eq_some_ok_of_toOption hresolved) hbinding
  obtain ⟨place, hplace⟩ := List.mem_iff_getElem?.mp (List.mem_filter.mp haccessible).1
  obtain ⟨hplace', hfits'⟩ := hevery place constructor hplace
  exact ⟨layout, _, hlayout, List.mem_of_getElem? hplace', hfits' hfits⟩

end Context

end SchemaClosure
