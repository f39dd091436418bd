import SchemaClosure.Proofs.Closure.Accounting

namespace SchemaClosure

/-- Whether a property can be a member of an object at all. -/
def Property.takesPart (property : Property) : Bool :=
  !property.isIndexer && !property.attributes.isIgnored && (property.isReadable || property.isWritable)

def Field.takesPart (field : Field) : Bool :=
  !field.isCompilerGenerated && !field.attributes.isIgnored && (field.isReadable || field.isWritable)

/-- Properties that take part and override nothing. -/
def Property.isOriginal (property : Property) : Bool := property.takesPart && !property.isOverride

namespace Candidate

theorem ofMembers_byName (members : Snapshot.Members) :
    ofMembers members true =
      (members.properties.filter Property.isOriginal).map ofProperty ++ (members.fields.filter Field.takesPart).map ofField := by
  rw [ofMembers, List.filter_append, List.filter_map, List.filter_map, List.filter_filter, List.filter_filter]
  congr 2
  · apply List.filter_congr
    intro property _
    simp only [Function.comp_apply, ofProperty, Property.isOriginal, Property.takesPart, Bool.true_and]
    grind
  · apply List.filter_congr
    intro field _
    simp only [Function.comp_apply, ofField, Field.takesPart]
    grind

theorem exists_mem_ofMembers_iff (members : Snapshot.Members) (name : String) :
    (∃ candidate ∈ ofMembers members true, candidate.name = name) ↔
      (∃ property ∈ members.properties, property.isOriginal = true ∧ property.name = name) ∨
        ∃ field ∈ members.fields, field.takesPart = true ∧ field.name = name := by
  rw [ofMembers_byName]
  simp only [List.mem_append, or_and_right, exists_or, List.mem_map, exists_exists_and_eq_and]
  simp only [List.mem_filter, and_assoc]
  rfl

variable {byName marked : Bool} {before after : List Candidate} {candidate : Candidate}

theorem mem_kept_of_fate (h : fateAfter byName marked before candidate = .kept) :
    candidate ∈ kept byName marked (before ++ candidate :: after) := by
  rw [kept, fates, fatesAfter_append, List.filterMap_append, List.nil_append, fatesAfter]
  apply List.mem_append_right
  simp [h]

theorem mem_of_mem_kept {candidates : List Candidate} (h : candidate ∈ kept byName marked candidates) : candidate ∈ candidates := by
  obtain ⟨⟨given, fate⟩, hfate, hkept⟩ := List.mem_filterMap.mp h
  have hgiven : given ∈ (fates byName marked candidates).map (·.1) := List.mem_map_of_mem hfate
  rw [fates, map_fst_fatesAfter] at hgiven
  simp only [Option.ite_none_right_eq_some, Option.some.injEq] at hkept
  exact hkept.2 ▸ hgiven

theorem name_eq_of_askedKey {other : Candidate} {key : KeyValue} (h : candidate.askedKey? true = some key)
    (hother : other.askedKey? true = some key) : other.name = candidate.name := by
  rw [← h] at hother
  exact KeyValue.text.inj (Option.some.inj hother)

/-- Where names are keys, a candidate is kept or one before it that has its name. -/
theorem exists_mem_kept (marked : Bool) (before after : List Candidate) (candidate : Candidate) :
    ∃ owner ∈ kept true marked (before ++ candidate :: after), owner ∈ before ++ [candidate] ∧ owner.name = candidate.name := by
  have hasked : candidate.askedKey? true = some (.text candidate.name) := rfl
  cases hfate : fateAfter true marked before candidate with
  | kept => exact ⟨candidate, mem_kept_of_fate hfate, List.mem_append_right _ (List.mem_singleton_self _), rfl⟩
  | duplicate key owner =>
    obtain ⟨hkey, earlier, later, rfl, howner, hkept⟩ := duplicate_cases hfate
    refine ⟨owner, ?_, by simp, name_eq_of_askedKey hkey howner⟩
    rw [List.append_assoc]
    exact mem_kept_of_fate hkept
  | missingKey | nullKey | passedOver =>
    rw [fateAfter_of_askedKey hasked (by simp)] at hfate
    split at hfate <;> simp at hfate

end Candidate

namespace Layout

open Candidate

variable {identity : TypeIdentity} {marked warns : Bool} {candidates : List Candidate} {layout : Layout}

theorem exists_member_of_kept (h : layout.AccountsFor identity true marked warns candidates) {owner : Candidate}
    (howner : owner ∈ Candidate.kept true marked candidates) : ∃ key, owner.schema key ∈ layout.members := by
  obtain ⟨drafted, hdrafted, hperm, -⟩ := h.kept
  obtain ⟨member, hmember, key, -, rfl⟩ := exists_of_mem_left hdrafted howner
  exact ⟨key, hperm.mem_iff.mpr hmember⟩

theorem exists_candidate_of_member (h : layout.AccountsFor identity true marked warns candidates) {member : MemberSchema}
    (hmember : member ∈ layout.members) : ∃ candidate ∈ candidates, candidate.name = member.sourceName := by
  obtain ⟨drafted, hdrafted, hperm, -⟩ := h.kept
  obtain ⟨candidate, hkept, key, -, rfl⟩ := exists_of_mem_right hdrafted (hperm.mem_iff.mp hmember)
  exact ⟨candidate, mem_of_mem_kept hkept, rfl⟩

/-- Where names are keys, the names of the members are those of the candidates. -/
theorem exists_member_iff (h : layout.AccountsFor identity true marked warns candidates) (name : String) :
    (∃ member ∈ layout.members, member.sourceName = name) ↔ ∃ candidate ∈ candidates, candidate.name = name := by
  constructor
  · rintro ⟨member, hmember, rfl⟩
    exact exists_candidate_of_member h hmember
  · rintro ⟨candidate, hcandidate, rfl⟩
    obtain ⟨before, after, rfl⟩ := List.append_of_mem hcandidate
    obtain ⟨owner, howner, -, hname⟩ := exists_mem_kept marked before after candidate
    obtain ⟨key, hmember⟩ := exists_member_of_kept h howner
    exact ⟨owner.schema key, hmember, hname⟩

/-- Candidates that come first are represented by candidates of their own kind. -/
theorem exists_member_of_leading {leading rest : List Candidate} (h : layout.AccountsFor identity true marked warns (leading ++ rest))
    {candidate : Candidate} (hcandidate : candidate ∈ leading) :
    ∃ owner ∈ leading, owner.name = candidate.name ∧ ∃ key, owner.schema key ∈ layout.members := by
  obtain ⟨before, after, rfl⟩ := List.append_of_mem hcandidate
  rw [List.append_assoc, List.cons_append] at h
  obtain ⟨owner, howner, hmem, hname⟩ := exists_mem_kept marked before (after ++ rest) candidate
  refine ⟨owner, ?_, hname, exists_member_of_kept h howner⟩
  rw [List.append_cons]
  exact List.mem_append_left _ hmem

theorem exists_ofMembers_eq_ok {options : Options} {attributes : Attributes} (members : Snapshot.Members)
    (hkeys : keysByName options attributes = true) : ∃ layout, ofMembers options identity attributes members = .ok layout := by
  rw [keysByName] at hkeys
  rw [ofMembers, if_pos hkeys]
  exact ⟨_, rfl⟩

end Layout

namespace Snapshot

/-- On some level, a property of this name takes part that overrides nothing. -/
def HasOriginal (levels : List (Declaration × TypeRef.Bindings)) (name : String) : Prop :=
  ∃ level ∈ levels, ∃ property ∈ level.1.properties, property.isOriginal = true ∧ property.name = name

/-- On some level, a field of this name takes part. -/
def HasField (levels : List (Declaration × TypeRef.Bindings)) (name : String) : Prop :=
  ∃ level ∈ levels, ∃ field ∈ level.1.fields, field.takesPart = true ∧ field.name = name

/-- Every overriding property that takes part has, on a level above its own, a property of its name that takes part. -/
def IsGrounded : List (Declaration × TypeRef.Bindings) → Prop
  | [] => True
  | level :: above =>
    (∀ property ∈ level.1.properties, property.takesPart = true → property.isOverride = true →
      ∃ base ∈ above, ∃ overridden ∈ base.1.properties, overridden.takesPart = true ∧ overridden.name = property.name) ∧
      IsGrounded above

variable {levels above : List (Declaration × TypeRef.Bindings)} {level : Declaration × TypeRef.Bindings}

namespace Members

/-- What is the case for a declared member whatever its type is, is the case for the inherited one. -/
theorem exists_inherited_iff {Member : Type} (declared : Declaration → List Member) (inherited : TypeRef.Bindings → Member → Member)
    {Holds : Member → Prop} (h : ∀ bindings member, Holds (inherited bindings member) ↔ Holds member) :
    (∃ member ∈ levels.flatMap fun level => (declared level.1).map (inherited level.2), Holds member) ↔
      ∃ level ∈ levels, ∃ member ∈ declared level.1, Holds member := by
  constructor
  · rintro ⟨_, hinherited, hholds⟩
    obtain ⟨level, hlevel, hinherited⟩ := List.mem_flatMap.mp hinherited
    obtain ⟨member, hmember, rfl⟩ := List.mem_map.mp hinherited
    exact ⟨level, hlevel, member, hmember, (h _ _).mp hholds⟩
  · rintro ⟨level, hlevel, member, hmember, hholds⟩
    exact ⟨_, List.mem_flatMap.mpr ⟨level, hlevel, List.mem_map_of_mem hmember⟩, (h _ _).mpr hholds⟩

theorem exists_original_iff (name : String) :
    (∃ property ∈ (ofLevels levels).properties, property.isOriginal = true ∧ property.name = name) ↔ HasOriginal levels name := by
  rw [HasOriginal, ← exists_inherited_iff Declaration.properties
    fun bindings property => { property with type := property.type.substitute bindings }]
  · simp only [ofLevels, ofDeclaration, List.flatMap_map]
  · exact fun _ _ => Iff.rfl

theorem exists_field_iff (name : String) :
    (∃ field ∈ (ofLevels levels).fields, field.takesPart = true ∧ field.name = name) ↔ HasField levels name := by
  rw [HasField, ← exists_inherited_iff Declaration.fields
    fun bindings field => { field with type := field.type.substitute bindings }]
  · simp only [ofLevels, ofDeclaration, List.flatMap_map]
  · exact fun _ _ => Iff.rfl

end Members

theorem HasOriginal.cons {name : String} (h : HasOriginal above name) (level : Declaration × TypeRef.Bindings) :
    HasOriginal (level :: above) name := by
  obtain ⟨base, hbase, horiginal⟩ := h
  exact ⟨base, List.mem_cons_of_mem _ hbase, horiginal⟩

/-- Overriding properties lead up to one that overrides nothing. -/
theorem IsGrounded.hasOriginal (h : IsGrounded levels) (hlevel : level ∈ levels) {property : Property}
    (hproperty : property ∈ level.1.properties) (htakes : property.takesPart = true) : HasOriginal levels property.name := by
  induction levels generalizing level property with
  | nil => exact absurd hlevel List.not_mem_nil
  | cons first above ih =>
    obtain ⟨hoverrides, hgrounded⟩ := h
    rcases List.mem_cons.mp hlevel with rfl | hlevel
    · cases hoverride : property.isOverride with
      | false => exact ⟨level, List.mem_cons_self, property, hproperty, by simp [Property.isOriginal, htakes, hoverride], rfl⟩
      | true =>
        -- what is overridden stands above, and may override something itself
        obtain ⟨base, hbase, overridden, hoverridden, htakes, hname⟩ := hoverrides property hproperty htakes hoverride
        rw [← hname]
        exact (ih hgrounded hbase hoverridden htakes).cons level
    · exact (ih hgrounded hlevel hproperty htakes).cons first

end Snapshot

namespace Context

open Layout Snapshot

variable {context : Context} {limit : Nat} {type : TypeRef} {declaration : Declaration} {levels : List (Declaration × TypeRef.Bindings)}

/-- An object that keys its members by name has a member for every name of a field, and of a property that overrides nothing. It has one for an overriding property too if these lead up to properties that take part. -/
theorem layout_represents (hkeys : keysByName context.options declaration.attributes = true)
    (hlevels : context.snapshot.lineage limit type = some levels) :
    ∃ layout, context.layout limit type declaration = some (.ok layout) ∧
      (∀ name, (∃ member ∈ layout.members, member.sourceName = name) ↔ HasOriginal levels name ∨ HasField levels name) ∧
      (IsGrounded levels → ∀ level ∈ levels, ∀ property ∈ level.1.properties, property.takesPart = true →
        ∃ member ∈ layout.members, member.sourceName = property.name ∧ member.storageKind = .property) := by
  obtain ⟨layout, hlayout⟩ := exists_ofMembers_eq_ok (Members.ofLevels levels) hkeys
  have haccounts := accountsFor_of_ok hlayout
  rw [hkeys, Candidate.ofMembers_byName] at haccounts
  refine ⟨layout, ?_, ?_, ?_⟩
  · rw [Context.layout, Snapshot.members, hlevels, Option.map_some, Option.map_some, hlayout]
  · intro name
    rw [exists_member_iff haccounts, ← Candidate.ofMembers_byName, Candidate.exists_mem_ofMembers_iff, Members.exists_original_iff,
      Members.exists_field_iff]
  · intro hgrounded level hlevel property hproperty htakes
    obtain ⟨original, hmem, horiginal, hname⟩ :=
      (Members.exists_original_iff _).mpr (hgrounded.hasOriginal hlevel hproperty htakes)
    obtain ⟨owner, howner, hsame, key, hmember⟩ :=
      exists_member_of_leading haccounts (List.mem_map_of_mem (List.mem_filter.mpr ⟨hmem, horiginal⟩))
    obtain ⟨found, -, rfl⟩ := List.mem_map.mp howner
    exact ⟨_, hmember, hsame.trans hname, rfl⟩

def circleType : TypeRef := .named "Demo.Circle" []

def shapeDeclaration : Declaration where
  name := "Vendor.Shape"
  namespaceName := some "Vendor"
  properties := [{ name := "Area", type := .named "int" [] }]

def roundDeclaration : Declaration where
  name := "Demo.Circle"
  namespaceName := some "Demo"
  base := some (.named "Vendor.Shape" [])
  attributes := [.serializableObject true]
  properties := [{ name := "Area", type := .named "int" [], isOverride := true }, { name := "Radius", type := .named "int" [] }]

/-- The shape whose area is overridden is not known. -/
def vendorContext : Context where
  snapshot := ⟨[roundDeclaration]⟩
  options := {}

def shapeContext : Context where
  snapshot := ⟨[roundDeclaration, shapeDeclaration]⟩
  options := {}

/-- The area is a member where the shape is known. -/
theorem layout_represents_area :
    keysByName shapeContext.options roundDeclaration.attributes = true ∧
      shapeContext.snapshot.lineage 3 circleType = some [(roundDeclaration, []), (shapeDeclaration, [])] ∧
      ∃ layout, shapeContext.layout 3 circleType roundDeclaration = some (.ok layout) ∧
        ∃ member ∈ layout.members, member.sourceName = "Area" ∧ member.storageKind = .property := by
  have hkeys : keysByName shapeContext.options roundDeclaration.attributes = true := by decide
  have hlevels : shapeContext.snapshot.lineage 3 circleType = some [(roundDeclaration, []), (shapeDeclaration, [])] := by decide +kernel
  have hgrounded : IsGrounded [(roundDeclaration, []), (shapeDeclaration, [])] := by
    simp only [IsGrounded]
    decide +kernel
  obtain ⟨layout, hlayout, -, hrepresented⟩ := layout_represents hkeys hlevels
  have harea := hrepresented hgrounded (roundDeclaration, []) List.mem_cons_self
    { name := "Area", type := .named "int" [], isOverride := true } List.mem_cons_self (by decide)
  exact ⟨hkeys, hlevels, layout, hlayout, harea⟩

/-- The area is lost where the shape is not known, although it can be read and written. -/
theorem area_not_represented :
    Snapshot.ofDeclarations [roundDeclaration] = .ok vendorContext.snapshot ∧
      keysByName vendorContext.options roundDeclaration.attributes = true ∧
      ∃ area ∈ roundDeclaration.properties, area.takesPart = true ∧ area.isOverride = true ∧
        ∃ layout, vendorContext.layout 3 circleType roundDeclaration = some (.ok layout) ∧
          ¬∃ member ∈ layout.members, member.sourceName = area.name := by
  have hnames : ((vendorContext.layout 3 circleType roundDeclaration).bind Except.toOption).map (fun layout =>
      layout.members.map (·.sourceName)) = some ["Radius"] := by decide +kernel
  obtain ⟨layout, hlayout, hnames⟩ := Option.map_eq_some_iff.mp hnames
  refine ⟨?_, by decide, { name := "Area", type := .named "int" [], isOverride := true }, List.mem_cons_self, by decide, rfl,
    layout, eq_some_ok_of_toOption hlayout, ?_⟩
  · rw [Snapshot.ofDeclarations_of_sorted (by decide +kernel)]
    rfl
  · rintro ⟨member, hmember, harea⟩
    have hname : member.sourceName ∈ ["Radius"] := hnames ▸ List.mem_map_of_mem hmember
    rw [harea] at hname
    exact absurd hname (by decide)

end Context

end SchemaClosure
