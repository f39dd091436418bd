import Mathlib.Logic.Relation
import SchemaClosure.Proofs.Snapshot.Instantiation
import SchemaClosure.Proofs.TypeRef.Occurrence

namespace SchemaClosure.Snapshot

open Relation

/-- The declaration that another one is nested in, among some declarations. -/
def IsNestedIn (declarations : List Declaration) (inner outer : Declaration) : Prop :=
  outer ∈ declarations ∧ inner.containingType = some outer.name

/-- A parameter of a declaration around the given one, at any distance. -/
def IsOuterParameter (declarations : List Declaration) (declaration : Declaration) (name : String) : Prop :=
  ∃ outer, TransGen (IsNestedIn declarations) declaration outer ∧ name ∈ outer.parameterNames

variable {snapshot ordered : Snapshot} {declarations : List Declaration} {declaration : Declaration} {name : String}

theorem transGen_of_checkNesting (hordered : ordered.declarations ⊆ declarations) {start : String} {fuel : Nat}
    {inner levels : List Declaration} {current : Declaration} (h : ordered.checkNesting start fuel inner current = .ok levels)
    {level : Declaration} (hlevel : level ∈ levels) :
    level ∈ current :: inner ∨ TransGen (IsNestedIn declarations) current level := by
  induction fuel generalizing inner current with
  | zero => simp [checkNesting] at h
  | succ fuel ih =>
    unfold checkNesting at h
    split at h
    · rw [← Except.ok.inj h, List.mem_reverse] at hlevel
      exact Or.inl hlevel
    · rename_i containing hcontaining
      split at h
      · simp at h
      · split at h
        · simp at h
        · rename_i outer hfind
          have hnested : IsNestedIn declarations current outer :=
            ⟨hordered (List.mem_of_find?_eq_some hfind), by rw [hcontaining, name_eq_of_find? hfind]⟩
          rcases ih h with hmem | habove
          · rcases List.mem_cons.mp hmem with rfl | hmem
            · exact Or.inr (.single hnested)
            · exact Or.inl hmem
          · exact Or.inr (.head hnested habove)

/-- A declaration mentions its own parameters and those of declarations around it. -/
theorem mentions_of_mem_mentionedTypes (haccepted : ofDeclarations declarations = .ok snapshot)
    (hwritten : ∀ given ∈ declarations, ∀ type ∈ given.mentionedTypes, type.isOpen = false)
    (hmem : declaration ∈ snapshot.declarations) {mentioned : TypeRef} (hmentioned : mentioned ∈ declaration.mentionedTypes)
    (h : mentioned.Mentions name) : name ∈ declaration.parameterNames ∨ IsOuterParameter declarations declaration name := by
  obtain ⟨given, hgiven, ordered, hperm, levels, hlevels, rfl⟩ := exists_levels_of_mem haccepted hmem
  rw [Declaration.mentionedTypes_bindParameters] at hmentioned
  obtain ⟨type, htype, rfl⟩ := List.mem_map.mp hmentioned
  have hclosed := TypeRef.isOpen_eq_false_iff.mp (hwritten given hgiven type htype)
  have hscope := (TypeRef.mentions_bindParameters h).resolve_left (hclosed name)
  obtain ⟨level, hlevel, hname⟩ := List.mem_flatMap.mp hscope
  rw [Declaration.parameterNames_bindParameters]
  rcases transGen_of_checkNesting hperm.subset hlevels hlevel with hmem | hnested
  · rw [List.mem_singleton.mp hmem] at hname
    exact Or.inl hname
  · refine Or.inr ⟨level, ?_, hname⟩
    -- the first step up from a declaration depends on its containing type only, which completing it keeps
    obtain ⟨outer, hfirst, hrest⟩ := TransGen.head'_iff.mp hnested
    exact TransGen.head'_iff.mpr ⟨outer, hfirst, hrest⟩

/-- The parameters that remain in a mentioned type at a level are those of the bound types, and outer ones. -/
theorem mentions_of_covers (haccepted : ofDeclarations declarations = .ok snapshot)
    (hwritten : ∀ given ∈ declarations, ∀ type ∈ given.mentionedTypes, type.isOpen = false)
    (hmem : declaration ∈ snapshot.declarations) {bindings : TypeRef.Bindings} (hcovers : bindings.Covers declaration.parameterNames)
    {mentioned : TypeRef} (hmentioned : mentioned ∈ declaration.mentionedTypes) (h : (mentioned.substitute bindings).Mentions name) :
    (∃ binding ∈ bindings, binding.2.Mentions name) ∨ IsOuterParameter declarations declaration name := by
  rcases TypeRef.mentions_substitute h with ⟨hmentions, hunbound⟩ | hbound
  · refine Or.inr ((mentions_of_mem_mentionedTypes haccepted hwritten hmem hmentioned hmentions).resolve_left ?_)
    intro hown
    simpa [hunbound] using hcovers name hown
  · exact Or.inl hbound

/-- Whether every declared type in a type expression has as many arguments as it has parameters. -/
def fitsArity (snapshot : Snapshot) (type : TypeRef) : Bool :=
  type.subterms.all fun part => (snapshot.declaration? part).all fun declaration =>
    part.arguments.length == declaration.parameters.length

variable {type argument : TypeRef} {bindings : TypeRef.Bindings}

theorem fitsArity_iff : snapshot.fitsArity type = true ↔ ∀ part ∈ type.subterms, ∀ declaration,
    snapshot.declaration? part = some declaration → part.arguments.length = declaration.parameters.length := by
  simp [fitsArity, Option.all_eq_true]

theorem fitsArity_of_mem_arguments (h : snapshot.fitsArity type = true) (hmem : argument ∈ type.arguments) :
    snapshot.fitsArity argument = true := by
  rw [fitsArity_iff] at h ⊢
  intro part hpart
  exact h part (TypeRef.mem_subterms_of_mem_argument hpart hmem)

theorem fitsArity_substitute (htype : snapshot.fitsArity type = true)
    (hbindings : ∀ binding ∈ bindings, snapshot.fitsArity binding.2 = true) : snapshot.fitsArity (type.substitute bindings) = true := by
  rw [fitsArity_iff] at htype ⊢
  intro part hpart declaration hdeclaration
  rcases TypeRef.stemsFrom_subterms hpart with ⟨source, hsource, hproper, rfl⟩ | ⟨parameter, -, hput⟩
  · rw [declaration?_substitute hproper] at hdeclaration
    rw [arguments_substitute hproper, List.length_map]
    exact htype source hsource declaration hdeclaration
  · rcases TypeRef.substitute_parameter_cases parameter with hstays | ⟨binding, hmem, hbound⟩
    · rw [hstays, TypeRef.subterms, List.mem_singleton] at hput
      rw [hput] at hdeclaration
      simp [declaration?, TypeRef.name?] at hdeclaration
    · rw [hbound] at hput
      exact fitsArity_iff.mp (hbindings binding hmem) part hput declaration hdeclaration

/-- Where bases have the right numbers of arguments, what remains in the mentioned types of a lineage comes from the type that it begins with, or from around some level of it. -/
theorem mentions_of_mem_lineage (haccepted : ofDeclarations declarations = .ok snapshot)
    (hwritten : ∀ given ∈ declarations, ∀ type ∈ given.mentionedTypes, type.isOpen = false)
    (hbases : ∀ declaration ∈ snapshot.declarations, ∀ base, declaration.base = some base → snapshot.fitsArity base = true)
    {limit : Nat} {levels : List (Declaration × TypeRef.Bindings)} (htype : snapshot.fitsArity type = true)
    (h : snapshot.lineage limit type = some levels) {level : Declaration × TypeRef.Bindings} (hlevel : level ∈ levels)
    {mentioned : TypeRef} (hmentioned : mentioned ∈ level.1.mentionedTypes)
    (hmentions : (mentioned.substitute level.2).Mentions name) :
    type.Mentions name ∨ ∃ level ∈ levels, IsOuterParameter declarations level.1 name := by
  induction limit generalizing type levels with
  | zero => simp [lineage] at h
  | succ limit ih =>
    unfold lineage at h
    split at h
    · rw [← Option.some.inj h] at hlevel
      exact absurd hlevel List.not_mem_nil
    · rename_i declaration hdeclaration
      have hmem := mem_of_declaration? hdeclaration
      have hcovers := covers_bindings (fitsArity_iff.mp htype type (TypeRef.mem_subterms_self type) declaration hdeclaration)
      have hown : ∀ mentioned ∈ declaration.mentionedTypes, (mentioned.substitute (declaration.bindings type)).Mentions name →
          type.Mentions name ∨ IsOuterParameter declarations declaration name := by
        intro mentioned hmentioned hmentions
        rcases mentions_of_covers haccepted hwritten hmem hcovers hmentioned hmentions with ⟨binding, hbinding, hmentions⟩ | houter
        · exact Or.inl (TypeRef.mem_subterms_of_mem_argument hmentions (Declaration.mem_arguments_of_mem_bindings hbinding).2)
        · exact Or.inr houter
      simp only at h
      split at h
      · rw [← Option.some.inj h] at hlevel ⊢
        rw [List.mem_singleton.mp hlevel] at hmentioned hmentions
        exact (hown mentioned hmentioned hmentions).imp_right fun houter => ⟨_, List.mem_singleton_self _, houter⟩
      · rename_i base hbase
        obtain ⟨above, habove, rfl⟩ := Option.map_eq_some_iff.mp h
        rcases List.mem_cons.mp hlevel with rfl | hlevel
        · exact (hown mentioned hmentioned hmentions).imp_right fun houter => ⟨_, List.mem_cons_self, houter⟩
        · have hbaseFits : snapshot.fitsArity (base.substitute (declaration.bindings type)) = true :=
            fitsArity_substitute (hbases declaration hmem base hbase)
              fun binding hbinding => fitsArity_of_mem_arguments htype (Declaration.mem_arguments_of_mem_bindings hbinding).2
          rcases ih hbaseFits habove hlevel with hmentions | ⟨level, hlevel, houter⟩
          · exact (hown base (Declaration.base_mem_mentionedTypes hbase) hmentions).imp_right
              fun houter => ⟨_, List.mem_cons_self, houter⟩
          · exact Or.inr ⟨level, List.mem_cons_of_mem _ hlevel, houter⟩

end SchemaClosure.Snapshot
