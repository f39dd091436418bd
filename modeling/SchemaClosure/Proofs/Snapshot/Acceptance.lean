import Mathlib.Data.List.Nodup
import SchemaClosure.Proofs.Except
import SchemaClosure.Proofs.Snapshot.Legibility
import SchemaClosure.Proofs.TypeRef.ReadBack

namespace SchemaClosure

namespace Declaration

def parameterNames (declaration : Declaration) : List String := declaration.parameters.map (·.name)

theorem parameterNames_bindParameters (scope : List String) (declaration : Declaration) :
    (declaration.bindParameters scope).parameterNames = declaration.parameterNames := by
  simp [parameterNames, bindParameters]

theorem unions_map_bindUnion (scope : List String) (attributes : Attributes) :
    (Attributes.unions (attributes.map (bindUnion scope))).map (·.2) =
      (attributes.unions.map (·.2)).map (·.bindParameters scope) := by
  simp only [Attributes.unions, List.map_filterMap, List.filterMap_map]
  apply List.filterMap_congr
  intro mark _
  cases mark <;> rfl

theorem mentionedTypes_bindParameters (scope : List String) (declaration : Declaration) :
    (declaration.bindParameters scope).mentionedTypes = declaration.mentionedTypes.map (·.bindParameters scope) := by
  have hbase : (declaration.base.map (·.bindParameters scope)).toList = declaration.base.toList.map (·.bindParameters scope) := by
    cases declaration.base <;> rfl
  simp only [mentionedTypes, bindParameters, hbase, unions_map_bindUnion, List.map_append, List.map_map, List.map_flatMap,
    List.flatMap_map, Function.comp_def]

end Declaration

namespace Snapshot

variable {snapshot ordered : Snapshot} {declarations : List Declaration}

theorem ofDeclarations_eq_ok (h : ofDeclarations declarations = .ok snapshot) :
    checkNames [] declarations = .ok () ∧
      ∃ ordered : Snapshot, ordered.declarations.Perm declarations ∧
        List.Forall₂ (fun declaration completed => ordered.complete declaration = .ok completed) ordered.declarations
          snapshot.declarations ∧
        ∀ declaration ∈ snapshot.declarations, snapshot.checkBases declaration = .ok () := by
  obtain ⟨⟨⟩, hnames, h⟩ := bind_eq_ok_iff.mp h
  obtain ⟨completed, hcompleted, h⟩ := bind_eq_ok_iff.mp h
  obtain ⟨⟨⟩, hbases, h⟩ := bind_eq_ok_iff.mp h
  obtain rfl := Except.ok.inj h
  exact ⟨hnames, _, List.mergeSort_perm _ _, mapM_eq_ok_iff.mp hcompleted, forM_eq_ok_iff.mp hbases⟩

theorem nodup_of_checkNames {seen : List String} (h : checkNames seen declarations = .ok ()) :
    (declarations.map (·.name)).Nodup ∧ ∀ declaration ∈ declarations, declaration.name ∉ seen := by
  induction declarations generalizing seen with
  | nil => simp
  | cons declaration rest ih =>
    unfold checkNames at h
    split at h
    · simp at h
    · split at h
      · simp at h
      · rename_i hfresh
        obtain ⟨hnodup, hrest⟩ := ih h
        have hseen : declaration.name ∉ seen := by simpa using hfresh
        refine ⟨List.nodup_cons.mpr ⟨?_, hnodup⟩, List.forall_mem_cons.mpr ⟨hseen, ?_⟩⟩
        · intro hmem
          obtain ⟨other, hother, hname⟩ := List.mem_map.mp hmem
          exact hrest other hother (hname ▸ List.mem_cons_self)
        · intro other hother hmem
          exact hrest other hother (List.mem_cons_of_mem _ hmem)

/-- Only the declaration itself brings parameters into scope, where nothing is nested in a generic type. -/
theorem scopeOf_of_checkNesting {name : String} {fuel : Nat} {inner levels : List Declaration} {current : Declaration}
    (h : ordered.checkNesting name fuel inner current = .ok levels)
    (hflat : ∀ declaration ∈ ordered.declarations, ∀ outer ∈ ordered.declarations,
      declaration.containingType = some outer.name → outer.isGeneric = false)
    (hcurrent : current ∈ ordered.declarations) : scopeOf levels = scopeOf (current :: inner).reverse := by
  induction fuel generalizing inner current with
  | zero => simp [checkNesting] at h
  | succ fuel ih =>
    unfold checkNesting at h
    split at h
    · rw [Except.ok.inj h]
    · rename_i containing hcontaining
      split at h
      · simp at h
      · split at h
        · simp at h
        · rename_i outer hfind
          have houter := List.mem_of_find?_eq_some hfind
          have hplain : outer.isGeneric = false :=
            hflat current hcurrent outer houter (by rw [hcontaining, name_eq_of_find? hfind])
          have hparameters : outer.parameters = [] := by simpa [Declaration.isGeneric] using hplain
          rw [ih h houter, List.reverse_cons (a := outer)]
          simp [scopeOf, hparameters]

/-- Every declaration of an accepted snapshot is a given one, with what the levels around it bring. -/
theorem exists_levels_of_mem (h : ofDeclarations declarations = .ok snapshot) {declaration : Declaration}
    (hmem : declaration ∈ snapshot.declarations) :
    ∃ given ∈ declarations, ∃ ordered : Snapshot, ordered.declarations.Perm declarations ∧
      ∃ levels, ordered.checkNesting given.name ordered.size [] given = .ok levels ∧
        declaration = ({ given with namespaceName := namespaceOf levels } : Declaration).bindParameters (scopeOf levels) := by
  obtain ⟨-, ordered, hperm, hcomplete, -⟩ := ofDeclarations_eq_ok h
  obtain ⟨given, hgiven, hcompleted⟩ := exists_of_mem_mapM hcomplete hmem
  obtain ⟨levels, hlevels, hdeclaration⟩ := bind_eq_ok_iff.mp hcompleted
  exact ⟨given, hperm.mem_iff.mp hgiven, ordered, hperm, levels, hlevels, (Except.ok.inj hdeclaration).symm⟩

/-- The declarations of an accepted snapshot have their own parameters in scope, where nothing is nested in a generic type. -/
theorem exists_bindParameters_of_mem (h : ofDeclarations declarations = .ok snapshot)
    (hflat : ∀ declaration ∈ declarations, ∀ outer ∈ declarations,
      declaration.containingType = some outer.name → outer.isGeneric = false)
    {declaration : Declaration} (hmem : declaration ∈ snapshot.declarations) :
    ∃ given ∈ declarations, ∃ namespaceName,
      declaration = ({ given with namespaceName } : Declaration).bindParameters given.parameterNames := by
  obtain ⟨given, hgiven, ordered, hperm, levels, hlevels, hdeclaration⟩ := exists_levels_of_mem h hmem
  refine ⟨given, hgiven, namespaceOf levels, ?_⟩
  have hscope : scopeOf levels = given.parameterNames := by
    rw [scopeOf_of_checkNesting hlevels ?_ (hperm.mem_iff.mpr hgiven)]
    · simp [scopeOf, Declaration.parameterNames]
    · intro inner hinner outer houter
      exact hflat inner (hperm.mem_iff.mp hinner) outer (hperm.mem_iff.mp houter)
  rw [hdeclaration, hscope]

theorem name_of_complete {declaration completed : Declaration} (h : ordered.complete declaration = .ok completed) :
    completed.name = declaration.name := by
  obtain ⟨levels, -, hcompleted⟩ := bind_eq_ok_iff.mp h
  rw [← Except.ok.inj hcompleted]
  rfl

theorem names_of_complete {completed : List Declaration}
    (h : List.Forall₂ (fun declaration completed => ordered.complete declaration = .ok completed) declarations completed) :
    completed.map (·.name) = declarations.map (·.name) := by
  rw [eq_comm, ← List.forall₂_eq_eq_eq, List.forall₂_map_left_iff, List.forall₂_map_right_iff]
  exact h.imp fun _ _ hcompleted => (name_of_complete hcompleted).symm

theorem nodup_names (h : ofDeclarations declarations = .ok snapshot) : (snapshot.declarations.map (·.name)).Nodup := by
  obtain ⟨hnames, ordered, hperm, hcomplete, -⟩ := ofDeclarations_eq_ok h
  rw [names_of_complete hcomplete]
  exact ((hperm.map _).nodup_iff).mpr (nodup_of_checkNames hnames).1

theorem eq_of_mem_of_name_eq (hdistinct : (declarations.map (·.name)).Nodup) {declaration other : Declaration}
    (hmem : declaration ∈ declarations) (hother : other ∈ declarations) (hname : declaration.name = other.name) : declaration = other :=
  List.inj_on_of_nodup_map hdistinct hmem hother hname

theorem find?_eq_some_iff_of_nodup (hdistinct : (ordered.declarations.map (·.name)).Nodup) {declaration : Declaration} {name : String} :
    ordered.find? name = some declaration ↔ declaration ∈ ordered.declarations ∧ declaration.name = name := by
  constructor
  · intro h
    exact ⟨List.mem_of_find?_eq_some h, name_eq_of_find? h⟩
  · rintro ⟨hmem, hname⟩
    cases hfind : ordered.find? name with
    | none => simpa [hname] using List.find?_eq_none.mp hfind declaration hmem
    | some found =>
      rw [eq_of_mem_of_name_eq hdistinct (List.mem_of_find?_eq_some hfind) hmem ((name_eq_of_find? hfind).trans hname.symm)]

/-- Every declaration is found under its name. -/
theorem find?_name_of_mem (h : ofDeclarations declarations = .ok snapshot) {declaration : Declaration}
    (hmem : declaration ∈ snapshot.declarations) : snapshot.find? declaration.name = some declaration :=
  (find?_eq_some_iff_of_nodup (nodup_names h)).mpr ⟨hmem, rfl⟩

/-- Every chain of base names comes to an end. -/
theorem basesEnd_of_mem (h : ofDeclarations declarations = .ok snapshot) {declaration : Declaration}
    (hmem : declaration ∈ snapshot.declarations) : snapshot.basesEnd (snapshot.size + 2) [] declaration.name = true := by
  obtain ⟨-, -, -, -, hchecked⟩ := ofDeclarations_eq_ok h
  have hchecked := hchecked declaration hmem
  unfold checkBases at hchecked
  by_contra hcyclic
  rw [if_neg hcyclic] at hchecked
  simp at hchecked

theorem name?_substitute {type : TypeRef} (htype : ∀ parameter, type ≠ .parameter parameter) (bindings : TypeRef.Bindings) :
    (type.substitute bindings).name? = type.name? := by
  cases type with
  | named name arguments => rfl
  | parameter name => exact absurd rfl (htype name)
  | array element rank => rfl
  | tuple elements => rfl

end Snapshot

end SchemaClosure
