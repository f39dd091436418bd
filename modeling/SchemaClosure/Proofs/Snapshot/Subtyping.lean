import Mathlib.Order.Defs.Unbundled
import SchemaClosure.Proofs.Snapshot.Acceptance
import SchemaClosure.Proofs.Snapshot.Supertypes

/-!
Subtyping. In an accepted snapshot a type is below another just if the declared parents lead from the name of the one to the name of the other, which makes subtyping a preorder on the types that have names; and an interface is implemented just where at least one step leads to it. Bases are not above themselves, but interfaces may be above one another in a circle, and then they implement themselves.
-/

namespace SchemaClosure.Snapshot

open Relation

/-- A declaration called `name` has a base or an interface called `parent`. Arrays, tuples and type parameters are called nothing. -/
def IsDeclaredParent (declarations : List Declaration) (name parent : String) : Prop :=
  ∃ declaration ∈ declarations, declaration.name = name ∧
    ∃ type, (declaration.base = some type ∨ type ∈ declaration.interfaces) ∧ type.name? = some parent

variable {snapshot : Snapshot} {declarations : List Declaration} {type base : TypeRef} {name baseName parent interface : String}

theorem mem_parents {declaration : Declaration} : parent ∈ parents declaration ↔
    ∃ type, (declaration.base = some type ∨ type ∈ declaration.interfaces) ∧ type.name? = some parent := by
  simp only [parents, List.mem_filterMap, List.mem_append, Option.mem_toList]

/-- The search looks a name up, and finds the only declaration of that name. -/
theorem isParent_eq_isDeclaredParent (h : ofDeclarations declarations = .ok snapshot) :
    snapshot.IsParent = IsDeclaredParent snapshot.declarations := by
  funext name parent
  apply propext
  constructor
  · rintro ⟨declaration, hfind, hparent⟩
    exact ⟨declaration, List.mem_of_find?_eq_some hfind, name_eq_of_find? hfind, mem_parents.mp hparent⟩
  · rintro ⟨declaration, hmem, rfl, hparent⟩
    exact ⟨declaration, find?_name_of_mem h hmem, mem_parents.mpr hparent⟩

/-! What is asked of types that have names is asked of their names. -/

theorem implementsInterface_iff (htype : type.name? = some name) :
    snapshot.implementsInterface type interface = true ↔ TransGen snapshot.IsParent name interface := by
  rw [implementsInterface, htype, Option.any_some, List.contains_iff_mem, mem_supertypes_iff]

theorem isSubtype_iff (htype : type.name? = some name) (hbase : base.name? = some baseName) :
    snapshot.isSubtype type base = true ↔ ReflTransGen snapshot.IsParent name baseName := by
  simp only [isSubtype, htype, hbase]
  rw [Bool.or_eq_true, beq_iff_eq, List.contains_iff_mem, mem_supertypes_iff, reflTransGen_iff_eq_or_transGen, eq_comm]

theorem isSubtype_refl (htype : type.name?.isSome = true) : snapshot.isSubtype type type = true := by
  obtain ⟨name, hname⟩ := Option.isSome_iff_exists.mp htype
  exact (isSubtype_iff hname hname).mpr .refl

theorem exists_name_of_isSubtype (h : snapshot.isSubtype type base = true) :
    ∃ name baseName, type.name? = some name ∧ base.name? = some baseName := by
  unfold isSubtype at h
  split at h
  · exact ⟨_, _, ‹_›, ‹_›⟩
  · simp at h

theorem isSubtype_trans {middle : TypeRef} (hlower : snapshot.isSubtype type middle = true)
    (hupper : snapshot.isSubtype middle base = true) : snapshot.isSubtype type base = true := by
  obtain ⟨name, middleName, hname, hmiddle⟩ := exists_name_of_isSubtype hlower
  obtain ⟨-, baseName, -, hbase⟩ := exists_name_of_isSubtype hupper
  apply (isSubtype_iff hname hbase).mpr
  calc ReflTransGen snapshot.IsParent name middleName := (isSubtype_iff hname hmiddle).mp hlower
    ReflTransGen snapshot.IsParent middleName baseName := (isSubtype_iff hmiddle hbase).mp hupper

theorem implementsInterface_of_isSubtype (hbelow : snapshot.isSubtype type base = true)
    (hinterface : snapshot.implementsInterface base interface = true) : snapshot.implementsInterface type interface = true := by
  obtain ⟨name, baseName, hname, hbase⟩ := exists_name_of_isSubtype hbelow
  apply (implementsInterface_iff hname).mpr
  calc ReflTransGen snapshot.IsParent name baseName := (isSubtype_iff hname hbase).mp hbelow
    TransGen snapshot.IsParent baseName interface := (implementsInterface_iff hbase).mp hinterface

/-- **Subtyping is reachability.** The search for supertypes ends, with the names that one or more steps to a declared parent lead to, each once; subtypes and implemented interfaces are what those steps say they are; so subtyping is a preorder, and interfaces are inherited. -/
theorem isSubtype_isReachability (h : ofDeclarations declarations = .ok snapshot) :
    (∀ name, (∀ found, snapshot.Climbs [] [name] found ↔ found = snapshot.supertypes name) ∧ (snapshot.supertypes name).Nodup ∧
        ∀ parent, parent ∈ snapshot.supertypes name ↔ TransGen (IsDeclaredParent snapshot.declarations) name parent) ∧
      (∀ (type : TypeRef) (name : String), type.name? = some name →
        (∀ (base : TypeRef) (baseName : String), base.name? = some baseName →
          (snapshot.isSubtype type base = true ↔ ReflTransGen (IsDeclaredParent snapshot.declarations) name baseName)) ∧
        ∀ interface, snapshot.implementsInterface type interface = true ↔
          TransGen (IsDeclaredParent snapshot.declarations) name interface) ∧
      IsPreorder {type : TypeRef // type.name?.isSome = true} (fun type base => snapshot.isSubtype type base = true) ∧
      ∀ type base interface, snapshot.isSubtype type base = true → snapshot.implementsInterface base interface = true →
        snapshot.implementsInterface type interface = true := by
  rw [← isParent_eq_isDeclaredParent h]
  refine ⟨?_, ?_, ?_, ?_⟩
  · intro name
    exact ⟨fun found => climbs_iff, nodup_supertypes snapshot name, fun parent => mem_supertypes_iff⟩
  · intro type name hname
    exact ⟨fun base baseName hbase => isSubtype_iff hname hbase, fun interface => implementsInterface_iff hname⟩
  · exact { refl := fun type => isSubtype_refl type.2, trans := fun _ _ _ => isSubtype_trans }
  · intro type base interface hbelow hinterface
    exact implementsInterface_of_isSubtype hbelow hinterface

/-- A circle is a figure, a figure is a shape, and shapes and outlines are interfaces that extend each other. -/
def figureDeclarations : List Declaration := [
  { name := "Demo.Circle", namespaceName := some "Demo", base := some (.named "Demo.Figure" []) },
  { name := "Demo.Figure", namespaceName := some "Demo", interfaces := [.named "Demo.Shape" []] },
  { name := "Demo.Outline", namespaceName := some "Demo", kind := .interfaceType,
    interfaces := [.named "Demo.Shape" [], .named "System.IDisposable" []] },
  { name := "Demo.Shape", namespaceName := some "Demo", kind := .interfaceType, interfaces := [.named "Demo.Outline" []] }]

theorem ofDeclarations_figureDeclarations : ofDeclarations figureDeclarations = .ok ⟨figureDeclarations⟩ := by
  rw [ofDeclarations_of_sorted (by decide +kernel)]
  rfl

/-- The search for what is above a circle goes once round the two interfaces. -/
theorem climbs_circle :
    ofDeclarations figureDeclarations = .ok ⟨figureDeclarations⟩ ∧
      (⟨figureDeclarations⟩ : Snapshot).Climbs [] ["Demo.Circle"] ["Demo.Figure", "Demo.Shape", "Demo.Outline", "System.IDisposable"] ∧
      TransGen (IsDeclaredParent figureDeclarations) "Demo.Shape" "Demo.Shape" := by
  obtain ⟨hsearch, hanswers, -, -⟩ := isSubtype_isReachability ofDeclarations_figureDeclarations
  refine ⟨ofDeclarations_figureDeclarations, ?_, ?_⟩
  · exact ((hsearch "Demo.Circle").1 _).mpr (by decide +kernel)
  · exact ((hanswers (.named "Demo.Shape" []) "Demo.Shape" rfl).2 "Demo.Shape").mp (by decide +kernel)

end SchemaClosure.Snapshot
