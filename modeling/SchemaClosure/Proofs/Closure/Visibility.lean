import SchemaClosure.Proofs.Closure.CodecNames
import SchemaClosure.Proofs.Snapshot.Visibility

/-!
What hidden types leave out of a model. A declared type is looked at only where it is visible, so whatever a model holds for it, or for an instance of it, it holds for a type that no level around hides. The types that are served by their names alone, optional values and known containers, are the only ones that may be declared as hidden and have entries all the same.
-/

namespace SchemaClosure.Context

open Snapshot

/-- Optional values and known containers are served by their names, whatever is declared of them. -/
def IsServedByName (type : TypeRef) : Prop :=
  type.nullableInner?.isSome = true ∨ type.isGeneric = true ∧ (Catalog.containerTemplate? type.unboundSignature).isSome = true

variable {context : Context} {declarations : List Declaration} {scope : List String} {roots : List TypeRef} {model : Model}
  {type : TypeRef} {shape : Shape} {declaration : Declaration} {entry : Entry} {schema : GenericSchema}

/-- A type that is looked at as declared is visible. -/
theorem isVisible_of_classify (h : context.classify type = .ok shape) (hdeclaration : shape.declaration? = some declaration) :
    (context.snapshot.accessibility type).isVisible = true := by
  obtain ⟨-, hdeclared⟩ := declaration?_of_classify h hdeclaration
  unfold classifyDeclared at hdeclared
  simp only at hdeclared
  split at hdeclared
  · rw [← Except.ok.inj hdeclared] at hdeclaration
    simp [Shape.declaration?] at hdeclaration
  · split at hdeclared
    · simp at hdeclared
    · rename_i hvisible
      simpa using hvisible

theorem isShown_of_classify (hsnapshot : ofDeclarations declarations = .ok context.snapshot) (h : context.classify type = .ok shape)
    (hdeclaration : shape.declaration? = some declaration) : IsShown context.snapshot.declarations declaration :=
  (isVisible_accessibility_iff hsnapshot (declaration?_of_classify h hdeclaration).1).mp (isVisible_of_classify h hdeclaration)

theorem isShown_of_declaration? (hsnapshot : ofDeclarations declarations = .ok context.snapshot)
    (hdeclared : context.snapshot.declaration? type = some declaration) (h : context.classify type = .ok shape)
    (hown : shape.declaration?.isSome = true) : IsShown context.snapshot.declarations declaration := by
  obtain ⟨own, hown⟩ := Option.isSome_iff_exists.mp hown
  have hsame : some declaration = some own := hdeclared.symm.trans (declaration?_of_classify h hown).1
  rw [Option.some.inj hsame]
  exact isShown_of_classify hsnapshot h hown

/-- Objects, enums and unions are made from declarations. -/
theorem Yields.exists_shape (h : context.Yields type entry) (hkind : entry.kind ≠ .generic) :
    ∃ shape declaration, context.classify type = .ok shape ∧ shape.declaration? = some declaration := by
  cases h with
  | object hshape hobject hschema => exact ⟨_, _, hshape, Shape.declaration?_of_object? hobject⟩
  | union hshape hunion hschema => exact ⟨_, _, hshape, Shape.declaration?_of_union? hunion⟩
  | enumeration hshape => exact ⟨_, _, hshape, rfl⟩
  | generic hshape hschema => exact absurd rfl hkind
  | companion hshape hlookup hmem htemplate => exact absurd rfl hkind

theorem IsMadeFrom.isShown (hsnapshot : ofDeclarations declarations = .ok context.snapshot)
    (h : context.IsMadeFrom roots entry type declaration) (hkind : entry.kind ≠ .generic) :
    IsShown context.snapshot.declarations declaration := by
  obtain ⟨shape, own, hshape, hown⟩ := h.yields.exists_shape hkind
  exact isShown_of_declaration? hsnapshot h.declared hshape (Option.isSome_of_eq_some hown)

theorem IsInstanceOf.isShown (hsnapshot : ofDeclarations declarations = .ok context.snapshot)
    (h : context.IsInstanceOf roots model schema declaration) : IsShown context.snapshot.declarations declaration := by
  obtain ⟨type, shape, -, hshape, rfl | rfl, -⟩ := h.made
  · exact isShown_of_classify hsnapshot hshape rfl
  · exact isShown_of_classify hsnapshot hshape rfl

/-- A declared type that has a generic entry of its own is visible, unless its name is enough. -/
theorem isServedByName_or_isShown (hsnapshot : ofDeclarations declarations = .ok context.snapshot)
    (hdeclared : context.snapshot.declaration? type = some declaration) (hshape : context.classify type = .ok shape)
    (hschema : context.ownGeneric? type shape = some schema) :
    IsServedByName type ∨ IsShown context.snapshot.declarations declaration := by
  by_cases hown : shape.declaration?.isSome = true
  · exact Or.inr (isShown_of_declaration? hsnapshot hdeclared hshape hown)
  · rcases classify_cases hshape with rfl | ⟨element, rank, template, rfl, rfl⟩ | ⟨inner, hinner, rfl⟩ | ⟨-, hnamed⟩
    · simp [ownGeneric?] at hschema
    · simp [Snapshot.declaration?, TypeRef.name?] at hdeclared
    · exact Or.inl (Or.inl (Option.isSome_of_eq_some hinner))
    · rcases classifyNamed_cases hnamed with ⟨template, hgeneric, htemplate, rfl⟩ | ⟨-, own, -, hclassify⟩
      · exact Or.inl (Or.inr ⟨hgeneric, Option.isSome_of_eq_some htemplate⟩)
      · rcases classifyDeclared_cases hclassify with rfl | rfl | ⟨-, rfl⟩ | ⟨-, rfl⟩ | rfl | rfl
        · simp [ownGeneric?] at hschema
        all_goals simp [Shape.declaration?] at hown

/-- Where identities tell types apart, an entry is made for the type that it has the identity of, or on behalf of a look-up. -/
theorem isServedByName_or_isShown_of_held (hsnapshot : ofDeclarations declarations = .ok context.snapshot)
    (hlegible : context.snapshot.isLegible scope = true) (hroots : ∀ root ∈ roots, root.isLegible scope = true)
    (h : context.Collects roots (.ok model)) (htype : type.IsCanonical scope)
    (hdeclared : context.snapshot.declaration? type = some declaration) {kind : EntryKind}
    (hheld : model.find? ⟨kind, type.identity.text⟩ = some entry) :
    (kind = .generic ∧ IsServedByName type) ∨ IsShown context.snapshot.declarations declaration := by
  obtain ⟨hkey, other, hreachable, hyields⟩ := held_of_collects h hheld
  obtain ⟨rfl, htext⟩ := EntryKey.mk.inj hkey
  have hidentity : entry.identity = type.identity := congrArg TypeIdentity.mk htext
  have hother : other.IsCanonical scope := hreachable.isCanonical hlegible hroots
  by_cases hkind : entry.kind = .generic
  · cases entry with
    | object schema | enumeration schema | union schema => simp [Entry.kind] at hkind
    | generic schema =>
      rcases hyields.generic_cases with ⟨shape, hshape, hschema⟩ | ⟨companion, hmem, -, template, htemplate, rfl⟩
      · have hsame : other = type := hother.eq_of_identity_eq htype ((identity_of_ownGeneric? hschema).symm.trans hidentity)
        rw [hsame] at hshape hschema
        exact (isServedByName_or_isShown hsnapshot hdeclared hshape hschema).imp_left fun hserved => ⟨rfl, hserved⟩
      · have hsame : companion = type := (isCanonical_companion hother hmem).eq_of_identity_eq htype hidentity
        rw [← hsame]
        exact Or.inl ⟨rfl, Or.inr ⟨isGeneric_companion hmem, Option.isSome_of_eq_some htemplate⟩⟩
  · have hsame : other = type := hother.eq_of_identity_eq htype ((hyields.identity_eq hkind).symm.trans hidentity)
    rw [hsame] at hyields hreachable
    exact Or.inr (IsMadeFrom.isShown hsnapshot ⟨hreachable, hyields, hdeclared⟩ hkind)

theorem exists_isMadeFrom (h : context.Collects roots (.ok model)) {key : EntryKey} (hheld : model.find? key = some entry)
    (hkind : key.kind ≠ .generic) : entry.kind ≠ .generic ∧ ∃ type declaration, context.IsMadeFrom roots entry type declaration := by
  obtain ⟨rfl, type, hreachable, hyields⟩ := held_of_collects h hheld
  obtain ⟨shape, declaration, hshape, hown⟩ := hyields.exists_shape hkind
  exact ⟨hkind, type, declaration, hreachable, hyields, (declaration?_of_classify hshape hown).1⟩

/-- **Accessibility follows nesting.** The way outward from a declared type ends; the type is visible, and as accessible as it says, just if it is public or internal at every level, and otherwise as accessible as the innermost hidden level. So a model holds no object, enum, union or instance for a type that is hidden at any level. -/
theorem accessibility_isByNesting (hsnapshot : ofDeclarations declarations = .ok context.snapshot) :
    (∀ type declaration, context.snapshot.declaration? type = some declaration →
        (∀ accessibility, context.snapshot.Settles declaration.accessibility declaration accessibility ↔
          accessibility = context.snapshot.accessibility type) ∧
        ((context.snapshot.accessibility type).isVisible = true ↔ IsShown context.snapshot.declarations declaration) ∧
        (IsShown context.snapshot.declarations declaration → context.snapshot.accessibility type = declaration.accessibility) ∧
        (¬IsShown context.snapshot.declarations declaration →
          ∃! level, IsInnermostHidden context.snapshot.declarations declaration level) ∧
        ∀ level, IsInnermostHidden context.snapshot.declarations declaration level →
          context.snapshot.accessibility type = level.accessibility) ∧
      ∀ roots model, context.Collects roots (.ok model) →
        (∀ key entry, model.find? key = some entry → key.kind ≠ .generic →
          (∃ type declaration, context.IsMadeFrom roots entry type declaration) ∧
            ∀ type declaration, context.IsMadeFrom roots entry type declaration →
              IsShown context.snapshot.declarations declaration) ∧
        (∀ schema declaration, context.IsInstanceOf roots model schema declaration →
          IsShown context.snapshot.declarations declaration) ∧
        ∀ scope, context.snapshot.isLegible scope = true → (∀ root ∈ roots, root.isLegible scope = true) →
          ∀ type declaration, type.IsCanonical scope → context.snapshot.declaration? type = some declaration →
            ∀ kind entry, model.find? ⟨kind, type.identity.text⟩ = some entry →
              (kind = .generic ∧ IsServedByName type) ∨ IsShown context.snapshot.declarations declaration := by
  constructor
  · intro type declaration hdeclared
    refine ⟨?_, isVisible_accessibility_iff hsnapshot hdeclared, accessibility_eq_of_isShown hsnapshot hdeclared,
      existsUnique_isInnermostHidden hsnapshot hdeclared, ?_⟩
    · intro accessibility
      exact settles_iff hsnapshot hdeclared
    · intro level hlevel
      exact accessibility_eq_of_isInnermostHidden hsnapshot hdeclared hlevel
  · intro roots model hcollects
    refine ⟨?_, ?_, ?_⟩
    · intro key entry hheld hkind
      obtain ⟨hentry, hmade⟩ := exists_isMadeFrom hcollects hheld hkind
      exact ⟨hmade, fun type declaration hmade => hmade.isShown hsnapshot hentry⟩
    · intro schema declaration hinstance
      exact hinstance.isShown hsnapshot
    · intro scope hlegible hroots type declaration htype hdeclared kind entry hheld
      exact isServedByName_or_isShown_of_held hsnapshot hlegible hroots hcollects htype hdeclared hheld

def vaultDeclaration : Declaration where
  name := "Demo.Vault"
  namespaceName := some "Demo"
  accessibility := .internalAccess
  attributes := [.serializableObject true]
  properties := [
    { name := "Purse", type := .named "Demo.Safe.Purse" [] },
    { name := "Lock", type := .named "Demo.Vault.Lock" [] }]

def lockDeclaration : Declaration where
  name := "Demo.Vault.Lock"
  namespaceName := some "Demo"
  kind := .enumType
  containingType := some "Demo.Vault"

def purseDeclaration : Declaration where
  name := "Demo.Safe.Purse"
  namespaceName := some "Demo"
  containingType := some "Demo.Safe"
  attributes := [.customFormatter "Codecs.Purse"]

/-- A vault with an enum in it, and a safe with a purse that another codec serves. -/
def vaultContext : Context where
  snapshot := ⟨[
    { name := "Demo.Safe", namespaceName := some "Demo", accessibility := .privateAccess },
    purseDeclaration, vaultDeclaration, lockDeclaration]⟩
  options := {}

theorem ofDeclarations_vaultContext : ofDeclarations vaultContext.snapshot.declarations = .ok vaultContext.snapshot := by
  rw [ofDeclarations_of_sorted (by decide +kernel)]
  rfl

theorem exists_model_vault : ∃ model, vaultContext.Collects [.named "Demo.Vault" []] (.ok model) ∧
    ∃ entry, model.find? ⟨.enumeration, "Demo.Vault.Lock"⟩ = some entry := by
  have hheld : ((vaultContext.collect .never 20 [.named "Demo.Vault" []]).bind Except.toOption).map (fun model =>
      (model.find? ⟨.enumeration, "Demo.Vault.Lock"⟩).isSome) = some true := by decide +kernel
  obtain ⟨model, hcollects, hlock⟩ := exists_collects_of_map hheld
  exact ⟨model, hcollects, Option.isSome_iff_exists.mp hlock⟩

/-- The vault leads to the purse, which is public but inside a private type, and the model holds nothing for it. -/
theorem find?_purse_eq_none :
    ofDeclarations vaultContext.snapshot.declarations = .ok vaultContext.snapshot ∧
      ¬IsShown vaultContext.snapshot.declarations purseDeclaration ∧
      IsShown vaultContext.snapshot.declarations lockDeclaration ∧
      ∃ model, vaultContext.Collects [.named "Demo.Vault" []] (.ok model) ∧
        ∀ kind, model.find? ⟨kind, "Demo.Safe.Purse"⟩ = none := by
  obtain ⟨hnesting, hmodels⟩ := accessibility_isByNesting ofDeclarations_vaultContext
  obtain ⟨model, hcollects, lock, hlock⟩ := exists_model_vault
  obtain ⟨-, -, hheld⟩ := hmodels _ model hcollects
  have hheld := hheld [] (by decide +kernel) (by decide +kernel)
  have hpurse : ¬IsShown vaultContext.snapshot.declarations purseDeclaration := by
    obtain ⟨-, hvisible, -, -, -⟩ := hnesting (.named "Demo.Safe.Purse" []) purseDeclaration (by decide +kernel)
    rw [← hvisible]
    decide +kernel
  have hshown : IsShown vaultContext.snapshot.declarations lockDeclaration :=
    (hheld (.named "Demo.Vault.Lock" []) lockDeclaration ⟨by decide +kernel, rfl⟩ (by decide +kernel) .enumeration lock hlock).resolve_left
      (by simp)
  refine ⟨ofDeclarations_vaultContext, hpurse, hshown, model, hcollects, ?_⟩
  intro kind
  apply Option.eq_none_iff_forall_ne_some.mpr
  intro entry hentry
  rcases hheld (.named "Demo.Safe.Purse" []) purseDeclaration ⟨by decide +kernel, rfl⟩ (by decide +kernel) kind entry hentry with
    ⟨-, hserved | ⟨hgeneric, -⟩⟩ | hshown
  · exact Bool.noConfusion hserved
  · exact Bool.noConfusion hgeneric
  · exact hpurse hshown

end SchemaClosure.Context
