import SchemaClosure.Proofs.Closure.Binding

namespace SchemaClosure.Binding

/-- The outcome of binding is an error or the binding of a designated constructor, hidden or not. -/
def HonorsDesignation (constructors : List Constructor) (members : List MemberSchema) (keyMode : KeyMode)
    (outcome : Except ConstructorFailure (Option (List Nat))) : Prop :=
  ∀ bound, outcome = .ok bound → ∃ designated ∈ constructors, designated.isDesignated = true ∧
    ∃ binding, bound = some binding ∧ places members keyMode designated = .ok binding

/-- The constructors without those that are designated. -/
def undesignated (constructors : List Constructor) : List Constructor := constructors.filter (!·.isDesignated)

variable {constructors : List Constructor} {members : List MemberSchema} {keyMode : KeyMode} {isReferenceType : Bool}

theorem mem_designated_iff {constructor : Constructor} :
    constructor ∈ (accessible constructors).filter Constructor.isDesignated ↔
      constructor ∈ accessible constructors ∧ constructor.isDesignated = true := List.mem_filter

/-- With a single designated constructor that codecs see, only its own binding is a success. -/
theorem honorsDesignation_of_visible
    (h : ∃ constructor ∈ accessible constructors, constructor.isDesignated = true) :
    HonorsDesignation (accessible constructors) members keyMode (bind constructors members keyMode isReferenceType) := by
  intro bound hbound
  match hdesignated : (accessible constructors).filter Constructor.isDesignated with
  | [] =>
    obtain ⟨constructor, hmem, hmark⟩ := h
    exact absurd (mem_designated_iff.mpr ⟨hmem, hmark⟩) (hdesignated ▸ List.not_mem_nil)
  | [designated] =>
    obtain ⟨hmem, hmark⟩ := mem_designated_iff.mp (hdesignated ▸ List.mem_singleton_self designated)
    rw [bind_eq, hdesignated] at hbound
    cases hplaces : places members keyMode designated with
    | ok binding =>
      simp only [hplaces] at hbound
      exact ⟨designated, hmem, hmark, binding, (Except.ok.inj hbound).symm, hplaces⟩
    | error failure => simp [hplaces] at hbound
  | first :: second :: rest =>
    rw [bind_ambiguous (by simp [hdesignated])] at hbound
    simp at hbound

theorem accessible_undesignated (h : ∀ constructor ∈ accessible constructors, constructor.isDesignated = false) :
    accessible (undesignated constructors) = accessible constructors := by
  rw [accessible, undesignated, List.filter_filter]
  refine List.filter_congr ?_
  intro constructor hmem
  cases hvisible : constructor.accessibility.isVisible with
  | false => rfl
  | true => simp [h constructor (List.mem_filter.mpr ⟨hmem, hvisible⟩)]

/-- Binding looks at the constructors that codecs see, and at no others. -/
theorem bind_congr {constructors' : List Constructor} (h : accessible constructors = accessible constructors') :
    bind constructors members keyMode isReferenceType = bind constructors' members keyMode isReferenceType := by
  rw [bind_eq, bind_eq, h]

/-- Where codecs see a designated constructor, binding gives a designated one that they see, or it fails. Where they see none, it goes on as if no constructor were designated. -/
theorem bind_designation (constructors : List Constructor) (members : List MemberSchema) (keyMode : KeyMode) (isReferenceType : Bool) :
    ((∃ constructor ∈ accessible constructors, constructor.isDesignated = true) →
      HonorsDesignation (accessible constructors) members keyMode (bind constructors members keyMode isReferenceType)) ∧
    ((∀ constructor ∈ accessible constructors, constructor.isDesignated = false) →
      bind constructors members keyMode isReferenceType = bind (undesignated constructors) members keyMode isReferenceType) :=
  ⟨honorsDesignation_of_visible, fun h => (bind_congr (accessible_undesignated h)).symm⟩

/-- A constructor for decoding that is private, beside a public one without parameters. -/
def vaultConstructors : List Constructor := [
  { accessibility := .privateAccess, parameters := [⟨"content", .named "int" []⟩], attributes := [.serializationConstructor] },
  {}]

/-- Codecs do not see the designated constructor, so the other one is bound; and where there is no other one, a value type gets none. -/
theorem not_honorsDesignation_vault :
    (∃ constructor ∈ vaultConstructors.take 1, constructor.isDesignated = true) ∧
      ¬HonorsDesignation vaultConstructors [] .text (bind vaultConstructors [] .text true) ∧
      ¬HonorsDesignation (vaultConstructors.take 1) [] .text (bind (vaultConstructors.take 1) [] .text false) := by
  have hother : bind vaultConstructors [] .text true = .ok (some []) := by decide +kernel
  have hnone : bind (vaultConstructors.take 1) [] .text false = .ok none := by rfl
  refine ⟨by decide, ?_, ?_⟩
  · intro h
    obtain ⟨designated, hmem, hmark, binding, -, hplaces⟩ := h _ hother
    rcases List.mem_pair.mp hmem with rfl | rfl
    · cases hplaces
    · cases hmark
  · intro h
    obtain ⟨designated, -, -, binding, hsome, -⟩ := h _ hnone
    cases hsome

/-- A public constructor for decoding without parameters, beside a wider one. -/
def safeConstructors : List Constructor := [
  { attributes := [.serializationConstructor] },
  { parameters := [⟨"content", .named "int" []⟩] }]

def contentMember : MemberSchema where
  storageKind := .property
  isReadable := true
  isWritable := true
  key := .text 0 "Content"
  sourceName := "Content"
  declaredType := .named "int" []
  overrideCodec := none

/-- A designated constructor that codecs see is bound although a wider one fits; a hidden one leaves the choice as it would be without it. -/
theorem bind_designation_safe :
    HonorsDesignation (accessible safeConstructors) [contentMember] .text (bind safeConstructors [contentMember] .text true) ∧
      bind safeConstructors [contentMember] .text true = .ok (some []) ∧
      bind (safeConstructors.drop 1) [contentMember] .text true = .ok (some [0]) ∧
      bind vaultConstructors [contentMember] .text true = bind (undesignated vaultConstructors) [contentMember] .text true := by
  obtain ⟨hvisible, -⟩ := bind_designation safeConstructors [contentMember] .text true
  obtain ⟨-, hhidden⟩ := bind_designation vaultConstructors [contentMember] .text true
  exact ⟨hvisible (by decide), by decide +kernel, by decide +kernel, hhidden (by decide)⟩

end SchemaClosure.Binding
