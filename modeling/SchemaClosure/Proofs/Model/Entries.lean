import SchemaClosure.Model.Basic

/-!
A model as one map from keys to entries, where the key of an entry is its kind and its identity. Among entries that agree with each other the first one with a key is kept, in a model as in the merge of two.
-/

namespace SchemaClosure

inductive EntryKind where
  | object
  | enumeration
  | generic
  | union
  deriving DecidableEq, Repr

structure EntryKey where
  kind : EntryKind
  text : String
  deriving DecidableEq, Repr

namespace Entry

def identity : Entry → TypeIdentity
  | .object schema => schema.identity
  | .enumeration schema => schema.identity
  | .generic schema => schema.identity
  | .union schema => schema.identity

def kind : Entry → EntryKind
  | .object _ => .object
  | .enumeration _ => .enumeration
  | .generic _ => .generic
  | .union _ => .union

def key (entry : Entry) : EntryKey := ⟨entry.kind, entry.identity.text⟩

theorem identity_eq_of_key_eq {first second : Entry} (h : first.key = second.key) : first.identity = second.identity := by
  have htext : first.identity.text = second.identity.text := congrArg EntryKey.text h
  cases hfirst : first.identity with
  | mk text =>
    cases hsecond : second.identity with
    | mk text' =>
      rw [hfirst, hsecond] at htext
      exact congrArg TypeIdentity.mk htext

/-- An entry without the mark that tells whether a generic entry is open. -/
def withoutMark : Entry → Entry
  | .generic schema => .generic { schema with isOpenGeneric := false }
  | other => other

/-- Entries that differ at most in that mark. -/
def Agrees (first second : Entry) : Prop := first.withoutMark = second.withoutMark

theorem agrees_refl (entry : Entry) : entry.Agrees entry := rfl

theorem agrees_generic_iff {first second : GenericSchema} :
    (Entry.generic first).Agrees (.generic second) ↔
      first.identity = second.identity ∧ first.codecExpression = second.codecExpression := by
  simp [Agrees, withoutMark]

theorem kind_withoutMark (entry : Entry) : entry.withoutMark.kind = entry.kind := by
  cases entry <;> rfl

theorem identity_withoutMark (entry : Entry) : entry.withoutMark.identity = entry.identity := by
  cases entry <;> rfl

theorem key_eq_of_agrees {first second : Entry} (h : first.Agrees second) : first.key = second.key := by
  rw [key, key, ← kind_withoutMark first, ← kind_withoutMark second, ← identity_withoutMark first,
    ← identity_withoutMark second, h]

theorem kind_eq_of_agrees {first second : Entry} (h : first.Agrees second) : first.kind = second.kind :=
  congrArg EntryKey.kind (key_eq_of_agrees h)

theorem eq_of_agrees {first second : Entry} (h : first.Agrees second) (hkind : first.kind ≠ .generic) : first = second := by
  have hkinds : first.kind = second.kind := kind_eq_of_agrees h
  cases first with
  | generic schema => exact absurd rfl hkind
  | object schema => cases second <;> first | exact h | simp [kind] at hkinds
  | enumeration schema => cases second <;> first | exact h | simp [kind] at hkinds
  | union schema => cases second <;> first | exact h | simp [kind] at hkinds

end Entry

namespace Model

def find? (model : Model) (key : EntryKey) : Option Entry :=
  match key.kind with
  | .object => (model.objects.find? key.text).map .object
  | .enumeration => (model.enums.find? key.text).map .enumeration
  | .generic => (model.generics.find? key.text).map .generic
  | .union => (model.unions.find? key.text).map .union

@[simp]
theorem find?_empty (key : EntryKey) : empty.find? key = none := by
  obtain ⟨kind, text⟩ := key
  cases kind <;> rfl

theorem ext_find? {first second : Model} (h : ∀ key, first.find? key = second.find? key) : first = second := by
  have hobjects : first.objects = second.objects := by
    apply OrderedMap.ext_find?
    intro text
    exact Option.map_injective (fun _ _ => Entry.object.inj) (h ⟨.object, text⟩)
  have henums : first.enums = second.enums := by
    apply OrderedMap.ext_find?
    intro text
    exact Option.map_injective (fun _ _ => Entry.enumeration.inj) (h ⟨.enumeration, text⟩)
  have hgenerics : first.generics = second.generics := by
    apply OrderedMap.ext_find?
    intro text
    exact Option.map_injective (fun _ _ => Entry.generic.inj) (h ⟨.generic, text⟩)
  have hunions : first.unions = second.unions := by
    apply OrderedMap.ext_find?
    intro text
    exact Option.map_injective (fun _ _ => Entry.union.inj) (h ⟨.union, text⟩)
  obtain ⟨objects, enums, generics, unions⟩ := first
  simp only at hobjects henums hgenerics hunions
  rw [hobjects, henums, hgenerics, hunions]

theorem find?_merge (first second : Model) (key : EntryKey) :
    (first.merge second).find? key = (first.find? key).or (second.find? key) := by
  obtain ⟨kind, text⟩ := key
  cases kind <;> simp [find?, merge, OrderedMap.find?_merge, Option.map_or]

@[simp]
theorem merge_empty (model : Model) : model.merge empty = model := by
  apply ext_find?
  intro key
  rw [find?_merge, find?_empty, Option.or_none]

@[simp]
theorem empty_merge (model : Model) : empty.merge model = model := by
  apply ext_find?
  intro key
  rw [find?_merge, find?_empty, Option.none_or]

/-- A recorded entry takes the place of an old one with its key, except that an old generic entry is kept. -/
theorem find?_record (model : Model) (entry : Entry) (key : EntryKey) :
    (model.record entry).find? key =
      if key = entry.key then some (if entry.kind = .generic then (model.find? key).getD entry else entry)
      else model.find? key := by
  obtain ⟨kind, text⟩ := key
  cases entry with
  | object schema =>
    by_cases htext : text = schema.identity.text <;>
      cases kind <;> simp [find?, record, Entry.key, Entry.kind, Entry.identity, OrderedMap.find?_insert, htext]
  | enumeration schema =>
    by_cases htext : text = schema.identity.text <;>
      cases kind <;> simp [find?, record, Entry.key, Entry.kind, Entry.identity, OrderedMap.find?_insert, htext]
  | union schema =>
    by_cases htext : text = schema.identity.text <;>
      cases kind <;> simp [find?, record, Entry.key, Entry.kind, Entry.identity, OrderedMap.find?_insert, htext]
  | generic schema =>
    by_cases htext : text = schema.identity.text <;>
      cases kind <;> simp [find?, record, Entry.key, Entry.kind, Entry.identity, OrderedMap.find?_insertNew, htext]

/-- What a model holds after an entry is recorded, it held before, or it is that entry. -/
theorem eq_of_find?_record {model : Model} {entry held : Entry} {key : EntryKey} (h : (model.record entry).find? key = some held) :
    model.find? key = some held ∨ held = entry ∧ entry.key = key := by
  rw [find?_record] at h
  split at h
  · rename_i hkey
    split at h
    · cases hold : model.find? key with
      | some old =>
        rw [hold] at h
        exact Or.inl h
      | none =>
        rw [hold] at h
        exact Or.inr ⟨(Option.some.inj h).symm, hkey.symm⟩
    · exact Or.inr ⟨(Option.some.inj h).symm, hkey.symm⟩
  · exact Or.inl h

theorem find?_record_of_agrees {model : Model} {entry : Entry}
    (h : ∀ old, model.find? entry.key = some old → old.Agrees entry) (key : EntryKey) :
    (model.record entry).find? key = if key = entry.key then some ((model.find? key).getD entry) else model.find? key := by
  rw [find?_record]
  split
  · rename_i hkey
    subst hkey
    split
    · rfl
    · rename_i hkind
      cases hold : model.find? entry.key with
      | none => rfl
      | some old =>
        have hagrees := h old hold
        have hkinds : old.kind ≠ .generic := by
          rw [Entry.kind_eq_of_agrees hagrees]
          exact hkind
        rw [Entry.eq_of_agrees hagrees hkinds]
        rfl
  · rfl

theorem merge_record_of_mem {first second : Model} {entry : Entry} (h : (first.find? entry.key).isSome = true) :
    first.merge (second.record entry) = first.merge second := by
  apply ext_find?
  intro key
  rw [find?_merge, find?_merge, find?_record]
  by_cases hkey : key = entry.key
  · obtain ⟨old, hold⟩ := Option.isSome_iff_exists.mp h
    rw [hkey, hold, Option.some_or, Option.some_or]
  · rw [if_neg hkey]

/-- Recording into a merge is recording into its second model, as long as what is there agrees. -/
theorem merge_record {first second : Model} {entry : Entry}
    (hfirst : ∀ old, first.find? entry.key = some old → old.Agrees entry)
    (hsecond : ∀ old, second.find? entry.key = some old → old.Agrees entry) :
    first.merge (second.record entry) = (first.merge second).record entry := by
  have hmerged : ∀ old, (first.merge second).find? entry.key = some old → old.Agrees entry := by
    intro old hold
    rw [find?_merge, Option.or_eq_some_iff] at hold
    rcases hold with hold | ⟨-, hold⟩
    · exact hfirst old hold
    · exact hsecond old hold
  apply ext_find?
  intro key
  rw [find?_merge, find?_record_of_agrees hsecond, find?_record_of_agrees hmerged, find?_merge]
  by_cases hkey : key = entry.key
  · rw [if_pos hkey, if_pos hkey]
    cases first.find? key <;> simp
  · rw [if_neg hkey, if_neg hkey]

end Model

end SchemaClosure
