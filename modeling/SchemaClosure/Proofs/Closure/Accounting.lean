import SchemaClosure.Proofs.Closure.Resolution

/-!
What becomes of the candidates of a layout. Every candidate has one fate, told by the candidates before it; the members of the layout are the candidates that are kept, and its diagnostics are what the other fates report: `layout_accounts`. A layout fails only at a candidate whose key is of another kind than the first key.
-/

namespace SchemaClosure

namespace KeyValue

def display : KeyValue → String
  | .integer value => toString value.toInt
  | .text name => "\"" ++ name ++ "\""
  | .null => "null"

/-- The kind of keys that a key calls for; a null key calls for none. -/
def mode? : KeyValue → Option KeyMode
  | .integer _ => some .integer
  | .text _ => some .text
  | .null => none

end KeyValue

namespace MemberKey

/-- The key of a member as its candidate asked for it, without the ordinal. -/
def value : MemberKey → KeyValue
  | .integer value => .integer value
  | .text _ name => .text name

theorem display_value (key : MemberKey) : key.value.display = key.display := by
  cases key <;> rfl

theorem exists_integer_of_mode {key : MemberKey} (h : key.mode = .integer) : ∃ value, key = .integer value := by
  cases key with
  | integer value => exact ⟨value, rfl⟩
  | text ordinal name => simp [mode] at h

theorem exists_text_of_mode {key : MemberKey} (h : key.mode = .text) : ∃ ordinal name, key = .text ordinal name := by
  cases key with
  | integer value => simp [mode] at h
  | text ordinal name => exact ⟨ordinal, name, rfl⟩

theorem value_ne_null (key : MemberKey) : key.value ≠ .null := by
  cases key <;> simp [value]

theorem integer?_eq_some_iff {key : MemberKey} {value : Int32} : key.integer? = some value ↔ key.value = .integer value := by
  cases key <;> simp [integer?, MemberKey.value]

theorem text?_eq_some_iff {key : MemberKey} {name : String} : key.text? = some name ↔ key.value = .text name := by
  cases key <;> simp [text?, value]

end MemberKey

namespace Candidate

/-- The key that a candidate asks for: its name where members are keyed by name, or else what its key attribute holds. -/
def askedKey? (byName : Bool) (candidate : Candidate) : Option KeyValue :=
  if byName then some (.text candidate.name) else candidate.attributes.key?

/-- The kind of keys that a candidate calls for with its key attribute. -/
def keyMode? (candidate : Candidate) : Option KeyMode := candidate.attributes.key?.bind KeyValue.mode?

/-- What becomes of a candidate. -/
inductive Fate where
  | kept
  /-- The key belongs to an earlier candidate. -/
  | duplicate (key : KeyValue) (owner : Candidate)
  | missingKey
  | nullKey
  /-- There is no key, and the type does not ask for one. -/
  | passedOver
  deriving DecidableEq, Repr

/-- The fate of a candidate that comes after the candidates `before`. -/
def fateAfter (byName marked : Bool) (before : List Candidate) (candidate : Candidate) : Fate :=
  match candidate.askedKey? byName with
  | none => if marked then .missingKey else .passedOver
  | some .null => .nullKey
  | some key =>
    match before.find? fun other => other.askedKey? byName == some key with
    | some owner => .duplicate key owner
    | none => .kept

def fatesAfter (byName marked : Bool) : (before : List Candidate) → List Candidate → List (Candidate × Fate)
  | _, [] => []
  | before, candidate :: rest =>
    (candidate, fateAfter byName marked before candidate) :: fatesAfter byName marked (before ++ [candidate]) rest

def fates (byName marked : Bool) (candidates : List Candidate) : List (Candidate × Fate) := fatesAfter byName marked [] candidates

def kept (byName marked : Bool) (candidates : List Candidate) : List Candidate :=
  (fates byName marked candidates).filterMap fun (candidate, fate) => if fate = .kept then some candidate else none

/-- The diagnostic that a fate gives rise to. -/
def Fate.report (identity : TypeIdentity) (candidate : Candidate) : Fate → List Diagnostic
  | .duplicate key owner => [Layout.duplicateKey identity key.display owner.name candidate.name]
  | .missingKey => [Layout.missingKey identity candidate.name]
  | .nullKey => [Layout.nullKey identity candidate.name]
  | .kept | .passedOver => []

/-- A key attribute is reported as useless where the type itself asks for names as keys, and then `warns` holds. -/
def warnings (identity : TypeIdentity) (warns : Bool) (candidate : Candidate) : List Diagnostic :=
  if warns && candidate.attributes.key?.isSome then [Layout.ignoredKey identity candidate.name] else []

def findings (identity : TypeIdentity) (warns : Bool) : Candidate × Fate → List Diagnostic
  | (candidate, fate) => warnings identity warns candidate ++ fate.report identity candidate

/-- After the candidates `before`, whose keys are all of the kind `expected`, the offender has a key of the other kind. -/
def IsMixedAt (before : List Candidate) (offender : Candidate) (expected : KeyMode) : Prop :=
  before.findSome? keyMode? = some expected ∧
    (∀ candidate ∈ before, ∀ mode, candidate.keyMode? = some mode → mode = expected) ∧
    ∃ mode, offender.keyMode? = some mode ∧ mode ≠ expected

/-- The member is the candidate under the key that it asks for. -/
def IsKeptAs (byName : Bool) (candidate : Candidate) (member : MemberSchema) : Prop :=
  ∃ key, candidate.askedKey? byName = some key.value ∧ member = candidate.schema key

variable {byName marked : Bool} {before candidates : List Candidate} {candidate : Candidate}

theorem fatesAfter_append (rest : List Candidate) :
    fatesAfter byName marked before (candidates ++ rest) =
      fatesAfter byName marked before candidates ++ fatesAfter byName marked (before ++ candidates) rest := by
  induction candidates generalizing before with
  | nil => simp [fatesAfter]
  | cons first candidates ih => simp [fatesAfter, ih]

theorem fates_append_singleton :
    fates byName marked (candidates ++ [candidate]) =
      fates byName marked candidates ++ [(candidate, fateAfter byName marked candidates candidate)] := by
  simp [fates, fatesAfter_append, fatesAfter]

theorem map_fst_fatesAfter : (fatesAfter byName marked before candidates).map (·.1) = candidates := by
  induction candidates generalizing before with
  | nil => rfl
  | cons first candidates ih => simp [fatesAfter, ih]

theorem kept_append_singleton :
    kept byName marked (candidates ++ [candidate]) =
      kept byName marked candidates ++
        if fateAfter byName marked candidates candidate = .kept then [candidate] else [] := by
  rw [kept, kept, fates_append_singleton, List.filterMap_append]
  split <;> simp [*]

/-- The fate of a candidate that asks for a key. -/
theorem fateAfter_of_askedKey {key : KeyValue} (hasked : candidate.askedKey? byName = some key) (hkey : key ≠ .null) :
    fateAfter byName marked before candidate =
      match before.find? fun other => other.askedKey? byName == some key with
      | some owner => .duplicate key owner
      | none => .kept := by
  unfold fateAfter
  rw [hasked]
  cases key with
  | null => exact absurd rfl hkey
  | integer value => rfl
  | text name => rfl

/-- A duplicate has the key of a candidate before it that is kept. -/
theorem duplicate_cases {key : KeyValue} {owner : Candidate} (h : fateAfter byName marked before candidate = .duplicate key owner) :
    candidate.askedKey? byName = some key ∧ ∃ earlier later, before = earlier ++ owner :: later ∧
      owner.askedKey? byName = some key ∧ fateAfter byName marked earlier owner = .kept := by
  unfold fateAfter at h
  split at h
  · split at h <;> simp at h
  · simp at h
  · rename_i asked hne hasked
    split at h
    · rename_i found hfound
      obtain ⟨rfl, rfl⟩ := Fate.duplicate.inj h
      obtain ⟨hmatches, earlier, later, hsplit, hearlier⟩ := List.find?_eq_some_iff_append.mp hfound
      have howner : found.askedKey? byName = some asked := eq_of_beq hmatches
      have hnone : (earlier.find? fun other => other.askedKey? byName == some asked) = none := by
        rw [List.find?_eq_none]
        intro other hother
        simpa using hearlier other hother
      refine ⟨hasked, earlier, later, hsplit, howner, ?_⟩
      rw [fateAfter_of_askedKey howner hne, hnone]
    · simp at h

end Candidate

namespace Layout

namespace Draft

open Candidate

/-- What a draft holds after the candidates `taken`, where `opening` are the diagnostics that it began with. -/
structure Accounts (identity : TypeIdentity) (byName marked warns : Bool) (opening : List Diagnostic) (taken : List Candidate)
    (draft : Draft) : Prop where
  members : List.Forall₂ (IsKeptAs byName) (kept byName marked taken) draft.members
  owners : ∀ key, key ≠ .null → Option.Rel (IsKeptAs byName) (taken.find? fun other => other.askedKey? byName == some key)
    (draft.members.find? fun member => member.key.value == key)
  ordinals : ∀ (place ordinal : Nat) (member : MemberSchema) (name : String), draft.members[place]? = some member →
    member.key = .text ordinal name → ordinal = place
  distinct : (draft.members.map (·.key.value)).Nodup
  modes : ∀ member ∈ draft.members, draft.keyMode = some member.key.mode
  diagnostics : draft.diagnostics = opening ++ (fates byName marked taken).flatMap (findings identity warns)

variable {identity : TypeIdentity} {byName marked warns : Bool} {opening : List Diagnostic} {taken candidates : List Candidate}
  {candidate : Candidate} {draft next : Draft}

theorem Accounts.start (mode : Option KeyMode) :
    ({ keyMode := mode, diagnostics := opening } : Draft).Accounts identity byName marked warns opening [] where
  members := .nil
  owners _ _ := .none
  ordinals _ _ _ _ hplace := by simp at hplace
  distinct := .nil
  modes _ hmem := absurd hmem List.not_mem_nil
  diagnostics := by simp [fates, fatesAfter]

/-- A candidate that is not kept leaves the members as they are. -/
theorem Accounts.reject (h : draft.Accounts identity byName marked warns opening taken)
    (hmembers : next.members = draft.members) (hmode : ∀ member ∈ draft.members, next.keyMode = some member.key.mode)
    (hdiagnostics : next.diagnostics =
      draft.diagnostics ++ findings identity warns (candidate, fateAfter byName marked taken candidate))
    (hfate : fateAfter byName marked taken candidate ≠ .kept)
    (hfound : ∀ key, key ≠ .null → candidate.askedKey? byName = some key →
      (taken.find? fun other => other.askedKey? byName == some key).isSome) :
    next.Accounts identity byName marked warns opening (taken ++ [candidate]) where
  members := by
    rw [hmembers, kept_append_singleton, if_neg hfate, List.append_nil]
    exact h.members
  owners key hkey := by
    rw [hmembers, List.find?_append]
    by_cases hasked : candidate.askedKey? byName = some key
    · obtain ⟨owner, howner⟩ := Option.isSome_iff_exists.mp (hfound key hkey hasked)
      have hrel := h.owners key hkey
      rw [howner] at hrel ⊢
      exact hrel
    · have hsingle : ([candidate].find? fun other => other.askedKey? byName == some key) = none := by
        simpa using hasked
      rw [hsingle, Option.or_none]
      exact h.owners key hkey
  ordinals := by
    rw [hmembers]
    exact h.ordinals
  distinct := by
    rw [hmembers]
    exact h.distinct
  modes := by
    rw [hmembers]
    exact hmode
  diagnostics := by
    rw [hdiagnostics, h.diagnostics, fates_append_singleton, List.flatMap_append, List.append_assoc]
    simp

theorem rel_or {α β : Type} {Related : α → β → Prop} {first first' : Option α} {second second' : Option β}
    (h : Option.Rel Related first second) (h' : Option.Rel Related first' second') :
    Option.Rel Related (first.or first') (second.or second') := by
  cases h with
  | some hrelated => exact .some hrelated
  | none => exact h'

/-- A candidate and the member that it becomes are found under the same keys. -/
theorem rel_find?_singleton {key : MemberKey} (hasked : candidate.askedKey? byName = some key.value) (other : KeyValue) :
    Option.Rel (IsKeptAs byName) ([candidate].find? fun candidate => candidate.askedKey? byName == some other)
      ([candidate.schema key].find? fun member => member.key.value == other) := by
  have hkept : IsKeptAs byName candidate (candidate.schema key) := ⟨key, hasked, rfl⟩
  by_cases heq : key.value = other
  · simpa [hasked, schema, heq] using Option.Rel.some hkept
  · simp [hasked, schema, heq]

/-- A candidate whose key is still free becomes the last member. -/
theorem Accounts.keep {key : MemberKey} (h : draft.Accounts identity byName marked warns opening taken)
    (hmembers : next.members = draft.members ++ [candidate.schema key]) (hmode : next.keyMode = some key.mode)
    (hmodes : ∀ member ∈ draft.members, next.keyMode = some member.key.mode)
    (hdiagnostics : next.diagnostics = draft.diagnostics ++ warnings identity warns candidate)
    (hasked : candidate.askedKey? byName = some key.value)
    (hfree : (draft.members.find? fun member => member.key.value == key.value) = none)
    (hordinal : ∀ ordinal name, key = .text ordinal name → ordinal = draft.members.length) :
    next.Accounts identity byName marked warns opening (taken ++ [candidate]) := by
  have hfresh : (taken.find? fun other => other.askedKey? byName == some key.value) = none := by
    have hrel := h.owners key.value key.value_ne_null
    rw [hfree] at hrel
    cases hfound : taken.find? fun other => other.askedKey? byName == some key.value with
    | none => rfl
    | some owner => rw [hfound] at hrel; cases hrel
  have hfate : fateAfter byName marked taken candidate = .kept := by
    rw [fateAfter_of_askedKey hasked key.value_ne_null, hfresh]
  have hkept : IsKeptAs byName candidate (candidate.schema key) := ⟨key, hasked, rfl⟩
  constructor
  · rw [hmembers, kept_append_singleton, if_pos hfate]
    exact List.rel_append h.members (.cons hkept .nil)
  · intro other hother
    rw [hmembers, List.find?_append, List.find?_append]
    exact rel_or (h.owners other hother) (rel_find?_singleton hasked other)
  · intro place ordinal member name hplace hkey
    rw [hmembers, List.getElem?_append] at hplace
    split at hplace
    · exact h.ordinals place ordinal member name hplace hkey
    · rename_i hbeyond
      rw [List.getElem?_singleton] at hplace
      split at hplace
      · rename_i hlast
        rw [← Option.some.inj hplace] at hkey
        have hordinal := hordinal ordinal name hkey
        omega
      · simp at hplace
  · rw [hmembers, List.map_append, List.nodup_append]
    refine ⟨h.distinct, List.pairwise_singleton _ _, ?_⟩
    intro value hvalue other hother heq
    obtain ⟨member, hmember, rfl⟩ := List.mem_map.mp hvalue
    rw [List.map_singleton, List.mem_singleton] at hother
    exact List.find?_eq_none.mp hfree member hmember (beq_iff_eq.mpr (heq.trans hother))
  · rw [hmembers]
    intro member hmem
    rcases List.mem_append.mp hmem with hmem | hmem
    · exact hmodes member hmem
    · rw [List.mem_singleton.mp hmem]
      exact hmode
  · rw [hdiagnostics, h.diagnostics, fates_append_singleton, List.flatMap_append, hfate, List.append_assoc]
    simp [findings, Fate.report]

/-- Claiming a key for the next candidate, once the draft has been made ready for it: `ready` differs from the draft in the kind of keys and in a warning at most. -/
theorem Accounts.claim {ready : Draft} {key : MemberKey} (h : draft.Accounts identity byName marked warns opening taken)
    (hmembers : ready.members = draft.members) (hmode : ready.keyMode = some key.mode)
    (hmodes : ∀ member ∈ draft.members, ready.keyMode = some member.key.mode)
    (hdiagnostics : ready.diagnostics = draft.diagnostics ++ warnings identity warns candidate)
    (hasked : candidate.askedKey? byName = some key.value)
    (hordinal : ∀ ordinal name, key = .text ordinal name → ordinal = draft.members.length) :
    (ready.claim identity candidate key (ready.members.find? fun member => member.key.value == key.value)).Accounts
      identity byName marked warns opening (taken ++ [candidate]) := by
  have howners := h.owners key.value key.value_ne_null
  rw [hmembers]
  cases hfirst : draft.members.find? fun member => member.key.value == key.value with
  | none => exact h.keep (by rw [Draft.claim, hmembers]) hmode hmodes hdiagnostics hasked hfirst hordinal
  | some first =>
    rw [hfirst] at howners
    cases howner : taken.find? fun other => other.askedKey? byName == some key.value with
    | none =>
      rw [howner] at howners
      cases howners
    | some owner =>
      rw [howner] at howners
      obtain ⟨-, -, rfl⟩ : IsKeptAs byName owner first := by
        cases howners
        assumption
      have hfate : fateAfter byName marked taken candidate = .duplicate key.value owner := by
        rw [fateAfter_of_askedKey hasked key.value_ne_null, howner]
      simp only [Draft.claim]
      refine h.reject hmembers hmodes ?_ ?_ ?_
      · rw [hfate, report, hdiagnostics, List.append_assoc, findings, Fate.report, key.display_value]
        rfl
      · simp [hfate]
      · intro other _ hother
        rw [hasked] at hother
        rw [← Option.some.inj hother, howner]
        rfl

theorem find?_integer (members : List MemberSchema) (value : Int32) :
    (members.find? fun member => member.key.integer? == some value) =
      members.find? fun member => member.key.value == .integer value := by
  congr 1
  funext member
  rw [Bool.eq_iff_iff, beq_iff_eq, beq_iff_eq, MemberKey.integer?_eq_some_iff]

theorem find?_text (members : List MemberSchema) (name : String) :
    (members.find? fun member => member.key.text? == some name) =
      members.find? fun member => member.key.value == .text name := by
  congr 1
  funext member
  rw [Bool.eq_iff_iff, beq_iff_eq, beq_iff_eq, MemberKey.text?_eq_some_iff]

theorem keyMode_claim {ready : Draft} (key : MemberKey) (owner : Option MemberSchema) :
    (ready.claim identity candidate key owner).keyMode = ready.keyMode := by
  cases owner <;> rfl

theorem Accounts.takeByName (h : draft.Accounts identity true marked warns opening taken)
    (hmode : draft.keyMode = some .text) :
    (Draft.takeByName identity warns draft candidate).Accounts identity true marked warns opening (taken ++ [candidate]) ∧
      (Draft.takeByName identity warns draft candidate).keyMode = some .text := by
  obtain ⟨ready, hready, hmembers, hkeyMode, hdiagnostics⟩ : ∃ ready : Draft,
      Draft.takeByName identity warns draft candidate = ready.claimText identity candidate candidate.name ∧
        ready.members = draft.members ∧ ready.keyMode = draft.keyMode ∧
        ready.diagnostics = draft.diagnostics ++ warnings identity warns candidate := by
    refine ⟨_, rfl, ?_⟩
    unfold warnings
    split <;> simp [report]
  rw [hready, claimText, find?_text]
  constructor
  · refine h.claim hmembers (hkeyMode.trans hmode) ?_ hdiagnostics rfl ?_
    · rw [hkeyMode]
      exact h.modes
    · intro ordinal name hkey
      rw [← (MemberKey.text.inj hkey).1, hmembers]
  · rw [← hmode, ← hkeyMode]
    exact keyMode_claim _ _

theorem fixMode_eq_ok {mode : KeyMode} (h : draft.fixMode identity candidate mode = .ok next) :
    (draft.keyMode = none ∨ draft.keyMode = some mode) ∧ next = { draft with keyMode := some mode } := by
  unfold fixMode at h
  split at h
  · rename_i hopen
    exact ⟨Or.inl hopen, (Except.ok.inj h).symm⟩
  · rename_i expected hfixed
    split at h
    · rename_i hsame
      rw [hsame] at hfixed
      refine ⟨Or.inr hfixed, ?_⟩
      rw [← Except.ok.inj h, ← hfixed]
    · simp at h

theorem fixMode_eq_error_iff {mode : KeyMode} {error : CollectError} :
    draft.fixMode identity candidate mode = .error error ↔
      ∃ expected, draft.keyMode = some expected ∧ mode ≠ expected ∧ error = .mixedKeys identity candidate.name expected := by
  unfold fixMode
  cases draft.keyMode with
  | none => simp
  | some expected =>
    by_cases hsame : expected = mode
    · simp [hsame]
    · simp [hsame, Ne.symm hsame, eq_comm]

/-- What taking a candidate with a key does: the kind of keys is fixed, and the key is claimed. -/
theorem takeByKey_of_key {key : KeyValue} {mode : KeyMode} (marked : Bool) (hkey : candidate.attributes.key? = some key)
    (hmode : key.mode? = some mode) :
    ∃ claimed : MemberKey, claimed.value = key ∧ claimed.mode = mode ∧
      (∀ ordinal name, claimed = .text ordinal name → ordinal = draft.members.length) ∧
      takeByKey identity marked draft candidate = (draft.fixMode identity candidate mode).map fun fixed =>
        fixed.claim identity candidate claimed (fixed.members.find? fun member => member.key.value == claimed.value) := by
  cases key with
  | null => simp [KeyValue.mode?] at hmode
  | integer value =>
    obtain rfl : KeyMode.integer = mode := Option.some.inj hmode
    refine ⟨.integer value, rfl, rfl, by simp, ?_⟩
    rw [takeByKey, hkey]
    simp only [claimInteger, find?_integer, MemberKey.value]
  | text name =>
    obtain rfl : KeyMode.text = mode := Option.some.inj hmode
    refine ⟨.text draft.members.length name, rfl, rfl, by simp +contextual, ?_⟩
    rw [takeByKey, hkey]
    cases hfixed : draft.fixMode identity candidate .text with
    | error error => simp [Except.map]
    | ok fixed =>
      obtain ⟨-, rfl⟩ := fixMode_eq_ok hfixed
      simp [Except.map, claimText, find?_text, MemberKey.value]

theorem takeByKey_of_no_mode (taken : List Candidate) (hmode : candidate.keyMode? = none) :
    takeByKey identity marked draft candidate = .ok
      { draft with diagnostics := draft.diagnostics ++ (fateAfter false marked taken candidate).report identity candidate } ∧
      fateAfter false marked taken candidate ≠ .kept ∧ (candidate.askedKey? false = none ∨ candidate.askedKey? false = some .null) := by
  unfold takeByKey fateAfter askedKey?
  cases hkey : candidate.attributes.key? with
  | none => cases marked <;> simp [Fate.report, report]
  | some key =>
    cases key with
    | null => simp [Fate.report, report]
    | integer value => simp [keyMode?, hkey, KeyValue.mode?] at hmode
    | text name => simp [keyMode?, hkey, KeyValue.mode?] at hmode

theorem takeByKey_eq_error_iff {error : CollectError} :
    takeByKey identity marked draft candidate = .error error ↔
      ∃ expected mode, draft.keyMode = some expected ∧ candidate.keyMode? = some mode ∧ mode ≠ expected ∧
        error = .mixedKeys identity candidate.name expected := by
  cases hmode : candidate.keyMode? with
  | none =>
    rw [(takeByKey_of_no_mode [] hmode).1]
    simp
  | some mode =>
    obtain ⟨key, hkey, hkeyMode⟩ := Option.bind_eq_some_iff.mp hmode
    obtain ⟨claimed, -, -, -, htake⟩ := takeByKey_of_key marked hkey hkeyMode
    rw [htake]
    constructor
    · intro h
      cases hfixed : draft.fixMode identity candidate mode with
      | ok fixed => simp [hfixed, Except.map] at h
      | error cause =>
        rw [hfixed] at h
        obtain ⟨expected, hexpected, hne, hcause⟩ := fixMode_eq_error_iff.mp hfixed
        exact ⟨expected, mode, hexpected, rfl, hne, (Except.error.inj h).symm.trans hcause⟩
    · rintro ⟨expected, mode', hexpected, hmode', hne, herror⟩
      rw [← Option.some.inj hmode'] at hne
      rw [fixMode_eq_error_iff.mpr ⟨expected, hexpected, hne, herror⟩]
      rfl

theorem takeByKey_eq_ok (hnext : takeByKey identity marked draft candidate = .ok next) :
    next.keyMode = draft.keyMode.or candidate.keyMode? ∧ ∀ mode, candidate.keyMode? = some mode → next.keyMode = some mode := by
  cases hmode : candidate.keyMode? with
  | none =>
    rw [(takeByKey_of_no_mode [] hmode).1] at hnext
    rw [← Except.ok.inj hnext]
    simp
  | some mode =>
    obtain ⟨key, hkey, hkeyMode⟩ := Option.bind_eq_some_iff.mp hmode
    obtain ⟨claimed, -, -, -, htake⟩ := takeByKey_of_key marked hkey hkeyMode
    rw [htake] at hnext
    obtain ⟨fixed, hfixed, rfl⟩ := map_eq_ok_iff.mp hnext
    obtain ⟨hopen, rfl⟩ := fixMode_eq_ok hfixed
    rw [keyMode_claim]
    rcases hopen with hopen | hopen <;> simp [hopen]

theorem Accounts.takeByKey (h : draft.Accounts identity false marked false opening taken)
    (hnext : Draft.takeByKey identity marked draft candidate = .ok next) :
    next.Accounts identity false marked false opening (taken ++ [candidate]) := by
  cases hmode : candidate.keyMode? with
  | none =>
    obtain ⟨htake, hfate, hasked⟩ := takeByKey_of_no_mode taken hmode
    rw [htake] at hnext
    rw [← Except.ok.inj hnext]
    refine h.reject rfl h.modes rfl hfate ?_
    intro key hkey hsome
    rcases hasked with hnone | hnull
    · rw [hnone] at hsome
      simp at hsome
    · rw [hnull] at hsome
      exact absurd (Option.some.inj hsome).symm hkey
  | some mode =>
    obtain ⟨key, hkey, hkeyMode⟩ := Option.bind_eq_some_iff.mp hmode
    obtain ⟨claimed, rfl, rfl, hordinal, htake⟩ := takeByKey_of_key marked hkey hkeyMode
    rw [htake] at hnext
    obtain ⟨fixed, hfixed, rfl⟩ := map_eq_ok_iff.mp hnext
    obtain ⟨hopen, rfl⟩ := fixMode_eq_ok hfixed
    refine h.claim rfl rfl ?_ (by simp [warnings]) hkey hordinal
    intro member hmem
    rcases hopen with hopen | hopen
    · rw [h.modes member hmem] at hopen
      simp at hopen
    · rw [← hopen]
      exact h.modes member hmem

theorem Accounts.foldl_takeByName (h : draft.Accounts identity true marked warns opening taken)
    (hmode : draft.keyMode = some .text) (rest : List Candidate) :
    (rest.foldl (Draft.takeByName identity warns) draft).Accounts identity true marked warns opening (taken ++ rest) ∧
      (rest.foldl (Draft.takeByName identity warns) draft).keyMode = some .text := by
  induction rest generalizing draft taken with
  | nil =>
    rw [List.append_nil]
    exact ⟨h, hmode⟩
  | cons candidate rest ih =>
    obtain ⟨hnext, hnextMode⟩ := h.takeByName hmode
    rw [List.foldl_cons, List.append_cons]
    exact ih hnext hnextMode

theorem foldlM_takeByKey_cons (marked : Bool) (candidate : Candidate) (rest : List Candidate) :
    (candidate :: rest).foldlM (takeByKey identity marked) draft =
      match takeByKey identity marked draft candidate with
      | .error error => .error error
      | .ok next => rest.foldlM (takeByKey identity marked) next := by
  rw [List.foldlM_cons]
  cases takeByKey identity marked draft candidate <;> rfl

theorem Accounts.foldlM_takeByKey {last : Draft} {rest : List Candidate}
    (h : draft.Accounts identity false marked false opening taken)
    (hlast : rest.foldlM (Draft.takeByKey identity marked) draft = .ok last) :
    last.Accounts identity false marked false opening (taken ++ rest) := by
  induction rest generalizing draft taken with
  | nil =>
    rw [← Except.ok.inj hlast, List.append_nil]
    exact h
  | cons candidate rest ih =>
    rw [foldlM_takeByKey_cons] at hlast
    split at hlast
    · simp at hlast
    · rename_i next hnext
      rw [List.append_cons]
      exact ih (h.takeByKey hnext) hlast

/-- Where all candidates are taken, their keys are of the kind that the draft ends with. -/
theorem keyMode_of_foldlM_takeByKey {last : Draft} {rest : List Candidate}
    (hlast : rest.foldlM (takeByKey identity marked) draft = .ok last) :
    (∀ mode, draft.keyMode = some mode → last.keyMode = some mode) ∧
      ∀ candidate ∈ rest, ∀ mode, candidate.keyMode? = some mode → last.keyMode = some mode := by
  induction rest generalizing draft with
  | nil =>
    rw [← Except.ok.inj hlast]
    simp
  | cons candidate rest ih =>
    rw [foldlM_takeByKey_cons] at hlast
    split at hlast
    · simp at hlast
    · rename_i next hnext
      obtain ⟨hmode, hcandidate⟩ := takeByKey_eq_ok hnext
      obtain ⟨hkept, hrest⟩ := ih hlast
      refine ⟨?_, List.forall_mem_cons.mpr ⟨?_, hrest⟩⟩
      · intro mode hdraft
        apply hkept
        rw [hmode, hdraft, Option.some_or]
      · intro mode hsome
        exact hkept mode (hcandidate mode hsome)

theorem exists_mixed_of_foldlM_takeByKey {error : CollectError} {rest : List Candidate}
    (h : rest.foldlM (takeByKey identity marked) draft = .error error) :
    ∃ before offender after expected, rest = before ++ offender :: after ∧
      draft.keyMode.or (before.findSome? keyMode?) = some expected ∧
      (∀ candidate ∈ before, ∀ mode, candidate.keyMode? = some mode → mode = expected) ∧
      (∃ mode, offender.keyMode? = some mode ∧ mode ≠ expected) ∧ error = .mixedKeys identity offender.name expected := by
  induction rest generalizing draft with
  | nil => simp [pure, Except.pure] at h
  | cons candidate rest ih =>
    rw [foldlM_takeByKey_cons] at h
    split at h
    · rename_i cause hcause
      obtain ⟨expected, mode, hexpected, hmode, hne, rfl⟩ := takeByKey_eq_error_iff.mp hcause
      refine ⟨[], candidate, rest, expected, rfl, ?_, by simp, ⟨mode, hmode, hne⟩, (Except.error.inj h).symm⟩
      rw [hexpected, Option.some_or]
    · rename_i next hnext
      obtain ⟨hmode, hcandidate⟩ := takeByKey_eq_ok hnext
      obtain ⟨before, offender, after, expected, rfl, hexpected, hbefore, hoffender, herror⟩ := ih h
      refine ⟨candidate :: before, offender, after, expected, rfl, ?_, ?_, hoffender, herror⟩
      · rw [hmode, Option.or_assoc] at hexpected
        rw [List.findSome?_cons]
        cases hcase : candidate.keyMode? with
        | none => simpa [hcase] using hexpected
        | some mode => simpa [hcase] using hexpected
      · refine List.forall_mem_cons.mpr ⟨?_, hbefore⟩
        intro other hother
        rw [hcandidate other hother, Option.some_or] at hexpected
        exact Option.some.inj hexpected

end Draft

open Candidate

/-- The account that a layout gives of its candidates. Members have keys of one kind: integers that increase, or different names with the ordinals from nought on. Every candidate has one fate; those that are kept are the members, and the others are what the diagnostics are about. The edges lead to the members without a codec of their own. -/
structure AccountsFor (identity : TypeIdentity) (byName marked warns : Bool) (candidates : List Candidate) (layout : Layout) :
    Prop where
  keyMode : ∀ member ∈ layout.members, member.key.mode = layout.keyMode
  integers : layout.keyMode = .integer →
    layout.members.Pairwise fun first second => ∃ key key', first.key = .integer key ∧ second.key = .integer key' ∧ key < key'
  ordinals : layout.keyMode = .text → ∀ (place : Nat) (member : MemberSchema), layout.members[place]? = some member →
    ∃ name, member.key = .text place name
  names : layout.keyMode = .text → layout.members.Pairwise fun first second => first.key.text? ≠ second.key.text?
  complete : (fates byName marked candidates).map (·.1) = candidates
  kept : ∃ drafted, List.Forall₂ (IsKeptAs byName) (kept byName marked candidates) drafted ∧ layout.members.Perm drafted ∧
    (layout.keyMode = .text → layout.members = drafted)
  owners : ∀ before candidate after key owner, candidates = before ++ candidate :: after →
    fateAfter byName marked before candidate = .duplicate key owner →
    ∃ earlier later, before = earlier ++ owner :: later ∧ candidate.askedKey? byName = some key ∧
      owner.askedKey? byName = some key ∧ fateAfter byName marked earlier owner = .kept
  diagnostics : layout.diagnostics = (if marked then [] else [missingObjectAttribute identity]) ++
    (fates byName marked candidates).flatMap (findings identity warns)
  edges : layout.edges.Perm ((layout.members.filter fun member => member.overrideCodec.isNone).map fun member =>
    .ofMember member.sourceName member.declaredType)

namespace Draft

variable {identity : TypeIdentity} {byName marked warns : Bool} {opening : List Diagnostic} {taken : List Candidate}
  {draft : Draft}

theorem arrange_perm (mode : KeyMode) (members : List MemberSchema) : (arrange mode members).Perm members := by
  cases mode with
  | integer => exact List.mergeSort_perm _ _
  | text => exact .refl _

theorem filterMap_edge? (members : List MemberSchema) :
    members.filterMap edge? = (members.filter fun member => member.overrideCodec.isNone).map fun member =>
      .ofMember member.sourceName member.declaredType := by
  rw [← List.filterMap_eq_map, List.filterMap_filter]
  rfl

theorem Accounts.mode_finish (h : draft.Accounts identity byName marked warns opening taken) :
    ∀ member ∈ draft.members, member.key.mode = draft.finish.keyMode := by
  intro member hmem
  rw [finish, h.modes member hmem, Option.getD_some]

/-- Sorting puts different integer keys into strictly increasing order. -/
theorem pairwise_arrange_integer {members : List MemberSchema} (hmode : ∀ member ∈ members, member.key.mode = .integer)
    (hdistinct : (members.map (·.key.value)).Nodup) :
    (arrange .integer members).Pairwise fun first second =>
      ∃ key key', first.key = .integer key ∧ second.key = .integer key' ∧ key < key' := by
  have hkeys : ∀ member ∈ arrange .integer members, ∃ key, member.key = .integer key :=
    fun member hmem => MemberKey.exists_integer_of_mode (hmode member (mem_arrange.mp hmem))
  have hsorted : (arrange .integer members).Pairwise fun first second =>
      decide ((first.key.integer?.getD 0).toInt ≤ (second.key.integer?.getD 0).toInt) = true := by
    apply List.pairwise_mergeSort
    · intro a b c
      simp only [decide_eq_true_eq]
      omega
    · intro a b
      simp only [Bool.or_eq_true, decide_eq_true_eq]
      omega
  have hdistinct' : (arrange .integer members).Pairwise fun first second => first.key.value ≠ second.key.value := by
    rw [← List.pairwise_map]
    exact (((arrange_perm .integer members).map _).nodup_iff).mpr hdistinct
  refine (hsorted.and hdistinct').imp_of_mem ?_
  rintro first second hfirst hsecond ⟨hle, hne⟩
  obtain ⟨key, hkey⟩ := hkeys first hfirst
  obtain ⟨key', hkey'⟩ := hkeys second hsecond
  rw [hkey, hkey', decide_eq_true_eq] at hle
  rw [hkey, hkey'] at hne
  refine ⟨key, key', hkey, hkey', ?_⟩
  have hints : key.toInt ≠ key'.toInt := by
    intro heq
    exact hne (congrArg KeyValue.integer (Int32.toInt_inj.mp heq))
  rw [Int32.lt_iff_toInt_lt]
  simp only [MemberKey.integer?, Option.getD_some] at hle
  omega

theorem Accounts.finish (h : draft.Accounts identity byName marked warns opening taken)
    (hopening : opening = if marked then [] else [missingObjectAttribute identity]) :
    draft.finish.AccountsFor identity byName marked warns taken where
  keyMode member hmem := h.mode_finish member (mem_members_finish.mp hmem)
  integers hinteger := by
    have hmode : draft.keyMode.getD .integer = .integer := hinteger
    simp only [Draft.finish, hmode]
    refine pairwise_arrange_integer ?_ h.distinct
    intro member hmem
    rw [h.mode_finish member hmem, hinteger]
  ordinals htext place member hplace := by
    have hmode : draft.keyMode.getD .integer = .text := htext
    simp only [Draft.finish, hmode, arrange] at hplace
    obtain ⟨ordinal, name, hkey⟩ :=
      MemberKey.exists_text_of_mode ((h.mode_finish member (List.mem_of_getElem? hplace)).trans htext)
    rw [h.ordinals place ordinal member name hplace hkey] at hkey
    exact ⟨name, hkey⟩
  names htext := by
    have hmode : draft.keyMode.getD .integer = .text := htext
    simp only [Draft.finish, hmode, arrange]
    have hdistinct : draft.members.Pairwise fun first second => first.key.value ≠ second.key.value :=
      List.pairwise_map.mp h.distinct
    refine hdistinct.imp_of_mem ?_
    intro first second hfirst _ hne heq
    obtain ⟨ordinal, name, hkey⟩ := MemberKey.exists_text_of_mode ((h.mode_finish first hfirst).trans htext)
    rw [hkey, MemberKey.text?] at heq
    rw [hkey, MemberKey.text?_eq_some_iff.mp heq.symm] at hne
    exact hne rfl
  complete := map_fst_fatesAfter
  kept := by
    refine ⟨draft.members, h.members, arrange_perm _ _, ?_⟩
    intro htext
    have hmode : draft.keyMode.getD .integer = .text := htext
    simp only [Draft.finish, hmode, arrange]
  owners before candidate after key owner _ hfate := by
    obtain ⟨hasked, earlier, later, hsplit, howner, hkept⟩ := duplicate_cases hfate
    exact ⟨earlier, later, hsplit, hasked, howner, hkept⟩
  diagnostics := by
    rw [← hopening]
    exact h.diagnostics
  edges := by
    rw [← filterMap_edge?]
    exact ((arrange_perm _ _).filterMap _).symm

end Draft

/-- Whether members are keyed by their names, as the options or the type itself ask for. -/
def keysByName (options : Options) (attributes : Attributes) : Bool := options.forceMapMode || attributes.object? == some true

variable {options : Options} {identity : TypeIdentity} {attributes : Attributes} {members : Snapshot.Members} {layout : Layout}

theorem accountsFor_of_ok (h : ofMembers options identity attributes members = .ok layout) :
    layout.AccountsFor identity (keysByName options attributes) attributes.object?.isSome (attributes.object? == some true)
      (Candidate.ofMembers members (keysByName options attributes)) := by
  unfold ofMembers at h
  simp only at h
  unfold keysByName
  split at h
  · rename_i hnames
    rw [hnames, ← Except.ok.inj h]
    exact ((Draft.Accounts.start (some .text)).foldl_takeByName rfl _).1.finish rfl
  · rename_i hkeys
    obtain ⟨last, hlast, rfl⟩ := map_eq_ok_iff.mp h
    have hkeys := eq_false_of_ne_true hkeys
    rw [hkeys, (Bool.or_eq_false_iff.mp hkeys).2]
    exact ((Draft.Accounts.start none).foldlM_takeByKey hlast).finish rfl

theorem exists_mixed_of_error {error : CollectError} (h : ofMembers options identity attributes members = .error error) :
    ∃ before offender after expected, Candidate.ofMembers members false = before ++ offender :: after ∧
      IsMixedAt before offender expected ∧ error = .mixedKeys identity offender.name expected := by
  unfold ofMembers at h
  simp only at h
  split at h
  · simp at h
  · cases hlast : (Candidate.ofMembers members false).foldlM (Draft.takeByKey identity attributes.object?.isSome)
        { diagnostics := if attributes.object?.isSome then [] else [missingObjectAttribute identity] } with
    | ok last => simp [hlast, Except.map] at h
    | error cause =>
      rw [hlast] at h
      obtain ⟨before, offender, after, expected, hsplit, hexpected, hbefore, hoffender, rfl⟩ :=
        Draft.exists_mixed_of_foldlM_takeByKey hlast
      rw [Option.none_or] at hexpected
      exact ⟨before, offender, after, expected, hsplit, ⟨hexpected, hbefore, hoffender⟩, (Except.error.inj h).symm⟩

theorem keyMode_of_ok (hkeys : keysByName options attributes = false) (h : ofMembers options identity attributes members = .ok layout) :
    ∀ candidate ∈ Candidate.ofMembers members false, ∀ mode, candidate.keyMode? = some mode → layout.keyMode = mode := by
  unfold ofMembers at h
  simp only at h
  unfold keysByName at hkeys
  rw [hkeys, if_neg Bool.false_ne_true] at h
  obtain ⟨last, hlast, rfl⟩ := map_eq_ok_iff.mp h
  intro candidate hmem mode hmode
  rw [Draft.finish, (Draft.keyMode_of_foldlM_takeByKey hlast).2 candidate hmem mode hmode, Option.getD_some]

/-- A layout by key fails on candidates with keys of both kinds, and on no others. -/
theorem exists_error_iff (hkeys : keysByName options attributes = false) :
    (∃ error, ofMembers options identity attributes members = .error error) ↔
      ∃ first ∈ Candidate.ofMembers members false, ∃ second ∈ Candidate.ofMembers members false,
        first.keyMode? = some .integer ∧ second.keyMode? = some .text := by
  constructor
  · rintro ⟨error, h⟩
    obtain ⟨before, offender, after, expected, hsplit, ⟨hexpected, -, other, hother, hne⟩, -⟩ := exists_mixed_of_error h
    obtain ⟨first, hfirst, hmode⟩ := List.exists_of_findSome?_eq_some hexpected
    rw [hsplit]
    have hfirst' : first ∈ before ++ offender :: after := List.mem_append_left _ hfirst
    have hoffender : offender ∈ before ++ offender :: after := List.mem_append_right _ List.mem_cons_self
    cases expected with
    | integer =>
      cases other with
      | integer => exact absurd rfl hne
      | text => exact ⟨first, hfirst', offender, hoffender, hmode, hother⟩
    | text =>
      cases other with
      | integer => exact ⟨offender, hoffender, first, hfirst', hother, hmode⟩
      | text => exact absurd rfl hne
  · rintro ⟨first, hfirst, second, hsecond, hinteger, htext⟩
    cases h : ofMembers options identity attributes members with
    | error error => exact ⟨error, rfl⟩
    | ok layout =>
      have hmode := keyMode_of_ok hkeys h first hfirst _ hinteger
      rw [keyMode_of_ok hkeys h second hsecond _ htext] at hmode
      exact absurd hmode (by decide)

end Layout

namespace Context

open Candidate Layout

/-- The members, edges and diagnostics of an object are the account of its candidates. Laying out members by key fails just where candidates have keys of both kinds, at the first candidate whose key is of another kind than the first key. -/
theorem layout_accounts (context : Context) (limit : Nat) (type : TypeRef) (declaration : Declaration) :
    (∀ schema edges, context.resolveObject limit type declaration = some (.ok (schema, edges)) →
      ∃ members, context.snapshot.members limit type = some members ∧
        AccountsFor type.identity (keysByName context.options declaration.attributes) declaration.attributes.object?.isSome
          (declaration.attributes.object? == some true)
          (Candidate.ofMembers members (keysByName context.options declaration.attributes))
          ⟨schema.keyMode, schema.members, edges, schema.diagnostics⟩) ∧
      ∀ members, context.snapshot.members limit type = some members →
        keysByName context.options declaration.attributes = false →
        ((∃ error, context.layout limit type declaration = some (.error error)) ↔
          ∃ first ∈ Candidate.ofMembers members false, ∃ second ∈ Candidate.ofMembers members false,
            first.keyMode? = some .integer ∧ second.keyMode? = some .text) ∧
        ∀ error, context.layout limit type declaration = some (.error error) →
          ∃ before offender after expected, Candidate.ofMembers members false = before ++ offender :: after ∧
            IsMixedAt before offender expected ∧ error = .mixedKeys type.identity offender.name expected := by
  constructor
  · intro schema edges h
    obtain ⟨layout, hlayout, hschema, rfl⟩ := layout_of_resolveObject h
    obtain ⟨members, hmembers, hlaid⟩ := ofMembers_of_layout hlayout
    refine ⟨members, hmembers, ?_⟩
    obtain ⟨-, hmode, hschemaMembers, hdiagnostics⟩ := objectOfLayout_eq_ok hschema
    rw [hmode, hschemaMembers, hdiagnostics]
    exact accountsFor_of_ok hlaid
  · intro members hmembers hkeys
    simp only [Context.layout, hmembers, Option.map_some, Option.some.injEq]
    exact ⟨exists_error_iff hkeys, fun error h => exists_mixed_of_error h⟩

def noteType : TypeRef := .named "Demo.Note" []

/-- Two properties have the same key, and one has none. -/
def noteDeclaration : Declaration :=
  { name := "Demo.Note", attributes := [.serializableObject false]
    properties := [
      { name := "Title", type := .named "string" [], attributes := [.key (.integer 1)] },
      { name := "Text", type := .named "string" [], attributes := [.key (.integer 0)] },
      { name := "Hint", type := .named "string" [], attributes := [.key (.integer 1)] },
      { name := "Draft", type := .named "bool" [] }] }

def labelType : TypeRef := .named "Demo.Label" []

def labelDeclaration : Declaration :=
  { name := "Demo.Label", attributes := [.serializableObject false]
    properties := [
      { name := "Number", type := .named "int" [], attributes := [.key (.integer 0)] },
      { name := "Name", type := .named "string" [], attributes := [.key (.text "name")] }] }

def noteContext : Context := { snapshot := ⟨[labelDeclaration, noteDeclaration]⟩, options := {} }

/-- The note is laid out in the order of its keys. The label fails at the name, since its first key is an integer. -/
theorem layout_accounts_note_label :
    (∃ schema edges, noteContext.resolveObject 1 noteType noteDeclaration = some (.ok (schema, edges)) ∧
      schema.members.Pairwise fun first second => ∃ key key', first.key = .integer key ∧ second.key = .integer key' ∧ key < key') ∧
      ∃ offender expected, noteContext.layout 1 labelType labelDeclaration =
        some (.error (.mixedKeys labelType.identity offender expected)) := by
  constructor
  · have hmode : ((noteContext.resolveObject 1 noteType noteDeclaration).bind Except.toOption).map (·.1.keyMode) =
        some .integer := by decide +kernel
    obtain ⟨⟨schema, edges⟩, hresolved, hinteger⟩ := Option.map_eq_some_iff.mp hmode
    have hok := eq_some_ok_of_toOption hresolved
    obtain ⟨members, -, haccounts⟩ := (layout_accounts noteContext 1 noteType noteDeclaration).1 schema edges hok
    exact ⟨schema, edges, hok, haccounts.integers hinteger⟩
  · have hmembers : noteContext.snapshot.members 1 labelType = some (.ofDeclaration labelDeclaration []) := by decide +kernel
    have hmixed : ∃ first ∈ Candidate.ofMembers (.ofDeclaration labelDeclaration []) false,
        ∃ second ∈ Candidate.ofMembers (.ofDeclaration labelDeclaration []) false,
          first.keyMode? = some .integer ∧ second.keyMode? = some .text := by decide +kernel
    obtain ⟨hfails, hoffender⟩ := (layout_accounts noteContext 1 labelType labelDeclaration).2 _ hmembers (by decide +kernel)
    obtain ⟨error, herror⟩ := hfails.mpr hmixed
    obtain ⟨-, offender, -, expected, -, -, rfl⟩ := hoffender error herror
    exact ⟨offender.name, expected, herror⟩

end Context

end SchemaClosure
