import SchemaClosure.Proofs.Closure.Accounting
import SchemaClosure.Proofs.StableSort

/-!
Binding against its specification. A constructor fits when every parameter has a member that answers to it alone, is of its type and can be read back. Of the constructors that fit, the widest is bound, and of the widest the one that is declared first: `bind_cases`.
-/

namespace SchemaClosure.Binding

/-- By integer keys a member answers to the parameter whose position is its key, by text keys to every parameter of its name, ignoring case. -/
def Answers (keyMode : KeyMode) (position : Nat) (parameter : Parameter) (member : MemberSchema) : Prop :=
  match keyMode with
  | .integer => ∃ key, member.key = .integer key ∧ key.toInt = position
  | .text => ∃ ordinal name, member.key = .text ordinal name ∧ Text.eqIgnoringCase name parameter.name = true

def AnswersAt (members : List MemberSchema) (keyMode : KeyMode) (position : Nat) (parameter : Parameter) (place : Nat) : Prop :=
  ∃ member, members[place]? = some member ∧ Answers keyMode position parameter member

/-- The member at a place, and no other, answers to a parameter. -/
def IsBoundAt (members : List MemberSchema) (keyMode : KeyMode) (position : Nat) (parameter : Parameter) (place : Nat) : Prop :=
  AnswersAt members keyMode position parameter place ∧
    ∀ other, AnswersAt members keyMode position parameter other → other = place

/-- The member that answers to a parameter has the type of the parameter and can be read back. -/
def FitsAt (members : List MemberSchema) (keyMode : KeyMode) (position : Nat) (parameter : Parameter) (place : Nat) : Prop :=
  IsBoundAt members keyMode position parameter place ∧
    ∃ member, members[place]? = some member ∧ member.declaredType.identity = parameter.type.identity ∧ member.isReadable = true

/-- Why no member fits a parameter. -/
inductive IsMismatched (members : List MemberSchema) (keyMode : KeyMode) (position : Nat) (parameter : Parameter) :
    ParameterMismatch → Prop
  | missingMember (hnone : ∀ place, ¬AnswersAt members keyMode position parameter place) :
      IsMismatched members keyMode position parameter .missingMember
  | ambiguousName {place other : Nat} (hplace : AnswersAt members keyMode position parameter place)
      (hother : AnswersAt members keyMode position parameter other) (hne : place ≠ other) :
      IsMismatched members keyMode position parameter .ambiguousName
  | typeMismatch {place : Nat} {member : MemberSchema} (hbound : IsBoundAt members keyMode position parameter place)
      (hmember : members[place]? = some member) (htype : member.declaredType.identity ≠ parameter.type.identity) :
      IsMismatched members keyMode position parameter .typeMismatch
  | notReadable {place : Nat} {member : MemberSchema} (hbound : IsBoundAt members keyMode position parameter place)
      (hmember : members[place]? = some member) (htype : member.declaredType.identity = parameter.type.identity)
      (hreadable : member.isReadable = false) : IsMismatched members keyMode position parameter .notReadable

/-- A binding has one place for each parameter, and the member there fits the parameter. -/
def Fits (members : List MemberSchema) (keyMode : KeyMode) (constructor : Constructor) (binding : List Nat) : Prop :=
  List.Forall₂ (fun (parameter, position) place => FitsAt members keyMode position parameter place) constructor.parameters.zipIdx
    binding

def IsFitting (members : List MemberSchema) (keyMode : KeyMode) (constructor : Constructor) : Prop :=
  ∃ binding, Fits members keyMode constructor binding

/-- The first parameter that no member fits has the given name, and the mismatch says why. -/
def IsFirstMismatch (members : List MemberSchema) (keyMode : KeyMode) (constructor : Constructor) (name : String)
    (mismatch : ParameterMismatch) : Prop :=
  ∃ before parameter after, constructor.parameters = before ++ parameter :: after ∧ parameter.name = name ∧
    (∀ earlier ∈ before.zipIdx, ∃ place, FitsAt members keyMode earlier.2 earlier.1 place) ∧
    IsMismatched members keyMode before.length parameter mismatch

/-- The constructors that codecs see. -/
def accessible (constructors : List Constructor) : List Constructor := constructors.filter (·.accessibility.isVisible)

/-- The constructor is the widest that fits, and the first of the widest. -/
def IsWidest (members : List MemberSchema) (keyMode : KeyMode) (constructors : List Constructor) (constructor : Constructor) : Prop :=
  IsFitting members keyMode constructor ∧ ∃ before after, constructors = before ++ constructor :: after ∧
    (∀ earlier ∈ before, IsFitting members keyMode earlier → earlier.parameters.length < constructor.parameters.length) ∧
    ∀ later ∈ after, IsFitting members keyMode later → later.parameters.length ≤ constructor.parameters.length

/-- No two members have one integer key. -/
def HasDistinctKeys (members : List MemberSchema) : Prop :=
  members.Pairwise fun first second => ∀ key, first.key = .integer key → second.key ≠ .integer key

variable {members : List MemberSchema} {keyMode : KeyMode} {position place : Nat} {parameter : Parameter}

theorem answersAt_integer_iff :
    AnswersAt members .integer position parameter place ↔
      ∃ member, members[place]? = some member ∧ member.key.integer?.any (fun key => key.toInt == (position : Int)) = true := by
  apply exists_congr
  intro member
  cases hkey : member.key <;> simp [Answers, hkey, MemberKey.integer?]

theorem answersAt_text_iff :
    AnswersAt members .text position parameter place ↔
      ∃ member, members[place]? = some member ∧
        member.key.text?.any (fun key => Text.eqIgnoringCase key parameter.name) = true := by
  apply exists_congr
  intro member
  cases hkey : member.key <;> simp [Answers, hkey, MemberKey.text?]

theorem HasDistinctKeys.eq_of_answersAt (h : HasDistinctKeys members) {other : Nat}
    (hplace : AnswersAt members .integer position parameter place) (hother : AnswersAt members .integer position parameter other) :
    place = other := by
  obtain ⟨member, hmember, key, hkey, hposition⟩ := hplace
  obtain ⟨member', hmember', key', hkey', hposition'⟩ := hother
  have hsame : key = key' := Int32.toInt_inj.mp (hposition.trans hposition'.symm)
  subst hsame
  obtain ⟨hlt, rfl⟩ := List.getElem?_eq_some_iff.mp hmember
  obtain ⟨hlt', rfl⟩ := List.getElem?_eq_some_iff.mp hmember'
  have hdistinct := List.pairwise_iff_getElem.mp h
  by_contra hne
  rcases Nat.lt_or_gt_of_ne hne with hbefore | hbefore
  · exact hdistinct place other hlt hlt' hbefore key hkey hkey'
  · exact hdistinct other place hlt' hlt hbefore key hkey' hkey

/-- The place that a parameter has by its key mode, before types are looked at. -/
def locate (members : List MemberSchema) (keyMode : KeyMode) (position : Nat) (parameter : Parameter) :
    Except ParameterMismatch Nat :=
  match keyMode with
  | .integer => placeOfKey members position
  | .text => placeOfName members parameter.name

/-- What is found out about a parameter before types are looked at. -/
inductive Location (members : List MemberSchema) (keyMode : KeyMode) (position : Nat) (parameter : Parameter) :
    Except ParameterMismatch Nat → Prop
  | bound {place : Nat} (hbound : IsBoundAt members keyMode position parameter place) :
      Location members keyMode position parameter (.ok place)
  | mismatched {mismatch : ParameterMismatch} (hmismatch : IsMismatched members keyMode position parameter mismatch) :
      Location members keyMode position parameter (.error mismatch)

theorem location_placeOfKey (h : HasDistinctKeys members) : Location members .integer position parameter (placeOfKey members position) := by
  unfold placeOfKey
  split
  · rename_i place hfound
    obtain ⟨hlt, hmatches, -⟩ := List.findIdx?_eq_some_iff_getElem.mp hfound
    have hplace : AnswersAt members .integer position parameter place :=
      answersAt_integer_iff.mpr ⟨members[place], List.getElem?_eq_getElem hlt, hmatches⟩
    exact .bound ⟨hplace, fun other hother => h.eq_of_answersAt hother hplace⟩
  · rename_i hfound
    refine .mismatched (.missingMember ?_)
    intro place hplace
    obtain ⟨member, hmember, hmatches⟩ := answersAt_integer_iff.mp hplace
    rw [List.findIdx?_eq_none_iff.mp hfound member (List.mem_of_getElem? hmember)] at hmatches
    exact Bool.false_ne_true hmatches

theorem location_placeOfName : Location members .text position parameter (placeOfName members parameter.name) := by
  unfold placeOfName
  generalize hmatching : members.zipIdx.filter _ = matching
  have hmem (place : Nat) : place ∈ matching.map (·.2) ↔ AnswersAt members .text position parameter place := by
    rw [answersAt_text_iff, ← hmatching]
    simp only [List.mem_map, List.mem_filter, Prod.exists, exists_eq_right, List.mk_mem_zipIdx_iff_getElem?]
  have hnodup : (matching.map (·.2)).Nodup := by
    have hplaces : (members.zipIdx.map (·.2)).Nodup := by
      rw [List.zipIdx_map_snd]
      exact List.nodup_range' _
    rw [← hmatching]
    exact hplaces.sublist (List.filter_sublist.map _)
  cases matching with
  | nil =>
    refine .mismatched (.missingMember ?_)
    intro place hplace
    exact absurd ((hmem place).mpr hplace) List.not_mem_nil
  | cons first rest =>
    cases rest with
    | nil =>
      refine .bound ⟨(hmem first.2).mp List.mem_cons_self, ?_⟩
      intro other hother
      exact List.mem_singleton.mp ((hmem other).mpr hother)
    | cons second rest =>
      have hne : first.2 ≠ second.2 := (List.pairwise_cons.mp hnodup).1 second.2 List.mem_cons_self
      refine .mismatched (.ambiguousName ((hmem first.2).mp List.mem_cons_self) ((hmem second.2).mp ?_) hne)
      exact List.mem_cons_of_mem _ List.mem_cons_self

theorem location_locate (h : HasDistinctKeys members) :
    Location members keyMode position parameter (locate members keyMode position parameter) := by
  cases keyMode with
  | integer => exact location_placeOfKey h
  | text => exact location_placeOfName

theorem placeOf_eq : placeOf members keyMode position parameter =
    (locate members keyMode position parameter).bind fun place =>
      match members[place]? with
      | none => .error .missingMember
      | some member =>
        if member.declaredType.identity ≠ parameter.type.identity then .error .typeMismatch
        else if !member.isReadable then .error .notReadable
        else .ok place := by
  cases keyMode <;> rfl

/-- The place that is found for a parameter fits it; where none is found, there is the mismatch. -/
theorem placeOf_cases (h : HasDistinctKeys members) :
    (∃ place, placeOf members keyMode position parameter = .ok place ∧ FitsAt members keyMode position parameter place) ∨
      ∃ mismatch, placeOf members keyMode position parameter = .error mismatch ∧
        IsMismatched members keyMode position parameter mismatch := by
  have hlocation : Location members keyMode position parameter (locate members keyMode position parameter) := location_locate h
  rw [placeOf_eq]
  cases hfound : locate members keyMode position parameter with
  | error mismatch =>
    rw [hfound] at hlocation
    cases hlocation with
    | mismatched hmismatch => exact Or.inr ⟨mismatch, rfl, hmismatch⟩
  | ok place =>
    rw [hfound] at hlocation
    cases hlocation with
    | bound hbound =>
      obtain ⟨member, hmember, -⟩ := hbound.1
      simp only [Except.bind, hmember]
      by_cases htype : member.declaredType.identity = parameter.type.identity
      · cases hreadable : member.isReadable with
        | true => exact Or.inl ⟨place, by simp [htype], hbound, member, hmember, htype, hreadable⟩
        | false => exact Or.inr ⟨.notReadable, by simp [htype], .notReadable hbound hmember htype hreadable⟩
      · exact Or.inr ⟨.typeMismatch, by simp [htype], .typeMismatch hbound hmember htype⟩

theorem FitsAt.unique {other : Nat} (h : FitsAt members keyMode position parameter place)
    (h' : FitsAt members keyMode position parameter other) : place = other := h'.1.2 place h.1.1

theorem FitsAt.not_isMismatched {mismatch : ParameterMismatch} (h : FitsAt members keyMode position parameter place) :
    ¬IsMismatched members keyMode position parameter mismatch := by
  obtain ⟨hbound, member, hmember, htype, hreadable⟩ := h
  intro hmismatch
  cases hmismatch with
  | missingMember hnone => exact hnone place hbound.1
  | ambiguousName hfirst hsecond hne => exact hne ((hbound.2 _ hfirst).trans (hbound.2 _ hsecond).symm)
  | typeMismatch hbound' hmember' htype' =>
    rw [hbound.2 _ hbound'.1, hmember] at hmember'
    exact htype' (Option.some.inj hmember' ▸ htype)
  | notReadable hbound' hmember' htype' hreadable' =>
    rw [hbound.2 _ hbound'.1, hmember] at hmember'
    rw [← Option.some.inj hmember', hreadable] at hreadable'
    exact Bool.false_ne_true hreadable'.symm

theorem IsMismatched.unique {mismatch mismatch' : ParameterMismatch} (h : IsMismatched members keyMode position parameter mismatch)
    (h' : IsMismatched members keyMode position parameter mismatch') : mismatch = mismatch' := by
  cases h with
  | missingMember hnone =>
    cases h' with
    | missingMember hnone' => rfl
    | ambiguousName hplace hother hne => exact absurd hplace (hnone _)
    | typeMismatch hbound hmember htype => exact absurd hbound.1 (hnone _)
    | notReadable hbound hmember htype hreadable => exact absurd hbound.1 (hnone _)
  | ambiguousName hplace hother hne =>
    cases h' with
    | missingMember hnone => exact absurd hplace (hnone _)
    | ambiguousName hplace' hother' hne' => rfl
    | typeMismatch hbound hmember htype => exact absurd ((hbound.2 _ hplace).trans (hbound.2 _ hother).symm) hne
    | notReadable hbound hmember htype hreadable => exact absurd ((hbound.2 _ hplace).trans (hbound.2 _ hother).symm) hne
  | typeMismatch hbound hmember htype =>
    cases h' with
    | missingMember hnone => exact absurd hbound.1 (hnone _)
    | ambiguousName hplace hother hne => exact absurd ((hbound.2 _ hplace).trans (hbound.2 _ hother).symm) hne
    | typeMismatch hbound' hmember' htype' => rfl
    | notReadable hbound' hmember' htype' hreadable' =>
      rw [hbound'.2 _ hbound.1, hmember'] at hmember
      exact absurd (Option.some.inj hmember ▸ htype') htype
  | notReadable hbound hmember htype hreadable =>
    cases h' with
    | missingMember hnone => exact absurd hbound.1 (hnone _)
    | ambiguousName hplace hother hne => exact absurd ((hbound.2 _ hplace).trans (hbound.2 _ hother).symm) hne
    | typeMismatch hbound' hmember' htype' =>
      rw [hbound.2 _ hbound'.1, hmember] at hmember'
      exact absurd (Option.some.inj hmember' ▸ htype) htype'
    | notReadable hbound' hmember' htype' hreadable' => rfl

theorem placeOf_eq_ok_iff (h : HasDistinctKeys members) :
    placeOf members keyMode position parameter = .ok place ↔ FitsAt members keyMode position parameter place := by
  rcases placeOf_cases h with ⟨found, hfound, hfits⟩ | ⟨mismatch, hfound, hmismatch⟩
  · rw [hfound, Except.ok.injEq]
    constructor
    · rintro rfl
      exact hfits
    · exact hfits.unique
  · rw [hfound]
    simp only [reduceCtorEq, false_iff]
    intro hplace
    exact hplace.not_isMismatched hmismatch

theorem placeOf_eq_error_iff (h : HasDistinctKeys members) {mismatch : ParameterMismatch} :
    placeOf members keyMode position parameter = .error mismatch ↔ IsMismatched members keyMode position parameter mismatch := by
  rcases placeOf_cases h with ⟨found, hfound, hfits⟩ | ⟨found, hfound, hmismatch⟩
  · rw [hfound]
    simp only [reduceCtorEq, false_iff]
    exact hfits.not_isMismatched
  · rw [hfound, Except.error.injEq]
    constructor
    · rintro rfl
      exact hmismatch
    · exact hmismatch.unique

/-! Parameters are placed from left to right, so the first one without a place is the one that is told. -/

theorem placesFrom_eq_ok_iff (h : HasDistinctKeys members) {parameters : List Parameter} {binding : List Nat} :
    placesFrom members keyMode position parameters = .ok binding ↔
      List.Forall₂ (fun (parameter, position) place => FitsAt members keyMode position parameter place)
        (parameters.zipIdx position) binding := by
  induction parameters generalizing position binding with
  | nil => simp [placesFrom, eq_comm]
  | cons parameter rest ih =>
    rw [placesFrom, List.zipIdx_cons, List.forall₂_cons_left_iff]
    constructor
    · intro hplaces
      split at hplaces
      · simp at hplaces
      · rename_i place hplace
        obtain ⟨places, hrest, rfl⟩ := map_eq_ok_iff.mp hplaces
        exact ⟨place, places, (placeOf_eq_ok_iff h).mp hplace, ih.mp hrest, rfl⟩
    · rintro ⟨place, places, hplace, hrest, rfl⟩
      rw [(placeOf_eq_ok_iff h).mpr hplace]
      exact map_eq_ok_iff.mpr ⟨places, ih.mpr hrest, rfl⟩

theorem placesFrom_eq_error_iff (h : HasDistinctKeys members) {parameters : List Parameter} {name : String}
    {mismatch : ParameterMismatch} :
    placesFrom members keyMode position parameters = .error (name, mismatch) ↔
      ∃ before parameter after, parameters = before ++ parameter :: after ∧ parameter.name = name ∧
        (∀ earlier ∈ before.zipIdx position, ∃ place, FitsAt members keyMode earlier.2 earlier.1 place) ∧
        IsMismatched members keyMode (position + before.length) parameter mismatch := by
  induction parameters generalizing position with
  | nil => simp [placesFrom]
  | cons parameter rest ih =>
    rw [placesFrom]
    constructor
    · intro hplaces
      split at hplaces
      · rename_i found hfound
        obtain ⟨rfl, rfl⟩ := Prod.mk.inj (Except.error.inj hplaces)
        exact ⟨[], parameter, rest, rfl, rfl, by simp, (placeOf_eq_error_iff h).mp hfound⟩
      · rename_i place hplace
        cases hrest : placesFrom members keyMode (position + 1) rest with
        | ok places => simp [hrest, Except.map] at hplaces
        | error error =>
          rw [hrest] at hplaces
          rw [Except.error.inj hplaces] at hrest
          obtain ⟨before, parameter', after, rfl, hname, hbefore, hmismatch⟩ := ih.mp hrest
          refine ⟨parameter :: before, parameter', after, rfl, hname, ?_, ?_⟩
          · rw [List.zipIdx_cons]
            exact List.forall_mem_cons.mpr ⟨⟨place, (placeOf_eq_ok_iff h).mp hplace⟩, hbefore⟩
          · rwa [List.length_cons, Nat.add_comm before.length, ← Nat.add_assoc]
    · rintro ⟨before, parameter', after, hsplit, hname, hbefore, hmismatch⟩
      cases before with
      | nil =>
        obtain ⟨rfl, rfl⟩ := List.cons.inj hsplit
        have hfound := (placeOf_eq_error_iff h).mpr hmismatch
        rw [List.length_nil, Nat.add_zero] at hfound
        rw [hfound, hname]
      | cons first before =>
        obtain ⟨rfl, rfl⟩ := List.cons.inj hsplit
        rw [List.zipIdx_cons] at hbefore
        obtain ⟨⟨place, hplace⟩, hbefore⟩ := List.forall_mem_cons.mp hbefore
        rw [List.length_cons, Nat.add_comm before.length, ← Nat.add_assoc] at hmismatch
        rw [(placeOf_eq_ok_iff h).mpr hplace, ih.mpr ⟨before, parameter', after, rfl, hname, hbefore, hmismatch⟩]
        rfl

variable {constructor : Constructor} {constructors : List Constructor} {binding : List Nat}

theorem places_eq_ok_iff (h : HasDistinctKeys members) :
    places members keyMode constructor = .ok binding ↔ Fits members keyMode constructor binding :=
  placesFrom_eq_ok_iff h

theorem places_eq_error_iff (h : HasDistinctKeys members) {name : String} {mismatch : ParameterMismatch} :
    places members keyMode constructor = .error (name, mismatch) ↔ IsFirstMismatch members keyMode constructor name mismatch := by
  rw [places, placesFrom_eq_error_iff h]
  simp only [Nat.zero_add, IsFirstMismatch]

theorem toOption_places_eq_some_iff (h : HasDistinctKeys members) :
    (places members keyMode constructor).toOption = some binding ↔ Fits members keyMode constructor binding := by
  rw [← places_eq_ok_iff h]
  cases places members keyMode constructor <;> simp [Except.toOption]

theorem toOption_places_eq_none_iff (h : HasDistinctKeys members) :
    (places members keyMode constructor).toOption = none ↔ ¬IsFitting members keyMode constructor := by
  rw [← Option.not_isSome_iff_eq_none, Option.isSome_iff_exists]
  exact not_congr (exists_congr fun binding => toOption_places_eq_some_iff h)

/-! Sorting by width is stable, so of the widest constructors the one that is declared first comes first. -/

theorem isWider_trans (a b c : Constructor) (hab : decide (b.parameters.length ≤ a.parameters.length) = true)
    (hbc : decide (c.parameters.length ≤ b.parameters.length) = true) :
    decide (c.parameters.length ≤ a.parameters.length) = true := by
  simp only [decide_eq_true_eq] at hab hbc ⊢
  omega

theorem isWider_total (a b : Constructor) :
    (decide (b.parameters.length ≤ a.parameters.length) || decide (a.parameters.length ≤ b.parameters.length)) = true := by
  simp only [Bool.or_eq_true, decide_eq_true_eq]
  omega

theorem widestFirst_pairwise (constructors : List Constructor) :
    (widestFirst constructors).Pairwise fun first second => second.parameters.length ≤ first.parameters.length := by
  have hsorted : (widestFirst constructors).Pairwise fun first second =>
      decide (second.parameters.length ≤ first.parameters.length) = true :=
    List.pairwise_mergeSort isWider_trans isWider_total constructors
  exact hsorted.imp of_decide_eq_true

theorem filter_widestFirst (constructors : List Constructor) (width : Nat) :
    (widestFirst constructors).filter (·.parameters.length == width) = constructors.filter (·.parameters.length == width) := by
  apply filter_mergeSort isWider_trans isWider_total
  intro a b hfirst hsecond
  simp [eq_of_beq hfirst, eq_of_beq hsecond]

/-- The first constructor that fits in the order of widths is the widest that fits, and the first of these as declared. -/
theorem isWidest_of_first {before after : List Constructor} (hsorted : widestFirst constructors = before ++ constructor :: after)
    (hfits : IsFitting members keyMode constructor) (hbefore : ∀ earlier ∈ before, ¬IsFitting members keyMode earlier) :
    IsWidest members keyMode constructors constructor := by
  have hpairwise := widestFirst_pairwise constructors
  rw [hsorted] at hpairwise
  have hwidest : ∀ other ∈ constructors, IsFitting members keyMode other →
      other.parameters.length ≤ constructor.parameters.length := by
    intro other hmem hother
    rw [← List.mem_mergeSort, show constructors.mergeSort _ = before ++ constructor :: after from hsorted] at hmem
    rcases List.mem_append.mp hmem with hmem | hmem
    · exact absurd hother (hbefore other hmem)
    · rcases List.mem_cons.mp hmem with rfl | hmem
      · exact Nat.le_refl _
      · exact List.rel_of_pairwise_cons (List.pairwise_append.mp hpairwise).2.1 hmem
  have hfilter := filter_widestFirst constructors constructor.parameters.length
  rw [hsorted, List.filter_append, List.filter_cons, if_pos (beq_self_eq_true _), eq_comm, List.filter_eq_append_iff] at hfilter
  obtain ⟨front, back, rfl, hfront, hback⟩ := hfilter
  obtain ⟨front', after', rfl, hfront', -, -⟩ := List.filter_eq_cons_iff.mp hback
  refine ⟨hfits, front ++ front', after', by simp, ?_, ?_⟩
  · intro earlier hmem hearlier
    have hle := hwidest earlier (by rw [← List.append_assoc]; exact List.mem_append_left _ hmem) hearlier
    refine Nat.lt_of_le_of_ne hle ?_
    intro hsame
    rcases List.mem_append.mp hmem with hmem | hmem
    · have hsorted' : earlier ∈ before.filter (·.parameters.length == constructor.parameters.length) := by
        rw [← hfront]
        exact List.mem_filter.mpr ⟨hmem, beq_iff_eq.mpr hsame⟩
      exact hbefore earlier (List.mem_filter.mp hsorted').1 hearlier
    · exact hfront' earlier hmem (beq_iff_eq.mpr hsame)
  · intro later hmem
    exact hwidest later (by simp [hmem])

/-- The widest constructor that fits, and is the first of these, is one. -/
theorem IsWidest.unique {other : Constructor} (h : IsWidest members keyMode constructors constructor)
    (h' : IsWidest members keyMode constructors other) : constructor = other := by
  obtain ⟨hfits, before, after, rfl, hbefore, hafter⟩ := h
  obtain ⟨hfits', before', after', hsplit, hbefore', hafter'⟩ := h'
  rcases List.append_eq_append_iff.mp hsplit with ⟨between, rfl, hrest⟩ | ⟨between, rfl, hrest⟩
  · cases between with
    | nil => exact (List.cons.inj hrest).1
    | cons first between =>
      obtain ⟨rfl, rfl⟩ := List.cons.inj hrest
      have hlt := hbefore' constructor (by simp) hfits
      have hle := hafter other (by simp) hfits'
      omega
  · cases between with
    | nil => exact (List.cons.inj hrest).1.symm
    | cons first between =>
      obtain ⟨rfl, rfl⟩ := List.cons.inj hrest
      have hlt := hbefore other (by simp) hfits'
      have hle := hafter' constructor (by simp) hfits
      omega

theorem findSome?_widestFirst_eq_some_iff (h : HasDistinctKeys members) :
    ((widestFirst constructors).findSome? fun constructor => (places members keyMode constructor).toOption) = some binding ↔
      ∃ constructor, IsWidest members keyMode constructors constructor ∧ Fits members keyMode constructor binding := by
  have hchosen {binding : List Nat} (hfound : ((widestFirst constructors).findSome? fun constructor =>
      (places members keyMode constructor).toOption) = some binding) :
      ∃ constructor, IsWidest members keyMode constructors constructor ∧ Fits members keyMode constructor binding := by
    obtain ⟨before, constructor, after, hsorted, hplaces, hbefore⟩ := List.findSome?_eq_some_iff.mp hfound
    have hfits := (toOption_places_eq_some_iff h).mp hplaces
    refine ⟨constructor, isWidest_of_first hsorted ⟨binding, hfits⟩ ?_, hfits⟩
    intro earlier hmem
    exact (toOption_places_eq_none_iff h).mp (hbefore earlier hmem)
  constructor
  · exact hchosen
  · rintro ⟨constructor, hwidest, hfits⟩
    cases hfound : (widestFirst constructors).findSome? fun constructor => (places members keyMode constructor).toOption with
    | none =>
      obtain ⟨-, before, after, rfl, -, -⟩ := hwidest
      have hmem : constructor ∈ widestFirst (before ++ constructor :: after) := List.mem_mergeSort.mpr (by simp)
      have hnone := (toOption_places_eq_none_iff h).mp (List.findSome?_eq_none_iff.mp hfound constructor hmem)
      exact absurd ⟨binding, hfits⟩ hnone
    | some found =>
      obtain ⟨constructor', hwidest', hfits'⟩ := hchosen hfound
      rw [← hwidest.unique hwidest'] at hfits'
      have hsame := (places_eq_ok_iff h).mpr hfits
      rw [(places_eq_ok_iff h).mpr hfits'] at hsame
      rw [Except.ok.inj hsame]

theorem Fits.length_eq (h : Fits members keyMode constructor binding) : binding.length = constructor.parameters.length := by
  rw [← List.Forall₂.length_eq h, List.length_zipIdx]

theorem Fits.fitsAt (h : Fits members keyMode constructor binding) (hplace : binding[position]? = some place) :
    ∃ parameter, constructor.parameters[position]? = some parameter ∧ FitsAt members keyMode position parameter place := by
  obtain ⟨hlt, rfl⟩ := List.getElem?_eq_some_iff.mp hplace
  have hlt' : position < constructor.parameters.length := h.length_eq ▸ hlt
  have hfits := (List.forall₂_iff_get.mp h).2 position (by rwa [List.length_zipIdx]) hlt
  simp only [List.get_eq_getElem, List.getElem_zipIdx, Nat.zero_add] at hfits
  exact ⟨_, List.getElem?_eq_getElem hlt', hfits⟩

theorem Fits.lt_length (h : Fits members keyMode constructor binding) : ∀ place ∈ binding, place < members.length := by
  intro place hmem
  obtain ⟨position, hplace⟩ := List.mem_iff_getElem?.mp hmem
  obtain ⟨parameter, -, ⟨⟨member, hmember, -⟩, -⟩, -⟩ := h.fitsAt hplace
  exact (List.getElem?_eq_some_iff.mp hmember).1

/-- By integer keys different parameters have different members. -/
theorem Fits.nodup (h : Fits members .integer constructor binding) : binding.Nodup := by
  refine List.pairwise_iff_getElem.mpr ?_
  intro position other hlt hlt' hbefore heq
  obtain ⟨-, -, ⟨⟨member, hmember, key, hkey, hposition⟩, -⟩, -⟩ := h.fitsAt (List.getElem?_eq_getElem hlt)
  obtain ⟨-, -, ⟨⟨member', hmember', key', hkey', hother⟩, -⟩, -⟩ := h.fitsAt (List.getElem?_eq_getElem hlt')
  rw [heq, hmember'] at hmember
  rw [Option.some.inj hmember, hkey] at hkey'
  rw [← MemberKey.integer.inj hkey', hposition] at hother
  omega

theorem IsWidest.mem (h : IsWidest members keyMode constructors constructor) : constructor ∈ constructors := by
  obtain ⟨-, before, after, rfl, -, -⟩ := h
  exact List.mem_append_right before List.mem_cons_self

theorem hasDistinctKeys_of_layout {options : Options} {identity : TypeIdentity} {attributes : Attributes}
    {held : Snapshot.Members} {layout : Layout} (h : Layout.ofMembers options identity attributes held = .ok layout) :
    HasDistinctKeys layout.members := by
  have haccounts := Layout.accountsFor_of_ok h
  cases hmode : layout.keyMode with
  | integer =>
    refine (haccounts.integers hmode).imp ?_
    rintro first second ⟨key, key', hfirst, hsecond, hlt⟩ shared hshared hshared'
    rw [hfirst] at hshared
    rw [hsecond, ← MemberKey.integer.inj hshared] at hshared'
    rw [MemberKey.integer.inj hshared'] at hlt
    exact absurd hlt Int32.lt_irrefl
  | text =>
    refine List.pairwise_of_forall_mem_list ?_
    intro first hfirst second _ key hkey
    have hfirstMode := haccounts.keyMode first hfirst
    rw [hkey, hmode] at hfirstMode
    cases hfirstMode

theorem bind_eq (isReferenceType : Bool) : bind constructors members keyMode isReferenceType =
    match (accessible constructors).filter Constructor.isDesignated with
    | [designated] =>
      match places members keyMode designated with
      | .ok binding => .ok (some binding)
      | .error (parameter, mismatch) => .error (.designatedParameter parameter mismatch)
    | _ :: _ :: _ => .error .ambiguousDesignation
    | [] =>
      if (accessible constructors).isEmpty then (if isReferenceType then .error .noAccessibleConstructor else .ok none)
      else
        match (widestFirst (accessible constructors)).findSome? fun constructor =>
          (places members keyMode constructor).toOption with
        | some binding => .ok (some binding)
        | none => .error .noMatch := rfl

/-- Without a designated constructor the widest that fits is bound. -/
theorem bind_undesignated (h : HasDistinctKeys members) (hnone : (accessible constructors).filter Constructor.isDesignated = [])
    (isReferenceType : Bool) :
    ((∃ constructor ∈ accessible constructors, IsFitting members keyMode constructor) →
        ∃ binding, bind constructors members keyMode isReferenceType = .ok (some binding)) ∧
      (∀ binding, bind constructors members keyMode isReferenceType = .ok (some binding) ↔
        ∃ constructor, IsWidest members keyMode (accessible constructors) constructor ∧ Fits members keyMode constructor binding) ∧
      (bind constructors members keyMode isReferenceType = .error .noMatch ↔
        accessible constructors ≠ [] ∧ ∀ constructor ∈ accessible constructors, ¬IsFitting members keyMode constructor) ∧
      (bind constructors members keyMode isReferenceType = .error .noAccessibleConstructor ↔
        accessible constructors = [] ∧ isReferenceType = true) ∧
      (bind constructors members keyMode isReferenceType = .ok none ↔ accessible constructors = [] ∧ isReferenceType = false) := by
  rw [bind_eq, hnone]
  simp only
  by_cases hempty : accessible constructors = []
  · simp only [hempty, List.isEmpty_nil, if_true]
    have hnowhere (constructor : Constructor) : ¬IsWidest members keyMode [] constructor := fun h => List.not_mem_nil h.mem
    cases isReferenceType <;> simp [hnowhere]
  · rw [if_neg (by simpa using hempty)]
    simp only [← findSome?_widestFirst_eq_some_iff h]
    cases hfound : (widestFirst (accessible constructors)).findSome? fun constructor =>
        (places members keyMode constructor).toOption with
    | some binding =>
      obtain ⟨constructor, hmem, hplaces⟩ := List.exists_of_findSome?_eq_some hfound
      have hfits : ∃ constructor ∈ accessible constructors, IsFitting members keyMode constructor :=
        ⟨constructor, List.mem_mergeSort.mp hmem, binding, (toOption_places_eq_some_iff h).mp hplaces⟩
      simp [hempty, hfits]
    | none =>
      have hnofit : ∀ constructor ∈ accessible constructors, ¬IsFitting members keyMode constructor := fun constructor hmem =>
        (toOption_places_eq_none_iff h).mp (List.findSome?_eq_none_iff.mp hfound constructor (List.mem_mergeSort.mpr hmem))
      simpa [hempty] using hnofit

/-- The only designated constructor is bound, or its first mismatch is told. -/
theorem bind_designated {designated : Constructor} (h : HasDistinctKeys members)
    (hone : (accessible constructors).filter Constructor.isDesignated = [designated]) (isReferenceType : Bool) :
    (∀ binding, bind constructors members keyMode isReferenceType = .ok (some binding) ↔ Fits members keyMode designated binding) ∧
      ∀ name mismatch, bind constructors members keyMode isReferenceType = .error (.designatedParameter name mismatch) ↔
        IsFirstMismatch members keyMode designated name mismatch := by
  rw [bind_eq, hone]
  simp only [← places_eq_ok_iff h, ← places_eq_error_iff h]
  cases places members keyMode designated with
  | ok binding => simp
  | error failure => simp [Prod.ext_iff]

theorem bind_ambiguous (hseveral : 1 < ((accessible constructors).filter Constructor.isDesignated).length) (isReferenceType : Bool) :
    bind constructors members keyMode isReferenceType = .error .ambiguousDesignation := by
  rw [bind_eq]
  match hdesignated : (accessible constructors).filter Constructor.isDesignated with
  | [] => simp [hdesignated] at hseveral
  | [designated] => simp [hdesignated] at hseveral
  | first :: second :: rest => rfl

/-- A binding is that of an accessible constructor. -/
theorem fits_of_bind (h : HasDistinctKeys members) {isReferenceType : Bool}
    (hbinding : bind constructors members keyMode isReferenceType = .ok (some binding)) :
    ∃ constructor ∈ accessible constructors, Fits members keyMode constructor binding := by
  match hdesignated : (accessible constructors).filter Constructor.isDesignated with
  | [] =>
    obtain ⟨constructor, hwidest, hfits⟩ := ((bind_undesignated h hdesignated isReferenceType).2.1 binding).mp hbinding
    exact ⟨constructor, hwidest.mem, hfits⟩
  | [designated] =>
    have hmem : designated ∈ (accessible constructors).filter Constructor.isDesignated := by
      rw [hdesignated]
      exact List.mem_cons_self
    exact ⟨designated, (List.mem_filter.mp hmem).1, ((bind_designated h hdesignated isReferenceType).1 binding).mp hbinding⟩
  | first :: second :: rest =>
    rw [bind_ambiguous (by simp [hdesignated])] at hbinding
    simp at hbinding

/-- Binding on the members of a layout. Without a designated constructor it is the widest constructor that fits, as declared first; with one it is that constructor alone, and with several it fails. -/
theorem bind_cases {options : Options} {identity : TypeIdentity} {attributes : Attributes} {held : Snapshot.Members} {layout : Layout}
    (h : Layout.ofMembers options identity attributes held = .ok layout) (constructors : List Constructor) (keyMode : KeyMode)
    (isReferenceType : Bool) :
    ((accessible constructors).filter Constructor.isDesignated = [] →
      ((∃ constructor ∈ accessible constructors, IsFitting layout.members keyMode constructor) →
        ∃ binding, bind constructors layout.members keyMode isReferenceType = .ok (some binding)) ∧
      (∀ binding, bind constructors layout.members keyMode isReferenceType = .ok (some binding) ↔
        ∃ constructor, IsWidest layout.members keyMode (accessible constructors) constructor ∧
          Fits layout.members keyMode constructor binding) ∧
      (bind constructors layout.members keyMode isReferenceType = .error .noMatch ↔
        accessible constructors ≠ [] ∧ ∀ constructor ∈ accessible constructors, ¬IsFitting layout.members keyMode constructor) ∧
      (bind constructors layout.members keyMode isReferenceType = .error .noAccessibleConstructor ↔
        accessible constructors = [] ∧ isReferenceType = true) ∧
      (bind constructors layout.members keyMode isReferenceType = .ok none ↔
        accessible constructors = [] ∧ isReferenceType = false)) ∧
    (∀ designated, (accessible constructors).filter Constructor.isDesignated = [designated] →
      (∀ binding, bind constructors layout.members keyMode isReferenceType = .ok (some binding) ↔
        Fits layout.members keyMode designated binding) ∧
      (∀ name mismatch, bind constructors layout.members keyMode isReferenceType = .error (.designatedParameter name mismatch) ↔
        IsFirstMismatch layout.members keyMode designated name mismatch) ∧
      ((∃ binding, bind constructors layout.members keyMode isReferenceType = .ok (some binding)) ∨
        ∃ name mismatch, bind constructors layout.members keyMode isReferenceType = .error (.designatedParameter name mismatch))) ∧
    (1 < ((accessible constructors).filter Constructor.isDesignated).length →
      bind constructors layout.members keyMode isReferenceType = .error .ambiguousDesignation) ∧
    ∀ binding, bind constructors layout.members keyMode isReferenceType = .ok (some binding) →
      ∃ constructor ∈ accessible constructors, Fits layout.members keyMode constructor binding ∧
        binding.length = constructor.parameters.length ∧ (∀ place ∈ binding, place < layout.members.length) ∧
        (keyMode = .integer → binding.Nodup) := by
  have hkeys := hasDistinctKeys_of_layout h
  refine ⟨?_, ?_, fun hseveral => bind_ambiguous hseveral isReferenceType, ?_⟩
  · exact fun hnone => bind_undesignated hkeys hnone isReferenceType
  · intro designated hone
    obtain ⟨hbinding, hmismatch⟩ := @bind_designated _ keyMode _ _ hkeys hone isReferenceType
    refine ⟨hbinding, hmismatch, ?_⟩
    simp only [hbinding, hmismatch, ← places_eq_ok_iff hkeys, ← places_eq_error_iff hkeys]
    cases places layout.members keyMode designated with
    | ok binding => exact Or.inl ⟨binding, rfl⟩
    | error failure => exact Or.inr ⟨failure.1, failure.2, rfl⟩
  · intro binding hbinding
    obtain ⟨constructor, hmem, hfits⟩ := fits_of_bind hkeys hbinding
    refine ⟨constructor, hmem, hfits, hfits.length_eq, hfits.lt_length, ?_⟩
    rintro rfl
    exact hfits.nodup

def noteConstructors : List Constructor :=
  [{}, { parameters := [⟨"text", .named "string" []⟩, ⟨"title", .named "string" []⟩] }]

/-- The constructor without parameters fits any note, so a note is bound in any case, and each place that is bound is one of a member. -/
theorem bind_cases_note :
    ∃ layout binding, Layout.ofMembers {} Context.noteType.identity Context.noteDeclaration.attributes
        (.ofDeclaration Context.noteDeclaration []) = .ok layout ∧
      bind noteConstructors layout.members layout.keyMode true = .ok (some binding) ∧
      ∀ place ∈ binding, place < layout.members.length := by
  have hsome : (Layout.ofMembers {} Context.noteType.identity Context.noteDeclaration.attributes
      (.ofDeclaration Context.noteDeclaration [])).toOption.isSome = true := by decide +kernel
  cases hlayout : Layout.ofMembers {} Context.noteType.identity Context.noteDeclaration.attributes
      (.ofDeclaration Context.noteDeclaration []) with
  | error error =>
    rw [hlayout] at hsome
    exact absurd hsome Bool.false_ne_true
  | ok layout =>
    obtain ⟨hundesignated, -, -, hevery⟩ := bind_cases hlayout noteConstructors layout.keyMode true
    have hplain : ∃ constructor ∈ accessible noteConstructors, IsFitting layout.members layout.keyMode constructor :=
      ⟨{}, by decide, [], .nil⟩
    obtain ⟨binding, hbinding⟩ := (hundesignated (by decide)).1 hplain
    obtain ⟨-, -, -, -, hrange, -⟩ := hevery binding hbinding
    exact ⟨layout, binding, rfl, hbinding, hrange⟩

end SchemaClosure.Binding
