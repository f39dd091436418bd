import SchemaClosure.Proofs.Snapshot.Acceptance

/-!
The walk along the bases of a type. In an accepted snapshot the names of bases lead to no cycle; but a base that is a type parameter has no name, and leads wherever the arguments do. So the walk from a type ends just if it meets such bases finitely often: `members_end_iff`.
-/

namespace SchemaClosure

/-- A base that is nothing but a type parameter. -/
def Declaration.hasBareBase (declaration : Declaration) : Bool := declaration.base.any TypeRef.isParameter

theorem Declaration.hasBareBase_eq_false_iff {declaration : Declaration} :
    declaration.hasBareBase = false ↔ ∀ parameter, declaration.base ≠ some (.parameter parameter) := by
  unfold hasBareBase
  cases declaration.base with
  | none => simp
  | some base => cases base <;> simp [TypeRef.isParameter]

namespace Snapshot

/-- Where the walk goes from a type: to the base of its declaration, with the arguments put in. -/
def next? (snapshot : Snapshot) (type : TypeRef) : Option TypeRef :=
  (snapshot.declaration? type).bind fun declaration => declaration.base.map (·.substitute (declaration.bindings type))

/-- Where the walk from a type has got to after some steps, while it lasts. -/
def ancestor? (snapshot : Snapshot) : (steps : Nat) → TypeRef → Option TypeRef
  | 0, type => some type
  | steps + 1, type => (snapshot.next? type).bind (snapshot.ancestor? steps)

/-- From then on the walk meets no base that is a type parameter. -/
def IsRootedAfter (snapshot : Snapshot) (steps : Nat) (type : TypeRef) : Prop :=
  ∀ later ancestor, steps ≤ later → snapshot.ancestor? later type = some ancestor →
    ∀ declaration, snapshot.declaration? ancestor = some declaration → declaration.hasBareBase = false

variable {snapshot : Snapshot} {declarations : List Declaration} {type : TypeRef}

/-- Every level of a lineage is declared. -/
theorem mem_of_mem_lineage {limit : Nat} {levels : List (Declaration × TypeRef.Bindings)} (h : snapshot.lineage limit type = some levels)
    {level : Declaration × TypeRef.Bindings} (hlevel : level ∈ levels) : level.1 ∈ snapshot.declarations := by
  induction limit generalizing type levels with
  | zero => simp [lineage] at h
  | succ limit ih =>
    unfold lineage at h
    split at h
    · rw [← Option.some.inj h] at hlevel
      exact absurd hlevel List.not_mem_nil
    · rename_i declaration hdeclaration
      simp only at h
      split at h
      · rw [← Option.some.inj h] at hlevel
        rw [List.mem_singleton.mp hlevel]
        exact mem_of_declaration? hdeclaration
      · obtain ⟨above, habove, rfl⟩ := Option.map_eq_some_iff.mp h
        rcases List.mem_cons.mp hlevel with rfl | hlevel
        · exact mem_of_declaration? hdeclaration
        · exact ih habove hlevel

theorem ancestor?_add (first second : Nat) (type : TypeRef) :
    snapshot.ancestor? (first + second) type = (snapshot.ancestor? first type).bind (snapshot.ancestor? second) := by
  induction first generalizing type with
  | zero => rw [Nat.zero_add, ancestor?, Option.bind_some]
  | succ first ih =>
    rw [Nat.succ_add, ancestor?, ancestor?, Option.bind_assoc]
    congr 1
    funext base
    exact ih base

/-- A lineage is found within a limit just if the walk takes fewer steps. -/
theorem isSome_lineage_iff {limit : Nat} : (snapshot.lineage limit type).isSome = true ↔ snapshot.ancestor? limit type = none := by
  induction limit generalizing type with
  | zero => simp [lineage, ancestor?]
  | succ limit ih =>
    rw [ancestor?, next?]
    unfold lineage
    cases hdeclaration : snapshot.declaration? type with
    | none => simp
    | some declaration =>
      cases hbase : declaration.base with
      | none => simp [hbase]
      | some base => simp [hbase, ih]

theorem isSome_members_iff {limit : Nat} : (snapshot.members limit type).isSome = true ↔ snapshot.ancestor? limit type = none := by
  rw [members, Option.isSome_map, isSome_lineage_iff]

theorem IsRootedAfter.ancestor {steps : Nat} {ancestor : TypeRef} (h : snapshot.IsRootedAfter steps type)
    (hancestor : snapshot.ancestor? steps type = some ancestor) : snapshot.IsRootedAfter 0 ancestor := by
  intro later above _ habove
  apply h (steps + later) above (Nat.le_add_right steps later)
  rw [ancestor?_add, hancestor, Option.bind_some, habove]

theorem IsRootedAfter.next {base : TypeRef} (h : snapshot.IsRootedAfter 0 type) (hnext : snapshot.next? type = some base) :
    snapshot.IsRootedAfter 0 base := by
  intro later above _ habove
  apply h (later + 1) above (Nat.zero_le _)
  rw [ancestor?, hnext, Option.bind_some, habove]

theorem isRootedAfter_zero (h : ∀ declaration ∈ snapshot.declarations, declaration.hasBareBase = false) (type : TypeRef) :
    snapshot.IsRootedAfter 0 type :=
  fun _ _ _ _ declaration hdeclaration => h declaration (mem_of_declaration? hdeclaration)

/-- While no base is a type parameter, the walk follows the names that the check of a snapshot follows. -/
theorem ancestor?_eq_none_of_basesEnd {fuel : Nat} {seen : List String} {name : String}
    (h : snapshot.basesEnd fuel seen name = true) (hname : type.name? = some name) (hrooted : snapshot.IsRootedAfter 0 type) :
    snapshot.ancestor? (fuel + 1) type = none := by
  induction fuel generalizing seen name type with
  | zero => simp [basesEnd] at h
  | succ fuel ih =>
    rw [ancestor?]
    cases hnext : snapshot.next? type with
    | none => rfl
    | some above =>
      rw [Option.bind_some]
      obtain ⟨declaration, hdeclaration, habove⟩ := Option.bind_eq_some_iff.mp hnext
      obtain ⟨base, hbase, rfl⟩ := Option.map_eq_some_iff.mp habove
      have hbare := Declaration.hasBareBase_eq_false_iff.mp (hrooted 0 type (Nat.le_refl 0) rfl declaration hdeclaration)
      have hsame := name?_substitute (fun parameter heq => hbare parameter (heq ▸ hbase)) (declaration.bindings type)
      cases hbaseName : base.name? with
      | none =>
        rw [hbaseName] at hsame
        simp [ancestor?, next?, declaration?, hsame]
      | some baseName =>
        rw [hbaseName] at hsame
        unfold basesEnd at h
        have hfind : snapshot.find? name = some declaration := by
          rwa [declaration?, hname, Option.bind_some] at hdeclaration
        rw [hfind, Option.bind_some, hbase, Option.bind_some, hbaseName] at h
        simp only [Bool.if_false_left, Bool.and_eq_true] at h
        exact ih h.2 hsame (hrooted.next hnext)

/-- The last bare base is at most as far from the end of the walk as there are declarations, and a bit. -/
theorem ancestor?_eq_none_of_isRootedAfter (h : ofDeclarations declarations = .ok snapshot) {steps : Nat}
    (hrooted : snapshot.IsRootedAfter steps type) : snapshot.ancestor? (steps + (snapshot.size + 3)) type = none := by
  rw [ancestor?_add]
  cases hancestor : snapshot.ancestor? steps type with
  | none => rfl
  | some ancestor =>
    rw [Option.bind_some]
    cases hdeclaration : snapshot.declaration? ancestor with
    | none => simp [ancestor?, next?, hdeclaration]
    | some declaration =>
      have hname : ancestor.name? = some declaration.name := by
        rw [eq_named_of_declaration? hdeclaration]
        rfl
      exact ancestor?_eq_none_of_basesEnd (basesEnd_of_mem h (mem_of_declaration? hdeclaration)) hname (hrooted.ancestor hancestor)

/-- Where no base is a type parameter, every walk in an accepted snapshot comes to an end. -/
theorem isSome_lineage (h : ofDeclarations declarations = .ok snapshot)
    (hbases : ∀ declaration ∈ snapshot.declarations, declaration.hasBareBase = false) (type : TypeRef) :
    (snapshot.lineage (snapshot.size + 3) type).isSome = true := by
  rw [isSome_lineage_iff, ← Nat.zero_add (snapshot.size + 3)]
  exact ancestor?_eq_none_of_isRootedAfter h (isRootedAfter_zero hbases type)

theorem exists_lineage (h : ofDeclarations declarations = .ok snapshot)
    (hbases : ∀ declaration ∈ snapshot.declarations, ∀ parameter, declaration.base ≠ some (.parameter parameter))
    {declaration : Declaration} (hmem : declaration ∈ snapshot.declarations) (arguments : List TypeRef) :
    ∃ limit levels, snapshot.lineage limit (.named declaration.name arguments) = some levels := by
  have hbare : ∀ declaration ∈ snapshot.declarations, declaration.hasBareBase = false :=
    fun declaration hmem => Declaration.hasBareBase_eq_false_iff.mpr (hbases declaration hmem)
  have hend := ancestor?_eq_none_of_basesEnd (basesEnd_of_mem h hmem) rfl (isRootedAfter_zero hbare (.named declaration.name arguments))
  exact ⟨_, Option.isSome_iff_exists.mp (isSome_lineage_iff.mpr hend)⟩

/-- A walk that comes back to a type goes on for ever. -/
theorem ancestor?_ne_none_of_cycle {steps : Nat} (h : snapshot.ancestor? (steps + 1) type = some type) (limit : Nat) :
    snapshot.ancestor? limit type ≠ none := by
  have hround : ∀ rounds, snapshot.ancestor? (rounds * (steps + 1)) type = some type := by
    intro rounds
    induction rounds with
    | zero => rw [Nat.zero_mul, ancestor?]
    | succ rounds ih => rw [Nat.succ_mul, ancestor?_add, ih, Option.bind_some, h]
  intro hend
  have hround := hround limit
  rw [Nat.mul_succ, Nat.add_comm, ancestor?_add, hend] at hround
  simp at hround

/-- The walk from a type ends just if it meets finitely many bases that are type parameters, and soon after the last of them; so all walks end where no base is a type parameter. -/
theorem members_end_iff (h : ofDeclarations declarations = .ok snapshot) :
    (∀ type, (∃ limit, (snapshot.members limit type).isSome = true) ↔ ∃ steps, snapshot.IsRootedAfter steps type) ∧
      (∀ type steps, snapshot.IsRootedAfter steps type → (snapshot.members (steps + (snapshot.size + 3)) type).isSome = true) ∧
      ((∀ declaration ∈ snapshot.declarations, declaration.hasBareBase = false) →
        ∀ type, (snapshot.members (snapshot.size + 3) type).isSome = true) := by
  simp only [isSome_members_iff]
  refine ⟨?_, fun type steps => ancestor?_eq_none_of_isRootedAfter h, ?_⟩
  · intro type
    constructor
    · rintro ⟨limit, hlimit⟩
      refine ⟨limit, ?_⟩
      intro later ancestor hle hancestor
      obtain ⟨more, rfl⟩ := Nat.exists_eq_add_of_le hle
      rw [ancestor?_add, hlimit, Option.bind_none] at hancestor
      simp at hancestor
    · rintro ⟨steps, hrooted⟩
      exact ⟨_, ancestor?_eq_none_of_isRootedAfter h hrooted⟩
  · intro hbases type
    exact isSome_lineage_iff.mp (isSome_lineage h hbases type)

def wrapperDeclaration : Declaration where
  name := "Demo.Wrapper"
  namespaceName := some "Demo"
  parameters := [{ name := "T" }]
  base := some (.named "T" [])

def leafDeclaration : Declaration where
  name := "Demo.Leaf"
  namespaceName := some "Demo"
  base := some (.named "Demo.Wrapper" [.named "int" []])

def nodeDeclaration : Declaration where
  name := "Demo.Node"
  namespaceName := some "Demo"
  base := some (.named "Demo.Wrapper" [.named "Demo.Node" []])

def wrapperSnapshot : Snapshot := ⟨[leafDeclaration, nodeDeclaration, wrapperDeclaration.bindParameters ["T"]]⟩

theorem ofDeclarations_wrapperSnapshot :
    ofDeclarations [leafDeclaration, nodeDeclaration, wrapperDeclaration] = .ok wrapperSnapshot := by
  rw [ofDeclarations_of_sorted (by decide +kernel)]
  rfl

/-- The walk from the leaf leads through the base `T` to a type that is not declared. -/
theorem members_end_leaf :
    wrapperSnapshot.IsRootedAfter 2 (.named "Demo.Leaf" []) ∧
      (wrapperSnapshot.members 8 (.named "Demo.Leaf" [])).isSome = true := by
  have hrooted : wrapperSnapshot.IsRootedAfter 2 (.named "Demo.Leaf" []) := by
    intro later ancestor hle hancestor declaration hdeclaration
    obtain ⟨more, rfl⟩ := Nat.exists_eq_add_of_le hle
    have hint : wrapperSnapshot.ancestor? 2 (.named "Demo.Leaf" []) = some (.named "int" []) := by decide +kernel
    have hundeclared : wrapperSnapshot.declaration? (.named "int" []) = none := by decide +kernel
    rw [ancestor?_add, hint, Option.bind_some] at hancestor
    cases more with
    | zero =>
      obtain rfl := Option.some.inj hancestor
      simp [hundeclared] at hdeclaration
    | succ more => simp [ancestor?, next?, hundeclared] at hancestor
  exact ⟨hrooted, (members_end_iff ofDeclarations_wrapperSnapshot).2.1 _ 2 hrooted⟩

/-- The walk from the node leads through the base `T` back to the node, in a snapshot that is accepted. -/
theorem members_node_eq_none :
    ofDeclarations [leafDeclaration, nodeDeclaration, wrapperDeclaration] = .ok wrapperSnapshot ∧
      ∀ limit, wrapperSnapshot.members limit (.named "Demo.Node" []) = none := by
  have hcycle : wrapperSnapshot.ancestor? 2 (.named "Demo.Node" []) = some (.named "Demo.Node" []) := by decide +kernel
  refine ⟨ofDeclarations_wrapperSnapshot, ?_⟩
  intro limit
  rw [← Option.not_isSome_iff_eq_none, isSome_members_iff]
  exact ancestor?_ne_none_of_cycle hcycle limit

end Snapshot

end SchemaClosure
