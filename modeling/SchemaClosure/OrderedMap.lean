/-!
Finite maps from texts in the order of their keys. The order belongs to the type, so two maps that answer every look-up alike are the same map, however they were built: `ext_find?`. What building does to a look-up is said by `find?_insert`, `find?_insertNew` and `find?_merge`.
-/

namespace SchemaClosure

/-- Entries in strictly increasing order of their keys; texts are ordered by code points. -/
@[ext]
structure OrderedMap (α : Type) where
  entries : List (String × α)
  ordered : entries.Pairwise fun first second => first.1 < second.1

namespace OrderedMap

variable {α : Type}

def empty : OrderedMap α := ⟨[], .nil⟩

instance : Inhabited (OrderedMap α) := ⟨empty⟩

instance [DecidableEq α] : DecidableEq (OrderedMap α) := fun first second =>
  decidable_of_iff (first.entries = second.entries) OrderedMap.ext_iff.symm

def find? (map : OrderedMap α) (key : String) : Option α := map.entries.lookup key

def contains (map : OrderedMap α) (key : String) : Bool := (map.find? key).isSome

def size (map : OrderedMap α) : Nat := map.entries.length

def isEmpty (map : OrderedMap α) : Bool := map.entries.isEmpty

def keys (map : OrderedMap α) : List String := map.entries.map (·.1)

def values (map : OrderedMap α) : List α := map.entries.map (·.2)

/-- Puts an entry at the place its key has among ordered entries, in place of an entry with the same key. -/
def place (key : String) (value : α) : List (String × α) → List (String × α)
  | [] => [(key, value)]
  | entry :: rest =>
    if key < entry.1 then (key, value) :: entry :: rest
    else if key = entry.1 then (key, value) :: rest
    else entry :: place key value rest

theorem mem_place {key : String} {value : α} {entry : String × α} {entries : List (String × α)}
    (h : entry ∈ place key value entries) : entry = (key, value) ∨ entry ∈ entries := by
  induction entries with
  | nil => simpa [place] using h
  | cons head rest ih =>
    unfold place at h
    split at h
    · simpa using h
    · split at h
      · simp only [List.mem_cons] at h ⊢
        exact h.imp_right .inr
      · simp only [List.mem_cons] at h ⊢
        rcases h with rfl | h
        · exact .inr (.inl rfl)
        · exact (ih h).imp_right .inr

theorem lt_of_not_lt_of_ne {first second : String} (hlt : ¬first < second) (hne : first ≠ second) : second < first :=
  Std.lt_of_le_of_ne (String.not_lt.mp hlt) hne.symm

theorem ordered_place (key : String) (value : α) {entries : List (String × α)}
    (h : entries.Pairwise fun first second => first.1 < second.1) :
    (place key value entries).Pairwise fun first second => first.1 < second.1 := by
  induction entries with
  | nil => simp [place]
  | cons head rest ih =>
    obtain ⟨hhead, hrest⟩ := List.pairwise_cons.mp h
    unfold place
    split
    · rename_i hlt
      refine List.pairwise_cons.mpr ⟨fun entry hmem => ?_, h⟩
      rcases List.mem_cons.mp hmem with rfl | hmem
      · exact hlt
      · exact String.lt_trans hlt (hhead entry hmem)
    · split
      · rename_i heq
        subst heq
        exact List.pairwise_cons.mpr ⟨hhead, hrest⟩
      · rename_i hlt hne
        refine List.pairwise_cons.mpr ⟨fun entry hmem => ?_, ih hrest⟩
        rcases mem_place hmem with rfl | hmem
        · exact lt_of_not_lt_of_ne hlt hne
        · exact hhead entry hmem

theorem lookup_cons_eq (head : String × α) (rest : List (String × α)) (key : String) :
    (head :: rest).lookup key = if key = head.1 then some head.2 else rest.lookup key := by
  rw [List.lookup_cons]
  by_cases heq : key = head.1
  · simp [heq]
  · simp [heq, beq_eq_false_iff_ne.mpr heq]

theorem lookup_place (key : String) (value : α) {entries : List (String × α)}
    (h : entries.Pairwise fun first second => first.1 < second.1) (other : String) :
    (place key value entries).lookup other = if other = key then some value else entries.lookup other := by
  induction entries with
  | nil => simp [place, lookup_cons_eq]
  | cons head rest ih =>
    obtain ⟨hhead, hrest⟩ := List.pairwise_cons.mp h
    unfold place
    split
    · exact lookup_cons_eq _ _ _
    · split
      · rename_i heq
        subst heq
        by_cases heq : other = head.1 <;> simp [lookup_cons_eq, heq]
      · rename_i hlt hne
        rw [lookup_cons_eq, lookup_cons_eq, ih hrest]
        by_cases heq : other = head.1
        · simp [heq, Ne.symm hne]
        · simp [heq]

/-- The new value takes the place of an old one under the same key. -/
def insert (map : OrderedMap α) (key : String) (value : α) : OrderedMap α :=
  ⟨place key value map.entries, ordered_place key value map.ordered⟩

/-- An old value under the same key is kept. -/
def insertNew (map : OrderedMap α) (key : String) (value : α) : OrderedMap α :=
  if map.contains key then map else map.insert key value

/-- The entries of both maps; where both have a value, the first map's. -/
def merge (first second : OrderedMap α) : OrderedMap α :=
  second.entries.foldl (fun map entry => map.insertNew entry.1 entry.2) first

def ofList (entries : List (String × α)) : OrderedMap α :=
  entries.foldl (fun map entry => map.insert entry.1 entry.2) empty

theorem find?_empty (key : String) : (empty : OrderedMap α).find? key = none := rfl

theorem find?_insert (map : OrderedMap α) (key : String) (value : α) (other : String) :
    (map.insert key value).find? other = if other = key then some value else map.find? other :=
  lookup_place key value map.ordered other

theorem find?_insertNew (map : OrderedMap α) (key : String) (value : α) (other : String) :
    (map.insertNew key value).find? other = if other = key then some ((map.find? key).getD value) else map.find? other := by
  unfold insertNew contains
  split
  · rename_i h
    obtain ⟨old, hold⟩ := Option.isSome_iff_exists.mp h
    split
    · rename_i heq
      simp [heq, hold]
    · rfl
  · rename_i h
    have hnone : map.find? key = none := by simpa using h
    simp [find?_insert, hnone]

theorem find?_foldl_insertNew (map : OrderedMap α) (entries : List (String × α)) (key : String) :
    (entries.foldl (fun map entry => map.insertNew entry.1 entry.2) map).find? key =
      (map.find? key).or (entries.lookup key) := by
  induction entries generalizing map with
  | nil => simp
  | cons head rest ih =>
    rw [List.foldl_cons, ih, find?_insertNew, lookup_cons_eq]
    by_cases heq : key = head.1
    · subst heq
      cases map.find? head.1 <;> simp
    · simp [heq]

theorem find?_merge (first second : OrderedMap α) (key : String) :
    (first.merge second).find? key = (first.find? key).or (second.find? key) :=
  find?_foldl_insertNew first second.entries key

theorem lookup_eq_none_of_lt {key : String} {entries : List (String × α)} (h : ∀ entry ∈ entries, key < entry.1) :
    entries.lookup key = none := by
  rw [List.lookup_eq_none_iff]
  intro entry hmem
  have hlt := h entry hmem
  simp only [bne_iff_ne, ne_eq]
  rintro rfl
  exact String.lt_irrefl _ hlt

theorem entries_eq_of_lookup_eq {first second : List (String × α)}
    (hfirst : first.Pairwise fun a b => a.1 < b.1) (hsecond : second.Pairwise fun a b => a.1 < b.1)
    (h : ∀ key, first.lookup key = second.lookup key) : first = second := by
  induction first generalizing second with
  | nil =>
    cases second with
    | nil => rfl
    | cons head rest =>
      have hhead := h head.1
      simp [lookup_cons_eq] at hhead
  | cons head rest ih =>
    cases second with
    | nil =>
      have hhead := h head.1
      simp [lookup_cons_eq] at hhead
    | cons head' rest' =>
      obtain ⟨hhead, hrest⟩ := List.pairwise_cons.mp hfirst
      obtain ⟨hhead', hrest'⟩ := List.pairwise_cons.mp hsecond
      have hkey : head.1 = head'.1 := by
        apply Classical.byContradiction
        intro hne
        by_cases hlt : head.1 < head'.1
        · have hnone : rest'.lookup head.1 = none := lookup_eq_none_of_lt fun entry hmem => String.lt_trans hlt (hhead' entry hmem)
          have hfound := h head.1
          simp [lookup_cons_eq, hnone, hne] at hfound
        · have hgt := lt_of_not_lt_of_ne hlt hne
          have hnone : rest.lookup head'.1 = none := lookup_eq_none_of_lt fun entry hmem => String.lt_trans hgt (hhead entry hmem)
          have hfound := h head'.1
          simp [lookup_cons_eq, hnone, Ne.symm hne] at hfound
      have hvalue : head.2 = head'.2 := by
        have hfound := h head.1
        simpa [lookup_cons_eq, hkey] using hfound
      have hpair : head = head' := Prod.ext hkey hvalue
      subst hpair
      congr 1
      refine ih hrest hrest' fun key => ?_
      by_cases heq : key = head.1
      · subst heq
        rw [lookup_eq_none_of_lt hhead, lookup_eq_none_of_lt hhead']
      · have hfound := h key
        simpa [lookup_cons_eq, heq] using hfound

/-- A map is determined by its look-ups. -/
theorem ext_find? {first second : OrderedMap α} (h : ∀ key, first.find? key = second.find? key) : first = second :=
  OrderedMap.ext (entries_eq_of_lookup_eq first.ordered second.ordered h)

end OrderedMap

/-- Finite sets of texts, in the order of their elements. -/
abbrev OrderedSet := OrderedMap Unit

def OrderedSet.add (set : OrderedSet) (element : String) : OrderedSet := set.insert element ()

def OrderedSet.ofElements (elements : List String) : OrderedSet := elements.foldl OrderedSet.add OrderedMap.empty

end SchemaClosure
