import SchemaClosure.CommandLine.Arguments

namespace SchemaClosure

/-- A table of texts is searched for the value whose text is given. -/
theorem find?_text_eq_some_iff {α : Type} {all : List α} {text : α → String} {given : String} {value : α}
    (hall : ∀ value, all.find? (fun other => text other == text value) = some value) :
    (all.find? fun other => text other == given) = some value ↔ text value = given := by
  constructor
  · intro h
    simpa using List.find?_some h
  · rintro rfl
    exact hall value

theorem ColorMode.ofText_eq_ok_iff {given : String} {mode : ColorMode} : ofText given = .ok mode ↔ mode.text = given := by
  have hall : ∀ value : ColorMode, all.find? (fun other => other.text == value.text) = some value := by
    rintro (_ | _ | _) <;> rfl
  rw [← find?_text_eq_some_iff hall, ofText]
  cases all.find? fun other => other.text == given <;> simp

namespace CommandLine

theorem OutputFormat.ofText_eq_ok_iff {given : String} {output : OutputFormat} : ofText given = .ok output ↔ output.keyword = given := by
  have hall : ∀ value : OutputFormat, all.find? (fun other => other.keyword == value.keyword) = some value := by
    rintro (_ | _) <;> rfl
  rw [← find?_text_eq_some_iff hall, ofText]
  cases all.find? fun other => other.keyword == given <;> simp

/-- What is said by an option with its value, or by one argument of another kind. -/
inductive Item where
  | root (name : String)
  | endOfSet
  | options (file : String)
  | format (format : OutputFormat)
  | color (mode : ColorMode)
  | snapshot (file : String)
  deriving DecidableEq, Repr

namespace Item

/-- The arguments that say an item. The value of an option may begin with a dash, the snapshot may not. -/
inductive IsGivenAs : Item → List String → Prop where
  | root {flag : String} (name : String) (hflag : flag = "--root" ∨ flag = "-r") : IsGivenAs (.root name) [flag, name]
  | endOfSet : IsGivenAs .endOfSet ["--set"]
  | options (file : String) : IsGivenAs (.options file) ["--options", file]
  | format (format : OutputFormat) : IsGivenAs (.format format) ["--format", format.keyword]
  | color (mode : ColorMode) : IsGivenAs (.color mode) ["--color", mode.text]
  | snapshot {file : String} (hfile : file.toList.head? ≠ some '-') : IsGivenAs (.snapshot file) [file]

def root? : Item → Option String
  | .root name => some name
  | _ => none

def options? : Item → Option String
  | .options file => some file
  | _ => none

def format? : Item → Option OutputFormat
  | .format output => some output
  | _ => none

def color? : Item → Option ColorMode
  | .color mode => some mode
  | _ => none

def snapshot? : Item → Option String
  | .snapshot file => some file
  | _ => none

/-- The roots, cut at each end of a set. -/
def groups (items : List Item) : List (List String) := (items.splitOn .endOfSet).map (List.filterMap root?)

/-- The groups that have roots. -/
def rootSets (items : List Item) : List (List String) := (groups items).filter fun set => !set.isEmpty

end Item

/-- The items that arguments say, from left to right. -/
inductive Gives : List String → List Item → Prop where
  | nil : Gives [] []
  | cons {item : Item} {given arguments : List String} {items : List Item} (hitem : item.IsGivenAs given) (h : Gives arguments items) :
      Gives (given ++ arguments) (item :: items)

namespace Item

variable {items : List Item} {item : Item}

theorem groups_ne_nil (items : List Item) : groups items ≠ [] := by simp [groups]

theorem groups_endOfSet (items : List Item) : groups (.endOfSet :: items) = [] :: groups items := by
  simp [groups, List.splitOn_cons_eq_if_modifyHead]

theorem groups_cons_of_ne (h : item ≠ .endOfSet) (items : List Item) :
    groups (item :: items) = (groups items).modifyHead (item.root?.toList ++ ·) := by
  obtain ⟨first, rest, hsplit⟩ := List.exists_cons_of_ne_nil (List.splitOn_ne_nil Item.endOfSet items)
  cases hroot : item.root? <;> simp [groups, List.splitOn_cons_eq_if_modifyHead, h, hsplit, hroot]

theorem groups_roots_append (names : List String) (items : List Item) :
    groups (names.map .root ++ items) = (groups items).modifyHead (names ++ ·) := by
  induction names with
  | nil =>
    rw [List.map_nil, List.nil_append]
    cases groups items <;> rfl
  | cons name names ih =>
    rw [List.map_cons, List.cons_append, groups_cons_of_ne (by simp), ih, List.modifyHead_modifyHead]
    rfl

theorem flatten_groups (items : List Item) : (groups items).flatten = items.filterMap root? := by
  induction items with
  | nil => rfl
  | cons item items ih =>
    by_cases hend : item = .endOfSet
    · rw [hend, groups_endOfSet, List.flatten_cons, ih]
      rfl
    · obtain ⟨first, rest, hgroups⟩ := List.exists_cons_of_ne_nil (groups_ne_nil items)
      rw [groups_cons_of_ne hend, hgroups, List.modifyHead_cons, List.flatten_cons, List.append_assoc, ← List.flatten_cons, ← hgroups,
        ih]
      cases hroot : item.root? <;> simp [hroot]

/-- No root is lost, and none changes its place. -/
theorem flatten_rootSets (items : List Item) : (rootSets items).flatten = items.filterMap root? := by
  rw [rootSets, List.flatten_filter_not_isEmpty, flatten_groups]

theorem ne_nil_of_mem_rootSets {set : List String} (h : set ∈ rootSets items) : set ≠ [] := by
  simpa using (List.mem_filter.mp h).2

theorem rootSets_eq_nil_iff (items : List Item) : rootSets items = [] ↔ items.filterMap root? = [] := by
  rw [← flatten_rootSets, List.flatten_eq_nil_iff]
  constructor
  · intro h
    simp [h]
  · intro h
    exact List.eq_nil_iff_forall_not_mem.mpr fun set hset => ne_nil_of_mem_rootSets hset (h set hset)

theorem rootSets_roots_append_endOfSet (names : List String) (items : List Item) :
    rootSets (names.map .root ++ .endOfSet :: items) = (if names.isEmpty then [] else [names]) ++ rootSets items := by
  rw [rootSets, groups_roots_append, groups_endOfSet, List.modifyHead_cons, List.append_nil]
  cases names <;> rfl

theorem rootSets_roots (names : List String) : rootSets (names.map .root) = if names.isEmpty then [] else [names] := by
  have hgroups := groups_roots_append names []
  rw [List.append_nil] at hgroups
  rw [rootSets, hgroups]
  cases names <;> simp [groups]

theorem rootSets_roots_append_cons (names : List String) (hroot : item.root? = none) (hend : item ≠ .endOfSet) (items : List Item) :
    rootSets (names.map .root ++ item :: items) = rootSets (names.map .root ++ items) := by
  rw [rootSets, rootSets, groups_roots_append, groups_roots_append, groups_cons_of_ne hend, hroot, List.modifyHead_modifyHead]
  rfl

theorem rootSets_cons (hroot : item.root? = none) (hend : item ≠ .endOfSet) (items : List Item) :
    rootSets (item :: items) = rootSets items :=
  rootSets_roots_append_cons [] hroot hend items

end Item

end CommandLine

end SchemaClosure
