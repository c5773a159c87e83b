import Mathlib.Algebra.BigOperators.Group.List.Basic
import Mathlib.Data.List.Induction
import Mathlib.Data.List.Nodup

/-!
# Insertion-ordered dictionaries

A dictionary is the list of its entries in insertion order.  `update` is the idiom "insert a
default if the key is missing, then change the value in place", and `group` folds it over a list,
which collects the elements of each key in their order.
-/

namespace Foundation.Dict

variable {κ ν α : Type} [DecidableEq κ]

/-- Change the value at a key in place, after inserting a default where the key is missing. -/
def update (key : κ) (default : ν) (change : ν → ν) : List (κ × ν) → List (κ × ν)
  | [] => [(key, change default)]
  | (entryKey, value) :: entries =>
      if entryKey = key then
        (entryKey, change value) :: entries
      else
        (entryKey, value) :: update key default change entries

/-- The value at a key. -/
def get? (entries : List (κ × ν)) (key : κ) : Option ν :=
  entries.lookup key

@[simp]
theorem get?_nil (key : κ) : get? ([] : List (κ × ν)) key = none := rfl

@[simp]
theorem get?_cons_self (key : κ) (value : ν) (entries : List (κ × ν)) :
    get? ((key, value) :: entries) key = some value := by
  simp [get?]

theorem get?_cons_of_ne {key other : κ} (ne : key ≠ other) (value : ν) (entries : List (κ × ν)) :
    get? ((other, value) :: entries) key = get? entries key := by
  have differ : (key == other) = false := beq_eq_false_iff_ne.mpr ne
  simp [get?, List.lookup_cons, differ]

theorem get?_update (key : κ) (default : ν) (change : ν → ν) (entries : List (κ × ν)) (k : κ) :
    get? (update key default change entries) k =
      if k = key then some (change ((get? entries k).getD default)) else get? entries k := by
  induction entries with
  | nil => by_cases same : k = key <;> simp [update, same, get?_cons_of_ne]
  | cons entry entries ih =>
      obtain ⟨entryKey, value⟩ := entry
      by_cases found : entryKey = key
      · subst entryKey
        by_cases same : k = key
        · simp [update, same]
        · simp [update, same, get?_cons_of_ne]
      · by_cases here : k = entryKey
        · subst k
          simp [update, found]
        · simp [update, found, get?_cons_of_ne here, ih]

theorem mem_keys_update {key k : κ} {default : ν} {change : ν → ν} {entries : List (κ × ν)} :
    k ∈ (update key default change entries).map Prod.fst ↔
      k = key ∨ k ∈ entries.map Prod.fst := by
  induction entries with
  | nil => simp [update]
  | cons entry entries ih =>
      obtain ⟨entryKey, value⟩ := entry
      by_cases found : entryKey = key
      · subst entryKey
        simp [update]
      · simp only [update, found, if_false, List.map_cons, List.mem_cons, ih]
        exact or_left_comm

theorem nodup_keys_update (key : κ) (default : ν) (change : ν → ν) {entries : List (κ × ν)}
    (nodup : (entries.map Prod.fst).Nodup) :
    ((update key default change entries).map Prod.fst).Nodup := by
  induction entries with
  | nil => simp [update]
  | cons entry entries ih =>
      obtain ⟨entryKey, value⟩ := entry
      rw [List.map_cons, List.nodup_cons] at nodup
      by_cases found : entryKey = key
      · simpa [update, found] using nodup
      · simp only [update, found, if_false, List.map_cons, List.nodup_cons]
        refine ⟨?_, ih nodup.2⟩
        rw [mem_keys_update]
        exact not_or.mpr ⟨found, nodup.1⟩

/-- With distinct keys, the entries are exactly what `get?` finds. -/
theorem mem_iff_get? {entries : List (κ × ν)} (nodup : (entries.map Prod.fst).Nodup)
    {key : κ} {value : ν} : (key, value) ∈ entries ↔ get? entries key = some value := by
  induction entries with
  | nil => simp
  | cons entry entries ih =>
      obtain ⟨entryKey, entryValue⟩ := entry
      rw [List.map_cons, List.nodup_cons] at nodup
      by_cases here : key = entryKey
      · subst key
        have absent : ∀ other, (entryKey, other) ∉ entries := fun other member =>
          nodup.1 (List.mem_map.mpr ⟨(entryKey, other), member, rfl⟩)
        simp [absent, eq_comm]
      · simp [get?_cons_of_ne here, here, ih nodup.2]

/-! ## Assignments -/

/-- The dictionary after a list of assignments. -/
def ofList (pairs : List (κ × ν)) : List (κ × ν) :=
  pairs.foldl (fun entries pair => update pair.1 pair.2 (fun _ => pair.2) entries) []

/-- Of two assignments to one key the last counts. -/
theorem get?_ofList (pairs : List (κ × ν)) (key : κ) :
    get? (ofList pairs) key = get? pairs.reverse key := by
  induction pairs using List.reverseRecOn with
  | nil => rfl
  | append_singleton pairs pair ih =>
      rw [ofList] at ih ⊢
      rw [List.foldl_append, List.foldl_cons, List.foldl_nil, get?_update, ih, List.reverse_append,
        List.reverse_singleton, List.singleton_append]
      by_cases same : key = pair.1
      · rw [if_pos same, same, get?_cons_self]
      · rw [if_neg same, get?_cons_of_ne same]

/-- Assignments on top of the entries of a dictionary. -/
def assign (entries pairs : List (κ × ν)) : List (κ × ν) :=
  pairs.foldl (fun entries pair => update pair.1 pair.2 (fun _ => pair.2) entries) entries

theorem get?_assign (entries pairs : List (κ × ν)) (key : κ) :
    get? (assign entries pairs) key = (get? pairs.reverse key).or (get? entries key) := by
  induction pairs using List.reverseRecOn with
  | nil => rfl
  | append_singleton pairs pair ih =>
      rw [assign] at ih ⊢
      rw [List.foldl_append, List.foldl_cons, List.foldl_nil, get?_update, ih, List.reverse_append,
        List.reverse_singleton, List.singleton_append]
      by_cases same : key = pair.1
      · rw [if_pos same, same, get?_cons_self, Option.some_or]
      · rw [if_neg same, get?_cons_of_ne same]

theorem nodup_keys_assign {entries : List (κ × ν)} (nodup : (entries.map Prod.fst).Nodup)
    (pairs : List (κ × ν)) : ((assign entries pairs).map Prod.fst).Nodup := by
  induction pairs generalizing entries with
  | nil => exact nodup
  | cons pair pairs ih => exact ih (nodup_keys_update _ _ _ nodup)

theorem get?_eq_none {entries : List (κ × ν)} {key : κ} (missing : key ∉ entries.map Prod.fst) :
    get? entries key = none := by
  induction entries with
  | nil => rfl
  | cons entry entries ih =>
      rw [List.map_cons, List.mem_cons, not_or] at missing
      rw [get?_cons_of_ne missing.1, ih missing.2]

/-- With distinct keys the order of the entries does not matter. -/
theorem get?_reverse {entries : List (κ × ν)} (nodup : (entries.map Prod.fst).Nodup) (key : κ) :
    get? entries.reverse key = get? entries key := by
  have reversed : (entries.reverse.map Prod.fst).Nodup := by
    rwa [List.map_reverse, List.nodup_reverse]
  refine Option.ext fun value => ?_
  rw [← mem_iff_get? reversed, ← mem_iff_get? nodup, List.mem_reverse]

/-- Keys and values may be renamed before they are looked up, if the keys stay apart. -/
theorem get?_map {κ' ν' : Type} [DecidableEq κ'] {rename : κ → κ'}
    (inj : Function.Injective rename) (change : ν → ν') (entries : List (κ × ν)) (key : κ) :
    get? (entries.map fun entry => (rename entry.1, change entry.2)) (rename key) =
      (get? entries key).map change := by
  induction entries with
  | nil => rfl
  | cons entry entries ih =>
      by_cases same : key = entry.1
      · rw [List.map_cons, same, get?_cons_self, get?_cons_self, Option.map_some]
      · have other : rename key ≠ rename entry.1 := fun equal => same (inj equal)
        rw [List.map_cons, get?_cons_of_ne other, get?_cons_of_ne same, ih]

/-! ## Grouping -/

variable (keyOf : α → Option κ) (start : κ → ν) (extend : ν → α → ν)

/-- File one element under its key; an element without a key is dropped. -/
def file (entries : List (κ × ν)) (element : α) : List (κ × ν) :=
  match keyOf element with
  | none => entries
  | some key => update key (start key) (extend · element) entries

/-- File all elements in turn. -/
def group (elements : List α) : List (κ × ν) :=
  elements.foldl (file keyOf start extend) []

/-- The elements of one key, in their order. -/
def members (key : κ) (elements : List α) : List α :=
  elements.filter fun element => keyOf element = some key

/-- The members of a key among images whose keys are known. -/
theorem members_map {β : Type} {key : κ} {elements : List β} {image : β → α} {keyed : β → κ}
    (agree : ∀ element ∈ elements, keyOf (image element) = some (keyed element)) :
    members keyOf key (elements.map image) =
      (elements.filter fun element => keyed element = key).map image := by
  rw [members, List.filter_map]
  refine congrArg (List.map image) (List.filter_congr fun element member => ?_)
  simp [agree element member]

theorem nodup_keys_file {entries : List (κ × ν)} (nodup : (entries.map Prod.fst).Nodup)
    (element : α) : ((file keyOf start extend entries element).map Prod.fst).Nodup := by
  unfold file
  split
  · exact nodup
  · exact nodup_keys_update _ _ _ nodup

theorem nodup_keys_group (elements : List α) :
    ((group keyOf start extend elements).map Prod.fst).Nodup := by
  induction elements using List.reverseRecOn with
  | nil => exact List.nodup_nil
  | append_singleton elements element ih =>
      rw [group, List.foldl_append]
      exact nodup_keys_file keyOf start extend ih element

/-- A key occurs exactly when it has members, and its value extends the start by all of them. -/
theorem get?_group (elements : List α) (key : κ) :
    get? (group keyOf start extend elements) key =
      if members keyOf key elements = [] then none
      else some ((members keyOf key elements).foldl extend (start key)) := by
  induction elements using List.reverseRecOn with
  | nil => rfl
  | append_singleton elements element ih =>
      have filed : group keyOf start extend (elements ++ [element]) =
          file keyOf start extend (group keyOf start extend elements) element := by
        simp [group]
      rw [filed, file]
      by_cases here : keyOf element = some key
      · have last : members keyOf key (elements ++ [element]) =
            members keyOf key elements ++ [element] := by
          simp [members, here]
        simp only [here, last, get?_update, ih, if_true]
        by_cases empty : members keyOf key elements = []
        · simp [empty]
        · simp [empty]
      · have same : members keyOf key (elements ++ [element]) = members keyOf key elements := by
          simp [members, here]
        rw [same]
        cases keyed : keyOf element with
        | none => simpa using ih
        | some other =>
            have other_ne : key ≠ other := by
              rintro rfl
              exact here keyed
            simp only [get?_update, other_ne, if_false]
            exact ih

/-! ## Totals -/

section Totals

variable {M : Type} [AddCommMonoid M] {measure : ν → M}

/-- A changed value adds to the total what it gains. -/
theorem sum_update {key : κ} {default : ν} {change : ν → ν} {gain : M}
    (empty : measure default = 0) (grows : ∀ value, measure (change value) = measure value + gain)
    (entries : List (κ × ν)) :
    ((update key default change entries).map fun entry => measure entry.2).sum =
      (entries.map fun entry => measure entry.2).sum + gain := by
  induction entries with
  | nil => simp [update, grows, empty]
  | cons entry entries ih =>
      by_cases found : entry.1 = key
      · simp only [update, found, if_true, List.map_cons, List.sum_cons, grows]
        exact add_right_comm _ _ _
      · simp only [update, found, if_false, List.map_cons, List.sum_cons, ih]
        exact (add_assoc _ _ _).symm

/-- Each element with a key counts once in the total of all values. -/
theorem sum_group {weight : α → M} (empty : ∀ key, measure (start key) = 0)
    (grows : ∀ value element, measure (extend value element) = measure value + weight element)
    (elements : List α) :
    ((group keyOf start extend elements).map fun entry => measure entry.2).sum =
      ((elements.filter fun element => (keyOf element).isSome).map weight).sum := by
  induction elements using List.reverseRecOn with
  | nil => rfl
  | append_singleton elements element ih =>
      rw [group] at ih ⊢
      rw [List.foldl_append, List.foldl_cons, List.foldl_nil, List.filter_append, List.map_append,
        List.sum_append, ← ih, file]
      cases keyed : keyOf element with
      | none => simp [keyed]
      | some key =>
          rw [List.filter_singleton, keyed, Option.isSome_some, cond_true, List.map_singleton,
            List.sum_singleton]
          exact sum_update (empty key) (fun value => grows value element) _

end Totals

end Foundation.Dict
