/-
**Keyed tables in order of creation.**

A table keeps at most one value for each key and lists its entries in the order in which their keys
first arrived. Writing to a present key keeps its place, so the order of a table is the history of
its keys:

* `get?_insert`, `get?_modify`, `get?_erase`: what each operation does to the view `get?`;
* `keys_insert_of_not_mem`, `keys_modify`, `keys_erase`: what it does to the order of keys;
* `mapValues_modify`, `mapValues_insert`, `mapValues_erase`: what it does to a table whose values are all
  seen through one function.
-/

namespace WindowShell

/-- At most one value for each key, in the order in which the keys arrived. -/
structure Table (κ α : Type) where
  /-- The entries, oldest key first. -/
  entries : List (κ × α)
  /-- No key occurs twice. -/
  distinct : (entries.map Prod.fst).Nodup

namespace Table

/-- The table without keys. -/
def empty {κ α : Type} : Table κ α := ⟨[], List.nodup_nil⟩

variable {κ α : Type} [DecidableEq κ]

instance [DecidableEq α] : DecidableEq (Table κ α) := fun first second =>
  if same : first.entries = second.entries then
    isTrue (by cases first; cases second; cases same; rfl)
  else isFalse fun equal => same (equal ▸ rfl)

/-- The keys, oldest first. -/
def keys (table : Table κ α) : List κ := table.entries.map Prod.fst

/-- The values, in the order of their keys. -/
def values (table : Table κ α) : List α := table.entries.map Prod.snd

/-- How many keys there are. -/
def size (table : Table κ α) : Nat := table.entries.length

/-- The value of a key. -/
def get? (table : Table κ α) (key : κ) : Option α :=
  (table.entries.find? fun entry => entry.1 = key).map Prod.snd

/-- Whether the key is present. -/
def contains (table : Table κ α) (key : κ) : Bool := (table.get? key).isSome

/-- The entries with the value of one key replaced. -/
def changeValue (entries : List (κ × α)) (key : κ) (change : α → α) : List (κ × α) :=
  entries.map fun entry => if entry.1 = key then (entry.1, change entry.2) else entry

theorem map_fst_changeValue (entries : List (κ × α)) (key : κ) (change : α → α) :
    (changeValue entries key change).map Prod.fst = entries.map Prod.fst := by
  simp only [changeValue, List.map_map]
  refine List.map_congr_left fun entry _ => ?_
  simp only [Function.comp_apply]
  split <;> rfl

/-- Changes the value of a key in place; an absent key stays absent. -/
def modify (table : Table κ α) (key : κ) (change : α → α) : Table κ α where
  entries := changeValue table.entries key change
  distinct := by rw [map_fst_changeValue]; exact table.distinct

/-- Writes a value: in place if the key is present, as the newest entry otherwise. -/
def insert (table : Table κ α) (key : κ) (value : α) : Table κ α :=
  if present : key ∈ table.keys then table.modify key fun _ => value
  else
    { entries := table.entries ++ [(key, value)]
      distinct := by
        rw [List.map_append, List.nodup_append]
        refine ⟨table.distinct, by simp, fun old member new fresh same => present ?_⟩
        rw [List.map_singleton, List.mem_singleton] at fresh
        rwa [same, fresh] at member }

/-- Forgets a key. -/
def erase (table : Table κ α) (key : κ) : Table κ α where
  entries := table.entries.filter fun entry => entry.1 ≠ key
  distinct := table.distinct.sublist (List.filter_sublist.map Prod.fst)

/-- The table that holds the given pairs; the last pair of a repeated key counts. -/
def ofList (pairs : List (κ × α)) : Table κ α :=
  pairs.foldl (fun (table : Table κ α) pair => table.insert pair.1 pair.2) empty

/-- The table with every value changed. -/
def mapValues (table : Table κ α) (change : α → α) : Table κ α where
  entries := table.entries.map fun entry => (entry.1, change entry.2)
  distinct := by rw [List.map_map]; exact table.distinct

/-- The oldest entry whose value passes a test. -/
def findKey? (table : Table κ α) (test : α → Bool) : Option κ :=
  (table.entries.find? fun entry => test entry.2).map Prod.fst

/-! ## The order of keys -/

omit [DecidableEq κ] in
@[simp] theorem keys_empty : (empty : Table κ α).keys = [] := rfl

omit [DecidableEq κ] in
theorem keys_nodup (table : Table κ α) : table.keys.Nodup := table.distinct

@[simp] theorem keys_modify (table : Table κ α) (key : κ) (change : α → α) :
    (table.modify key change).keys = table.keys :=
  map_fst_changeValue _ _ _

theorem keys_insert_of_mem {table : Table κ α} {key : κ} (present : key ∈ table.keys) (value : α) :
    (table.insert key value).keys = table.keys := by
  rw [insert, dif_pos present, keys_modify]

theorem keys_insert_of_not_mem {table : Table κ α} {key : κ} (absent : key ∉ table.keys)
    (value : α) : (table.insert key value).keys = table.keys ++ [key] := by
  rw [insert, dif_neg absent]
  simp [keys]

@[simp] theorem keys_erase (table : Table κ α) (key : κ) :
    (table.erase key).keys = table.keys.filter (· ≠ key) := by
  simp only [erase, keys, List.filter_map]
  rfl

omit [DecidableEq κ] in
theorem size_eq_length_keys (table : Table κ α) : table.size = table.keys.length := by
  simp [size, keys]

theorem size_modify (table : Table κ α) (key : κ) (change : α → α) :
    (table.modify key change).size = table.size := by
  rw [size_eq_length_keys, keys_modify, size_eq_length_keys]

theorem size_insert_le (table : Table κ α) (key : κ) (value : α) :
    (table.insert key value).size ≤ table.size + 1 := by
  rw [size_eq_length_keys, size_eq_length_keys]
  by_cases present : key ∈ table.keys
  · rw [keys_insert_of_mem present]
    exact Nat.le_succ _
  · have longer := congrArg List.length (keys_insert_of_not_mem present value)
    rw [List.length_append, List.length_singleton] at longer
    exact Nat.le_of_eq longer

/-! ## Values by key -/

@[simp] theorem get?_empty (key : κ) : (empty : Table κ α).get? key = none := rfl

theorem get?_eq_none_iff {table : Table κ α} {key : κ} : table.get? key = none ↔ key ∉ table.keys := by
  simp only [get?, keys, Option.map_eq_none_iff, List.find?_eq_none, decide_eq_true_eq, List.mem_map,
    not_exists, not_and]

theorem get?_isSome_iff {table : Table κ α} {key : κ} :
    (table.get? key).isSome ↔ key ∈ table.keys := by
  rw [← Option.ne_none_iff_isSome, Ne, get?_eq_none_iff, Decidable.not_not]

omit [DecidableEq κ] in
/-- Two entries of one key are the same entry. -/
theorem entry_unique {entries : List (κ × α)} (distinct : (entries.map Prod.fst).Nodup)
    {first second : κ × α} (inFirst : first ∈ entries) (inSecond : second ∈ entries)
    (same : first.1 = second.1) : first = second := by
  induction entries with
  | nil => simp at inFirst
  | cons entry rest hypothesis =>
    rw [List.map_cons, List.nodup_cons] at distinct
    rcases List.mem_cons.mp inFirst with rfl | firstLater <;>
      rcases List.mem_cons.mp inSecond with rfl | secondLater
    · rfl
    · exact absurd (same ▸ List.mem_map_of_mem secondLater) distinct.1
    · exact absurd (same ▸ List.mem_map_of_mem firstLater) distinct.1
    · exact hypothesis distinct.2 firstLater secondLater

/-- A key has a value exactly if the pair is an entry. -/
theorem get?_eq_some_iff {table : Table κ α} {key : κ} {value : α} :
    table.get? key = some value ↔ (key, value) ∈ table.entries := by
  simp only [get?, Option.map_eq_some_iff, Prod.exists, exists_eq_right]
  constructor
  · rintro ⟨found, same⟩
    have key_eq := List.find?_some same
    have member := List.mem_of_find?_eq_some same
    rw [decide_eq_true_eq] at key_eq
    exact key_eq ▸ member
  · intro member
    cases found : table.entries.find? fun entry => entry.1 = key with
    | none => exact absurd (List.find?_eq_none.mp found _ member) (by simp)
    | some entry =>
      have key_eq := List.find?_some found
      rw [decide_eq_true_eq] at key_eq
      have inside := List.mem_of_find?_eq_some found
      have same := entry_unique table.distinct inside member key_eq
      exact ⟨key, by rw [same]⟩

theorem get?_modify (table : Table κ α) (key other : κ) (change : α → α) :
    (table.modify key change).get? other =
      if other = key then (table.get? other).map change else table.get? other := by
  simp only [get?, modify, changeValue, List.find?_map]
  have test : ((fun entry : κ × α => decide (entry.1 = other)) ∘ fun entry : κ × α =>
      if entry.1 = key then (entry.1, change entry.2) else entry) =
      fun entry => decide (entry.1 = other) := by
    funext entry
    simp only [Function.comp_apply]
    split <;> rfl
  rw [test]
  cases found : table.entries.find? fun entry => entry.1 = other with
  | none => simp
  | some entry =>
    have key_eq := List.find?_some found
    rw [decide_eq_true_eq] at key_eq
    simp only [Option.map_some, key_eq]
    split <;> simp_all

theorem get?_insert (table : Table κ α) (key other : κ) (value : α) :
    (table.insert key value).get? other = if other = key then some value else table.get? other := by
  unfold insert
  split
  · next present =>
    rw [get?_modify]
    split
    · next same =>
      subst same
      obtain ⟨old, found⟩ := Option.isSome_iff_exists.mp (get?_isSome_iff.mpr present)
      simp [found]
    · rfl
  · next absent =>
    simp only [get?, List.find?_append]
    split
    · next same =>
      subst same
      have none_found : table.entries.find? (fun entry => decide (entry.1 = other)) = none := by
        have := get?_eq_none_iff.mpr absent
        simpa [get?] using this
      simp [none_found]
    · next differ =>
      simp [Ne.symm differ]

theorem get?_erase (table : Table κ α) (key other : κ) :
    (table.erase key).get? other = if other = key then none else table.get? other := by
  split
  · next same =>
    subst same
    rw [get?_eq_none_iff, keys_erase]
    simp
  · next differ =>
    simp only [get?, erase, List.find?_filter]
    congr 2
    funext entry
    by_cases same : entry.1 = other <;> simp_all

/-! ## Searching for a value -/

theorem findKey?_eq_some {table : Table κ α} {test : α → Bool} {key : κ}
    (found : table.findKey? test = some key) :
    ∃ value, table.get? key = some value ∧ test value = true := by
  obtain ⟨⟨_, value⟩, first, rfl⟩ := Option.map_eq_some_iff.mp found
  exact ⟨value, get?_eq_some_iff.mpr (List.mem_of_find?_eq_some first), (List.find?_some first :)⟩

theorem findKey?_eq_none_iff {table : Table κ α} {test : α → Bool} :
    table.findKey? test = none ↔ ∀ key value, table.get? key = some value → ¬ test value := by
  simp only [findKey?, Option.map_eq_none_iff, List.find?_eq_none, get?_eq_some_iff, Prod.forall]

/-- Where one value passes a test, the search finds it. -/
theorem findKey?_of_unique {table : Table κ α} {test : α → Bool} {key : κ} {value : α}
    (found : table.get? key = some value) (passes : test value = true)
    (only : ∀ other record, table.get? other = some record → test record = true → other = key) :
    table.findKey? test = some key := by
  cases first : table.findKey? test with
  | none => exact absurd passes (findKey?_eq_none_iff.mp first key value found)
  | some other =>
    obtain ⟨record, there, also⟩ := findKey?_eq_some first
    rw [only other record there also]

/-! ## Counting values -/

omit [DecidableEq κ] in
theorem countP_values (table : Table κ α) (test : α → Bool) :
    table.values.countP test = (table.entries.filter fun entry => test entry.2).length := by
  rw [values, List.countP_map, List.countP_eq_length_filter]
  rfl

/-- A table that keeps the values which pass a test is as large as there are such values. -/
theorem size_eq_countP {before after : Table κ α} {keep : α → Bool}
    (same : ∀ key, (after.get? key).isSome = (before.get? key).any keep) :
    after.size = before.values.countP keep := by
  have keys : after.keys.Perm ((before.entries.filter fun entry => keep entry.2).map Prod.fst) := by
    refine (List.perm_ext_iff_of_nodup after.keys_nodup
      (before.distinct.sublist (List.filter_sublist.map Prod.fst))).mpr fun key => ?_
    rw [← get?_isSome_iff, same, Option.any_eq_true, List.mem_map]
    constructor
    · rintro ⟨value, found, kept⟩
      exact ⟨(key, value), List.mem_filter.mpr ⟨get?_eq_some_iff.mp found, kept⟩, rfl⟩
    · rintro ⟨entry, member, rfl⟩
      obtain ⟨inside, kept⟩ := List.mem_filter.mp member
      exact ⟨entry.2, get?_eq_some_iff.mpr inside, kept⟩
  rw [size_eq_length_keys, keys.length_eq, List.length_map, countP_values]

/-- What is missing of a table that keeps some values are the others. -/
theorem size_eq_add_countP {before after : Table κ α} {lost : α → Prop} [DecidablePred lost]
    (same : ∀ key, (after.get? key).isSome = (before.get? key).any fun value => ¬ lost value) :
    before.size = after.size + before.values.countP fun value => lost value := by
  have all : before.size = before.values.length := (List.length_map _).symm
  have split := before.values.length_eq_countP_add_countP fun value => lost value
  simp only [decide_eq_true_eq] at split
  rw [all, split, size_eq_countP same, Nat.add_comm]

/-- Where at most one value passes a test, it counts if the search finds it. -/
theorem countP_of_unique {table : Table κ α} {test : α → Bool}
    (only : ∀ first second value other, table.get? first = some value →
      table.get? second = some other → test value → test other → first = second) :
    table.values.countP test = if (table.findKey? test).isSome then 1 else 0 := by
  cases search : table.findKey? test with
  | none =>
    refine List.countP_eq_zero.mpr fun value member => ?_
    obtain ⟨entry, inside, rfl⟩ := List.mem_map.mp member
    exact findKey?_eq_none_iff.mp search entry.1 entry.2 (get?_eq_some_iff.mpr inside)
  | some key =>
    obtain ⟨value, found, passes⟩ := findKey?_eq_some search
    have entries : table.entries.Nodup := List.Pairwise.of_map Prod.fst
      (fun _ _ differ same => differ (congrArg Prod.fst same)) table.distinct
    have single : (table.entries.filter fun entry => test entry.2) = [(key, value)] := by
      refine List.perm_singleton.mp ((List.perm_ext_iff_of_nodup (entries.filter _)
        (by simp)).mpr fun entry => ?_)
      rw [List.mem_filter, List.mem_singleton]
      constructor
      · rintro ⟨inside, also⟩
        have same := only entry.1 key entry.2 value (get?_eq_some_iff.mpr inside) found also passes
        exact entry_unique table.distinct inside (get?_eq_some_iff.mp found) same
      · rintro rfl
        exact ⟨get?_eq_some_iff.mp found, passes⟩
    rw [countP_values, single]
    rfl

/-! ## The entries themselves -/

theorem entries_insert_of_not_mem {table : Table κ α} {key : κ} (absent : key ∉ table.keys)
    (value : α) : (table.insert key value).entries = table.entries ++ [(key, value)] := by
  rw [insert, dif_neg absent]

/-- Where a new value looks like the one it replaces, the entries look as before. -/
theorem map_entries_insert {β : Type} {table : Table κ α} {key : κ} {old value : α}
    (present : table.get? key = some old) (look : α → β) (same : look value = look old) :
    (table.insert key value).entries.map (fun entry => (entry.1, look entry.2)) =
      table.entries.map fun entry => (entry.1, look entry.2) := by
  have member := get?_isSome_iff.mp (by rw [present]; rfl : (table.get? key).isSome)
  simp only [insert, dif_pos member, modify, changeValue, List.map_map]
  refine List.map_congr_left fun entry inside => ?_
  simp only [Function.comp_apply]
  split
  · next here =>
    have unique := entry_unique table.distinct inside (get?_eq_some_iff.mp present) here
    rw [unique, same]
  · rfl

omit [DecidableEq κ] in
theorem ext {first second : Table κ α} (same : first.entries = second.entries) : first = second := by
  cases first
  cases second
  cases same
  rfl

theorem erase_of_not_mem {table : Table κ α} {key : κ} (absent : key ∉ table.keys) :
    table.erase key = table :=
  ext (List.filter_eq_self.mpr fun _ member =>
    decide_eq_true fun same => absent (same ▸ List.mem_map_of_mem member))

theorem filter_changeValue (entries : List (κ × α)) (key : κ) (change : α → α) :
    (changeValue entries key change).filter (fun entry => entry.1 ≠ key) =
      entries.filter fun entry => entry.1 ≠ key := by
  induction entries with
  | nil => rfl
  | cons entry entries ih =>
    rw [changeValue, List.map_cons, ← changeValue]
    by_cases same : entry.1 = key
    · simpa [same] using ih
    · simpa [same] using ih

/-- What was written to a key does not matter once the key is forgotten. -/
theorem erase_insert (table : Table κ α) (key : κ) (value : α) :
    (table.insert key value).erase key = table.erase key := by
  refine ext ?_
  unfold insert
  split
  · exact filter_changeValue table.entries key fun _ => value
  · simp [erase]

/-- A change that keeps the value of a key keeps the table. -/
theorem modify_self {table : Table κ α} {key : κ} {value : α} (found : table.get? key = some value)
    {change : α → α} (keeps : change value = value) : table.modify key change = table := by
  refine ext ?_
  show changeValue table.entries key change = table.entries
  refine (List.map_congr_left fun entry member => ?_).trans (List.map_id _)
  split
  · next here =>
    have unique := entry_unique table.distinct member (get?_eq_some_iff.mp found) here
    subst unique
    rw [keeps]
    rfl
  · rfl

/-- Writing the value that is there keeps the table. -/
theorem insert_self {table : Table κ α} {key : κ} {value : α} (found : table.get? key = some value) :
    table.insert key value = table := by
  have present : key ∈ table.keys := get?_isSome_iff.mp (by rw [found]; rfl)
  rw [insert, dif_pos present]
  exact modify_self found rfl

/-- The last value that is written counts. -/
theorem insert_insert (table : Table κ α) (key : κ) (first second : α) :
    (table.insert key first).insert key second = table.insert key second := by
  have there : key ∈ (table.insert key first).keys :=
    get?_isSome_iff.mp (by rw [get?_insert, if_pos rfl, Option.isSome_some])
  refine ext ?_
  by_cases present : key ∈ table.keys
  · rw [insert, dif_pos there, insert, dif_pos present, insert, dif_pos present]
    simp only [modify, changeValue, List.map_map]
    refine List.map_congr_left fun entry _ => ?_
    by_cases here : entry.1 = key <;> simp [here]
  · have elsewhere : ∀ entry ∈ table.entries, entry.1 ≠ key := fun entry member same =>
      present (same ▸ List.mem_map_of_mem member)
    rw [insert, dif_pos there, insert, dif_neg present, insert, dif_neg present]
    simp only [modify, changeValue, List.map_append, List.map_cons, List.map_nil, if_true]
    rw [List.append_cancel_right_eq]
    refine (List.map_congr_left fun entry member => ?_).trans (List.map_id _)
    rw [if_neg (elsewhere entry member), id]

/-! ## Seeing all values through one function -/

theorem get?_mapValues (table : Table κ α) (look : α → α) (key : κ) :
    (table.mapValues look).get? key = (table.get? key).map look := by
  simp only [get?, mapValues, List.find?_map, Option.map_map]
  rfl

omit [DecidableEq κ] in
theorem keys_mapValues (table : Table κ α) (look : α → α) :
    (table.mapValues look).keys = table.keys :=
  List.map_map

omit [DecidableEq κ] in
theorem size_mapValues (table : Table κ α) (look : α → α) :
    (table.mapValues look).size = table.size :=
  List.length_map _

omit [DecidableEq κ] in
theorem mapValues_mapValues (table : Table κ α) (look again : α → α) :
    (table.mapValues look).mapValues again = table.mapValues fun value => again (look value) :=
  ext (List.map_map.trans rfl)

/-- A change that looks like another one is made like that one. -/
theorem mapValues_modify {table : Table κ α} {look change shown : α → α}
    (same : ∀ value, look (change value) = shown (look value)) (key : κ) :
    (table.modify key change).mapValues look = (table.mapValues look).modify key shown := by
  refine ext ?_
  simp only [mapValues, modify, changeValue, List.map_map]
  refine List.map_congr_left fun entry _ => ?_
  simp only [Function.comp_apply]
  split
  · rw [same]
  · rfl

theorem mapValues_insert (table : Table κ α) (look : α → α) (key : κ) (value : α) :
    (table.insert key value).mapValues look = (table.mapValues look).insert key (look value) := by
  have keys : key ∈ (table.mapValues look).keys ↔ key ∈ table.keys := by rw [keys_mapValues]
  by_cases present : key ∈ table.keys
  · rw [insert, dif_pos present, insert, dif_pos (keys.mpr present)]
    refine mapValues_modify ?_ key
    exact fun _ => rfl
  · refine ext ?_
    rw [entries_insert_of_not_mem (mt keys.mp present)]
    show (table.insert key value).entries.map _ = _
    rw [entries_insert_of_not_mem present, List.map_append]
    rfl

theorem mapValues_erase (table : Table κ α) (look : α → α) (key : κ) :
    (table.erase key).mapValues look = (table.mapValues look).erase key := by
  refine ext ?_
  simp only [mapValues, erase, List.filter_map]
  rfl

end Table

end WindowShell
