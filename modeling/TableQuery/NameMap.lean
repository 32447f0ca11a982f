/-!
Maps from names to values, kept as one ascending list of entries.

Names are ordered by code point and no name occurs twice, so a map has exactly
one representation: `NameMap.ext_get?` says that two maps which answer every
look-up alike are equal. Rows and the tables of a store are such maps, and the
order of the entries is the order in which `*` reads the cells of a row.
-/

namespace TableQuery

/-- A finite map from names to values of type `α`. -/
structure NameMap (α : Type) where
  /-- The entries, each name once, in ascending order. -/
  entries : List (String × α)
  /-- Every entry stands before all entries with a larger name. -/
  ascending : entries.Pairwise (fun a b => a.1 < b.1) := by simp
deriving DecidableEq

namespace NameMap

variable {α : Type}

/-! ## Look-up and insertion on the list of entries -/

/-- The value of the first entry with the given name. -/
def find? (name : String) : List (String × α) → Option α
  | [] => none
  | (n, v) :: rest => if n = name then some v else find? name rest

/-- Puts an entry at its place in an ascending list, in place of an entry of
the same name. -/
def place (name : String) (value : α) : List (String × α) → List (String × α)
  | [] => [(name, value)]
  | (n, v) :: rest =>
    if name < n then (name, value) :: (n, v) :: rest
    else if name = n then (name, value) :: rest
    else (n, v) :: place name value rest

theorem mem_place {name : String} {value : α} {entry : String × α}
    {entries : List (String × α)} (member : entry ∈ place name value entries) :
    entry = (name, value) ∨ entry ∈ entries := by
  induction entries with
  | nil => simpa [place] using member
  | cons head rest ih =>
    obtain ⟨n, v⟩ := head
    rw [place] at member
    split at member
    · simpa using member
    · split at member
      · rcases List.mem_cons.mp member with rfl | later
        · exact Or.inl rfl
        · exact Or.inr (List.mem_cons_of_mem _ later)
      · rcases List.mem_cons.mp member with rfl | later
        · exact Or.inr List.mem_cons_self
        · exact (ih later).imp id (List.mem_cons_of_mem _)

theorem place_ascending (name : String) (value : α)
    {entries : List (String × α)}
    (ascending : entries.Pairwise (fun a b => a.1 < b.1)) :
    (place name value entries).Pairwise (fun a b => a.1 < b.1) := by
  induction entries with
  | nil => simp [place]
  | cons head rest ih =>
    obtain ⟨n, v⟩ := head
    rw [List.pairwise_cons] at ascending
    obtain ⟨first, later⟩ := ascending
    rw [place]
    split
    · rename_i before
      refine List.pairwise_cons.mpr ⟨fun entry member => ?_,
        List.pairwise_cons.mpr ⟨first, later⟩⟩
      rcases List.mem_cons.mp member with rfl | member
      · exact before
      · exact String.lt_trans before (first entry member)
    · split
      · rename_i same
        exact List.pairwise_cons.mpr ⟨same ▸ first, later⟩
      · rename_i notBefore notSame
        refine List.pairwise_cons.mpr ⟨fun entry member => ?_, ih later⟩
        rcases mem_place member with rfl | member
        · rcases String.le_total n name with le | le
          · exact Decidable.byContradiction fun notLt =>
              notSame (String.le_antisymm (String.not_lt.mp notLt) le)
          · exact absurd (String.le_antisymm le (String.not_lt.mp notBefore))
              notSame
        · exact first entry member

theorem find?_place (name other : String) (value : α)
    (entries : List (String × α)) :
    find? other (place name value entries) =
      if name = other then some value else find? other entries := by
  induction entries with
  | nil => simp [place, find?]
  | cons head rest ih =>
    obtain ⟨n, v⟩ := head
    rw [place]
    split
    · simp [find?]
    · split
      · rename_i same
        subst same
        by_cases h : name = other <;> simp [find?, h]
      · rename_i notSame
        by_cases h : n = other
        · subst h
          simp [find?, notSame]
        · simp [find?, h, ih]

theorem find?_eq_none_of_lt {name : String} {entries : List (String × α)}
    (below : ∀ entry ∈ entries, name < entry.1) : find? name entries = none := by
  induction entries with
  | nil => rfl
  | cons head rest ih =>
    obtain ⟨n, v⟩ := head
    have different : n ≠ name := fun same =>
      String.lt_irrefl n (by simpa [same] using below _ List.mem_cons_self)
    simp [find?, different, ih fun e m => below e (List.mem_cons_of_mem _ m)]

/-- An ascending list of entries is determined by its look-ups. -/
theorem eq_of_find?_eq {left right : List (String × α)}
    (leftAscending : left.Pairwise (fun a b => a.1 < b.1))
    (rightAscending : right.Pairwise (fun a b => a.1 < b.1))
    (alike : ∀ name, find? name left = find? name right) : left = right := by
  induction left generalizing right with
  | nil =>
    cases right with
    | nil => rfl
    | cons head rest =>
      obtain ⟨n, v⟩ := head
      simpa [find?] using alike n
  | cons head rest ih =>
    obtain ⟨n, v⟩ := head
    rw [List.pairwise_cons] at leftAscending
    obtain ⟨leftFirst, leftLater⟩ := leftAscending
    cases right with
    | nil => simpa [find?] using alike n
    | cons head' rest' =>
      obtain ⟨n', v'⟩ := head'
      rw [List.pairwise_cons] at rightAscending
      obtain ⟨rightFirst, rightLater⟩ := rightAscending
      have sameName : n = n' := by
        refine Decidable.byContradiction fun different => ?_
        rcases String.le_total n n' with le | le
        · have lt : n < n' := Decidable.byContradiction fun notLt =>
            different (String.le_antisymm le (String.not_lt.mp notLt))
          have absent : find? n ((n', v') :: rest') = none :=
            find?_eq_none_of_lt fun entry member => by
              rcases List.mem_cons.mp member with rfl | member
              · exact lt
              · exact String.lt_trans lt (rightFirst entry member)
          have contra := alike n
          rw [absent] at contra
          simp [find?] at contra
        · have lt : n' < n := Decidable.byContradiction fun notLt =>
            different (String.le_antisymm (String.not_lt.mp notLt) le)
          have absent : find? n' ((n, v) :: rest) = none :=
            find?_eq_none_of_lt fun entry member => by
              rcases List.mem_cons.mp member with rfl | member
              · exact lt
              · exact String.lt_trans lt (leftFirst entry member)
          have contra := alike n'
          rw [absent] at contra
          simp [find?] at contra
      subst sameName
      have sameValue : v = v' := by simpa [find?] using alike n
      subst sameValue
      have sameRest : rest = rest' := by
        refine ih leftLater rightLater fun name => ?_
        by_cases h : n = name
        · subst h
          rw [find?_eq_none_of_lt leftFirst, find?_eq_none_of_lt rightFirst]
        · simpa [find?, h] using alike name
      rw [sameRest]

/-! ## Maps -/

/-- The map without entries. -/
def empty : NameMap α := ⟨[], .nil⟩

instance : Inhabited (NameMap α) := ⟨empty⟩

/-- The value stored under a name. -/
def get? (map : NameMap α) (name : String) : Option α :=
  find? name map.entries

/-- Stores a value under a name, in place of an earlier one. -/
def insert (map : NameMap α) (name : String) (value : α) : NameMap α :=
  ⟨place name value map.entries, place_ascending name value map.ascending⟩

/-- Stores every entry of a list, later ones in place of earlier ones. -/
def insertAll (map : NameMap α) (entries : List (String × α)) : NameMap α :=
  entries.foldl (fun map entry => map.insert entry.1 entry.2) map

/-- The map of a list of entries; of two entries of one name the later counts. -/
def ofList (entries : List (String × α)) : NameMap α :=
  empty.insertAll entries

/-- The names in ascending order. -/
def names (map : NameMap α) : List String :=
  map.entries.map (·.1)

/-- The values in the order of their names. -/
def values (map : NameMap α) : List α :=
  map.entries.map (·.2)

@[simp] theorem get?_empty (name : String) : (empty : NameMap α).get? name = none :=
  rfl

theorem get?_insert (map : NameMap α) (name other : String) (value : α) :
    (map.insert name value).get? other =
      if name = other then some value else map.get? other :=
  find?_place name other value map.entries

@[simp] theorem get?_insert_self (map : NameMap α) (name : String) (value : α) :
    (map.insert name value).get? name = some value := by
  simp [get?_insert]

theorem get?_insert_of_ne (map : NameMap α) {name other : String} (value : α)
    (different : name ≠ other) :
    (map.insert name value).get? other = map.get? other := by
  simp [get?_insert, different]

/-- Maps that answer every look-up alike are equal. -/
theorem ext_get? {left right : NameMap α}
    (alike : ∀ name, left.get? name = right.get? name) : left = right := by
  have same := eq_of_find?_eq left.ascending right.ascending alike
  cases left
  cases right
  cases same
  rfl

/-- What a list of entries puts into a map is one of them. -/
theorem mem_of_get?_insertAll {map : NameMap α} {entries : List (String × α)} {name : String}
    {value : α} (found : (map.insertAll entries).get? name = some value) :
    map.get? name = some value ∨ (name, value) ∈ entries := by
  induction entries generalizing map with
  | nil => exact Or.inl found
  | cons entry rest ih =>
    rcases ih found with early | later
    · rw [get?_insert] at early
      split at early
      · rename_i same
        cases early
        exact Or.inr (same ▸ List.mem_cons_self)
      · exact Or.inl early
    · exact Or.inr (List.mem_cons_of_mem _ later)

theorem isSome_get?_insertAll (map : NameMap α) (entries : List (String × α)) (name : String) :
    ((map.insertAll entries).get? name).isSome = true ↔
      (map.get? name).isSome = true ∨ name ∈ entries.map (·.1) := by
  induction entries generalizing map with
  | nil => simp [insertAll]
  | cons entry rest ih =>
    have step : ((map.insert entry.1 entry.2).get? name).isSome = true ↔
        (map.get? name).isSome = true ∨ name = entry.1 := by
      rw [get?_insert]
      by_cases same : entry.1 = name
      · simp [same]
      · simp [same, Ne.symm same]
    rw [insertAll, List.foldl_cons, ← insertAll, ih, step, List.map_cons, List.mem_cons, or_assoc]

/-- What is put into a map counts before what it had. -/
theorem get?_insertAll (map : NameMap α) (entries : List (String × α)) (name : String) :
    (map.insertAll entries).get? name = ((ofList entries).get? name).or (map.get? name) := by
  induction entries generalizing map with
  | nil => rfl
  | cons entry rest ih =>
    have first : (ofList (entry :: rest)).get? name =
        ((ofList rest).get? name).or ((empty.insert entry.1 entry.2).get? name) :=
      ih (empty.insert entry.1 entry.2)
    have whole := ih (map.insert entry.1 entry.2)
    rw [first, Option.or_assoc]
    refine whole.trans (congrArg _ ?_)
    rw [get?_insert, get?_insert, get?_empty]
    split <;> rfl

theorem get?_ofList_append (front back : List (String × α)) (name : String) :
    (ofList (front ++ back)).get? name =
      ((ofList back).get? name).or ((ofList front).get? name) := by
  rw [ofList, insertAll, List.foldl_append, ← insertAll, ← insertAll, get?_insertAll, ← ofList]

/-- Of two entries of one name the later counts. -/
theorem get?_ofList (entries : List (String × α)) (name : String) :
    (ofList entries).get? name = entries.reverse.lookup name := by
  induction entries with
  | nil => rfl
  | cons entry rest ih =>
    have first : (ofList [entry]).get? name = [entry].lookup name := by
      rw [ofList, insertAll, List.foldl_cons, List.foldl_nil, get?_insert, get?_empty,
        List.lookup_cons, List.lookup_nil]
      by_cases same : entry.1 = name
      · simp [same]
      · simp [same, beq_false_of_ne (Ne.symm same)]
    rw [List.reverse_cons, List.lookup_append, ← ih, ← first, ← get?_ofList_append,
      List.singleton_append]

theorem find?_mapValues {β : Type} (f : α → β) (name : String)
    (entries : List (String × α)) :
    find? name (entries.map fun entry => (entry.1, f entry.2)) = (find? name entries).map f := by
  induction entries with
  | nil => rfl
  | cons entry rest ih =>
    rw [List.map_cons, find?, find?, ih]
    split <;> rfl

/-- Maps whose look-ups agree up to a function list their values alike up to it. -/
theorem map_values_congr {β : Type} {f : α → β} {left right : NameMap α}
    (alike : ∀ name, (left.get? name).map f = (right.get? name).map f) :
    left.values.map f = right.values.map f := by
  let mapped (map : NameMap α) := map.entries.map fun entry => (entry.1, f entry.2)
  have ascending (map : NameMap α) : (mapped map).Pairwise fun a b => a.1 < b.1 :=
    List.pairwise_map.mpr map.ascending
  have same : mapped left = mapped right :=
    eq_of_find?_eq (ascending left) (ascending right) fun name => by
      rw [find?_mapValues, find?_mapValues]
      exact alike name
  have values (map : NameMap α) : map.values.map f = (mapped map).map (·.2) := by
    rw [NameMap.values, List.map_map, List.map_map]
    rfl
  rw [values, values, same]

theorem get?_ofList_mapValues {β : Type} (f : α → β) (entries : List (String × α))
    (name : String) :
    (ofList (entries.map fun entry => (entry.1, f entry.2))).get? name =
      ((ofList entries).get? name).map f := by
  induction entries with
  | nil => rfl
  | cons entry rest ih =>
    have first : (ofList [(entry.1, f entry.2)]).get? name =
        ((ofList [entry]).get? name).map f := by
      simp only [ofList, insertAll, List.foldl_cons, List.foldl_nil, get?_insert, get?_empty]
      split <;> rfl
    have split := get?_ofList_append [entry] rest name
    rw [List.map_cons, List.singleton_append.symm, get?_ofList_append, ih, first]
    rw [List.singleton_append] at split
    rw [split]
    cases (ofList rest).get? name <;> rfl

theorem get?_ofList_map (names : List String) (value : String → α) (name : String) :
    (ofList (names.map fun name => (name, value name))).get? name =
      if name ∈ names then some (value name) else none := by
  have present := isSome_get?_insertAll empty (names.map fun name => (name, value name)) name
  rw [← ofList, List.map_map] at present
  have same : (Prod.fst ∘ fun name => (name, value name)) = (id : String → String) := rfl
  rw [same, List.map_id, get?_empty] at present
  cases found : (ofList (names.map fun name => (name, value name))).get? name with
  | none =>
    rw [found] at present
    have absent : name ∉ names := fun member => by
      simp [member] at present
    rw [if_neg absent]
  | some other =>
    rcases mem_of_get?_insertAll found with early | member
    · cases early
    · obtain ⟨_, given, same⟩ := List.mem_map.mp member
      cases same
      rw [if_pos given]

/-- An entry is found when no two entries have one name. -/
theorem get?_ofList_of_mem {entries : List (String × α)} {name : String} {value : α}
    (distinct : (entries.map (·.1)).Nodup) (member : (name, value) ∈ entries) :
    (ofList entries).get? name = some value := by
  induction entries with
  | nil => cases member
  | cons entry rest ih =>
    rw [List.map_cons, List.nodup_cons] at distinct
    have split := get?_ofList_append [entry] rest name
    rw [List.singleton_append] at split
    rw [split]
    rcases List.mem_cons.mp member with rfl | later
    · have absent : (ofList rest).get? name = none := by
        cases found : (ofList rest).get? name with
        | none => rfl
        | some other =>
          rcases mem_of_get?_insertAll found with early | given
          · cases early
          · exact absurd (List.mem_map_of_mem given) distinct.1
      rw [absent]
      exact get?_insert_self empty name value
    · rw [ih distinct.2 later]
      rfl

/-- A map is made again from entries that it has and that name all it has. -/
theorem ofList_eq {map : NameMap α} {entries : List (String × α)}
    (agree : ∀ entry ∈ entries, map.get? entry.1 = some entry.2)
    (covered : ∀ name, (map.get? name).isSome = true → name ∈ entries.map (·.1)) :
    ofList entries = map := by
  refine ext_get? fun name => ?_
  cases found : (ofList entries).get? name with
  | some value =>
    rcases mem_of_get?_insertAll found with absent | member
    · cases absent
    · exact (agree _ member).symm
  | none =>
    cases kept : map.get? name with
    | none => rfl
    | some value =>
      have given := covered name (by rw [kept]; rfl)
      have some := (isSome_get?_insertAll empty entries name).mpr (Or.inr given)
      rw [← ofList, found] at some
      cases some

end NameMap

end TableQuery
