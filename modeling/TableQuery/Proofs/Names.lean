import TableQuery.Proofs.RenderedTokens

/-!
What the names of a statement cannot look like.

A name has neither a dot nor a parenthesis. So a qualified name falls into its two parts
at its first dot, and the label of an aggregate falls into the function and the operand
at its first parenthesis: neither can be taken for a name of another kind.
-/

namespace TableQuery

/-! ## Columns -/

theorem toList_qualified (table column : String) :
    (qualified table column).toList = table.toList ++ '.' :: column.toList := by
  simp [qualified]

theorem qualified_inj {table column other : String}
    (same : qualified table column = qualified table other) : column = other := by
  rw [← String.toList_inj, toList_qualified, toList_qualified] at same
  exact String.toList_inj.mp (List.cons.inj (List.append_cancel_left same)).2

theorem splitFirst?_qualified {table : String} (undotted : '.' ∉ table.toList) (column : String) :
    Text.splitFirst? '.' (qualified table column).toList = some (table.toList, column.toList) := by
  rw [toList_qualified, Text.splitFirst?_append undotted]

theorem isColumn_of_isName {name : String} (named : isName name = true) :
    isColumn name = true := by
  rw [isColumn, splitFirst?_of_isName named, named]

theorem isColumn_qualified {table column : String} (table_named : isName table = true)
    (column_named : isName column = true) : isColumn (qualified table column) = true := by
  rw [isColumn, splitFirst?_qualified (not_mem_of_isName table_named (by decide))]
  simp only [String.ofList_toList, table_named, column_named, Bool.and_self]

/-- A column is one name or two with a dot. -/
theorem isColumn_cases {column : String} (written : isColumn column = true) :
    isName column = true ∨
      ∃ table name, isName table = true ∧ isName name = true ∧ column = qualified table name := by
  unfold isColumn at written
  split at written
  · exact Or.inl written
  · rename_i table name split
    rw [Bool.and_eq_true] at written
    obtain ⟨shape, _⟩ := Text.splitFirst?_eq_some split
    refine Or.inr ⟨_, _, written.1, written.2, ?_⟩
    rw [← String.toList_inj, toList_qualified, shape, String.toList_ofList, String.toList_ofList]

/-- A column is made of the characters of names and dots. -/
theorem not_mem_of_isColumn {column : String} (written : isColumn column = true) {c : Char}
    (outside : Token.continuesIdent c = false) (noDot : c ≠ '.') : c ∉ column.toList := by
  rcases isColumn_cases written with named | ⟨table, name, first, second, rfl⟩
  · exact not_mem_of_isName named outside
  · simp [qualified, not_mem_of_isName first outside, not_mem_of_isName second outside, noDot]

/-! ## Labels of aggregates -/

theorem toList_label (function operand : String) :
    (Expression.call function operand).label.toList =
      function.toList ++ '(' :: (operand.toList ++ [')']) := by
  simp [Expression.label]

theorem splitFirst?_label {function : String} (noParen : '(' ∉ function.toList)
    (operand : String) :
    Text.splitFirst? '(' (Expression.label (.call function operand)).toList =
      some (function.toList, operand.toList ++ [')']) := by
  rw [toList_label, Text.splitFirst?_append noParen]

theorem not_mem_of_function {name : String} {function : AggregateFunction}
    (known : AggregateFunction.ofName? name = some function) {c : Char}
    (outside : Token.continuesIdent c = false) : c ∉ name.toList :=
  not_mem_of_isName (isName_of_isFunction (Option.isSome_of_eq_some known)) outside

/-- The label of an aggregate tells its function and its operand. -/
theorem Expression.label_call_inj {name other operand otherOperand : String}
    {function otherFunction : AggregateFunction}
    (known : AggregateFunction.ofName? name = some function)
    (otherKnown : AggregateFunction.ofName? other = some otherFunction)
    (same : label (.call name operand) = label (.call other otherOperand)) :
    name = other ∧ operand = otherOperand := by
  have split := splitFirst?_label (not_mem_of_function known (by decide)) operand
  rw [same, splitFirst?_label (not_mem_of_function otherKnown (by decide))] at split
  obtain ⟨names, operands⟩ := Prod.mk.inj (Option.some.inj split)
  exact ⟨(String.toList_inj.mp names).symm,
    (String.toList_inj.mp (List.append_cancel_right operands)).symm⟩

/-! ## Lists of names -/

section Mentions

variable {names : List String}

/-- Names that are added to a list unless it has them. -/
theorem mem_foldl_mention {seen : List String} {name : String} :
    name ∈ names.foldl (fun seen name => if seen.contains name then seen else seen ++ [name])
      seen ↔ name ∈ seen ∨ name ∈ names := by
  induction names generalizing seen with
  | nil => simp
  | cons first names ih =>
    rw [List.foldl_cons, ih, List.mem_cons, ← or_assoc]
    refine or_congr_left ?_
    split
    · rename_i known
      exact ⟨Or.inl, fun either => either.elim id fun same => same ▸ List.contains_iff_mem.mp known⟩
    · simp

/-- What is added is what the list does not have, each name once. -/
theorem foldl_mention_eq (seen : List String) :
    names.foldl (fun seen name => if seen.contains name then seen else seen ++ [name]) seen =
      seen ++ (names.foldl
        (fun seen name => if seen.contains name then seen else seen ++ [name]) []).filter
          fun name => !seen.contains name := by
  induction names generalizing seen with
  | nil => simp
  | cons first names ih =>
    have alone := ih [first]
    have start : (if ([] : List String).contains first then [] else [] ++ [first]) = [first] := rfl
    rw [List.foldl_cons, List.foldl_cons, start, alone, List.filter_append, List.filter_filter]
    by_cases known : first ∈ seen
    · have dropped : [first].filter (fun name => !seen.contains name) = [] := by simp [known]
      rw [if_pos (List.contains_iff_mem.mpr known), ih, dropped]
      refine congrArg (seen ++ ·) (List.filter_congr fun name _ => ?_)
      by_cases same : name = first
      · simp [same, known]
      · simp [same]
    · have kept : [first].filter (fun name => !seen.contains name) = [first] := by simp [known]
      rw [if_neg fun has => known (List.contains_iff_mem.mp has), ih, kept, List.append_assoc]
      refine congrArg (fun more => seen ++ ([first] ++ more)) (List.filter_congr fun name _ => ?_)
      simp [List.mem_append]

theorem nodup_foldl_mention {seen : List String} (distinct : seen.Nodup) :
    (names.foldl (fun seen name => if seen.contains name then seen else seen ++ [name])
      seen).Nodup := by
  induction names generalizing seen with
  | nil => exact distinct
  | cons first names ih =>
    rw [List.foldl_cons]
    refine ih ?_
    split
    · exact distinct
    · rename_i new
      refine List.nodup_append.mpr ⟨distinct, by simp, fun name known other same => ?_⟩
      cases List.mem_singleton.mp same
      rintro rfl
      exact new (List.contains_iff_mem.mpr known)

/-- Distinct names that a list does not have are all added. -/
theorem foldl_mention_of_nodup {seen : List String} (distinct : names.Nodup)
    (new : ∀ name ∈ names, name ∉ seen) :
    names.foldl (fun seen name => if seen.contains name then seen else seen ++ [name]) seen =
      seen ++ names := by
  induction names generalizing seen with
  | nil => simp
  | cons first names ih =>
    rw [List.nodup_cons] at distinct
    have notYet : ¬ seen.contains first = true := fun has =>
      new first List.mem_cons_self (List.contains_iff_mem.mp has)
    rw [List.foldl_cons, if_neg notYet, ih distinct.2, List.append_assoc, List.singleton_append]
    intro name member known
    rcases List.mem_append.mp known with early | here
    · exact new name (List.mem_cons_of_mem _ member) early
    · cases List.mem_singleton.mp here
      exact distinct.1 member

/-- Names that a list has are not added. -/
theorem foldl_mention_of_subset {seen : List String} (known : ∀ name ∈ names, name ∈ seen) :
    names.foldl (fun seen name => if seen.contains name then seen else seen ++ [name]) seen =
      seen := by
  rw [foldl_mention_eq, List.filter_eq_nil_iff.mpr, List.append_nil]
  intro name mentioned
  have given : name ∈ names := by simpa using mem_foldl_mention.mp mentioned
  simp [known name given]

/-- The first find among names that are added to a list is the first among all of them. -/
theorem findSome?_foldl_mention {α : Type} (find : String → Option α) (seen : List String) :
    (names.foldl (fun seen name => if seen.contains name then seen else seen ++ [name])
      seen).findSome? find = (seen.findSome? find).or (names.findSome? find) := by
  induction names generalizing seen with
  | nil => simp
  | cons first names ih =>
    rw [List.foldl_cons, ih, List.findSome?_cons]
    split
    · rename_i known
      -- a name that is there already is found there, if at all
      cases here : seen.findSome? find with
      | some found => rfl
      | none =>
        rw [List.findSome?_eq_none_iff.mp here first (List.contains_iff_mem.mp known)]
    · rw [List.findSome?_append, Option.or_assoc, List.findSome?_singleton]
      cases find first <;> rfl

end Mentions

end TableQuery
