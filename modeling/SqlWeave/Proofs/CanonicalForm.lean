import SqlWeave.Proofs.RecordWrites
import SqlWeave.Query.Call
import SqlWeave.Sql.Compile

/-!
# Canonical statements

A statement does not tell in which order its arguments were put together.
Records are told apart by their last cells only, options by their last
registrations and by the sequence of their other settings, and the column
lists of an upsert by their members.
-/

namespace SqlWeave.Query

variable {Value : Type}

namespace SelectOptions

/-- One step of choosing options. -/
inductive Choice (Value : Type) where
  | orderBy (item : OrderItem Value)
  | limit (number : Nat)
  | offset (number : Nat)
  | columns (names : List String)
  | extra (key : String) (expression : Fragment Value)
  | lateral (key : String) (subselect : Fragment Value)
  | tableAlias (name : String)

namespace Choice

def apply (options : SelectOptions Value) : Choice Value → SelectOptions Value
  | .orderBy item => options.orderBy item
  | .limit number => options.withLimit number
  | .offset number => options.withOffset number
  | .columns names => options.withColumns names
  | .extra key expression => options.extra key expression
  | .lateral key subselect => options.lateral key subselect
  | .tableAlias name => options.withAlias name

/-- The ordering item that is appended. -/
def item? : Choice Value → Option (OrderItem Value)
  | .orderBy item => some item
  | _ => none

/-- The computed value that is registered, with its key. -/
def extra? : Choice Value → Option (String × Fragment Value)
  | .extra key expression => some (key, expression)
  | _ => none

/-- The sub-select that is registered, with its key. -/
def lateral? : Choice Value → Option (String × Fragment Value)
  | .lateral key subselect => some (key, subselect)
  | _ => none

def isRegistration (choice : Choice Value) : Bool := choice.extra?.isSome || choice.lateral?.isSome

end Choice

/-- The options after all choices. -/
def chosen (choices : List (Choice Value)) : SelectOptions Value := choices.foldl Choice.apply {}

/-- The computed value that is registered last under a key. -/
def lastExtra? (choices : List (Choice Value)) (key : String) : Option (Fragment Value) :=
  KeyMap.lastValue? (choices.filterMap Choice.extra?) key

/-- The sub-select that is registered last under a key. -/
def lastLateral? (choices : List (Choice Value)) (key : String) : Option (Fragment Value) :=
  KeyMap.lastValue? (choices.filterMap Choice.lateral?) key

/-- The choices that register nothing, in order. -/
def settings (choices : List (Choice Value)) : List (Choice Value) :=
  choices.filter fun choice => !choice.isRegistration

/-- The options without what is registered under keys. -/
def withoutKeyed (options : SelectOptions Value) : SelectOptions Value :=
  { options with extras := ∅, laterals := ∅ }

theorem extras_foldl_apply (choices : List (Choice Value)) (options : SelectOptions Value) :
    (choices.foldl Choice.apply options).extras =
      options.extras.insertAll (choices.filterMap Choice.extra?) := by
  induction choices generalizing options with
  | nil => rfl
  | cons choice rest ih =>
      rw [List.foldl_cons, ih]
      cases choice <;> rfl

theorem laterals_foldl_apply (choices : List (Choice Value)) (options : SelectOptions Value) :
    (choices.foldl Choice.apply options).laterals =
      options.laterals.insertAll (choices.filterMap Choice.lateral?) := by
  induction choices generalizing options with
  | nil => rfl
  | cons choice rest ih =>
      rw [List.foldl_cons, ih]
      cases choice <;> rfl

theorem order_foldl_apply (choices : List (Choice Value)) (options : SelectOptions Value) :
    (choices.foldl Choice.apply options).order =
      options.order ++ choices.filterMap Choice.item? := by
  induction choices generalizing options with
  | nil => exact (List.append_nil _).symm
  | cons choice rest ih =>
      rw [List.foldl_cons, ih]
      cases choice with
      | orderBy item => exact List.append_assoc options.order [item] _
      | limit | offset | columns | extra | lateral | tableAlias => rfl

/-- Ordering items stand in the order of their choices. -/
theorem order_chosen (choices : List (Choice Value)) :
    (chosen choices).order = choices.filterMap Choice.item? :=
  order_foldl_apply choices {}

/-- What the settings say does not depend on what is registered between them. -/
theorem withoutKeyed_foldl_apply (choices : List (Choice Value)) (options : SelectOptions Value) :
    (choices.foldl Choice.apply options).withoutKeyed =
      (settings choices).foldl Choice.apply options.withoutKeyed := by
  induction choices generalizing options with
  | nil => rfl
  | cons choice rest ih =>
      rw [List.foldl_cons, ih]
      cases choice <;> rfl

/-- Computed values are found under their keys as they were registered last. -/
theorem get?_extras_chosen (choices : List (Choice Value)) (key : String) :
    (chosen choices).extras.get? key = lastExtra? choices key := by
  rw [chosen, extras_foldl_apply, lastExtra?]
  exact KeyMap.get?_ofList _ key

/-- Sub-selects are found under their keys as they were registered last. -/
theorem get?_laterals_chosen (choices : List (Choice Value)) (key : String) :
    (chosen choices).laterals.get? key = lastLateral? choices key := by
  rw [chosen, laterals_foldl_apply, lastLateral?]
  exact KeyMap.get?_ofList _ key

/-- Options are known by their keyed maps and the rest. -/
theorem eq_of_withoutKeyed {left right : SelectOptions Value}
    (hextras : left.extras = right.extras) (hlaterals : left.laterals = right.laterals)
    (hrest : left.withoutKeyed = right.withoutKeyed) : left = right := by
  obtain ⟨_, _, _, _, _, _, _⟩ := left
  obtain ⟨_, _, _, _, _, _, _⟩ := right
  cases hextras
  cases hlaterals
  cases hrest
  rfl

/-- Choices with the same last registrations and the same settings give the same options. -/
theorem chosen_eq_of_last {left right : List (Choice Value)}
    (hextras : ∀ key, lastExtra? left key = lastExtra? right key)
    (hlaterals : ∀ key, lastLateral? left key = lastLateral? right key)
    (hsettings : settings left = settings right) : chosen left = chosen right := by
  refine eq_of_withoutKeyed (KeyMap.ext_get? fun key => ?_) (KeyMap.ext_get? fun key => ?_) ?_
  · rw [get?_extras_chosen, get?_extras_chosen, hextras]
  · rw [get?_laterals_chosen, get?_laterals_chosen, hlaterals]
  · rw [chosen, chosen, withoutKeyed_foldl_apply, withoutKeyed_foldl_apply, hsettings]

end SelectOptions

theorem updatedValue_eq_of_mem_iff (table : String) {noNull others : List String}
    (hmem : ∀ column, column ∈ noNull ↔ column ∈ others) :
    (updatedValue table noNull : String → Node Value) = updatedValue table others := by
  funext column
  have hcontains : noNull.contains column = others.contains column := by
    rw [Bool.eq_iff_iff, List.contains_iff_mem, List.contains_iff_mem, hmem]
  rw [updatedValue, updatedValue, hcontains]

/-- The column lists of an upsert count as sets. -/
theorem upsert_eq_of_mem_iff (table : String) (rows : Rows Value)
    {unique noNull otherUnique otherNoNull : List String}
    (hunique : ∀ column, column ∈ unique ↔ column ∈ otherUnique)
    (hnoNull : ∀ column, column ∈ noNull ↔ column ∈ otherNoNull) :
    upsert table rows unique noNull = upsert table rows otherUnique otherNoNull := by
  rw [upsert, upsert, NameSet.ofNames_eq_of_mem_iff hunique,
    updatedValue_eq_of_mem_iff table hnoNull]

/-- Statements do not depend on the order in which their arguments were built.
A record that is built by writes holds for every column the cell that was
written there last, with its columns in ascending order; so records with the
same last cells are interchangeable in every tree and every call: as a
condition, as a row, among the rows of a batch, or for their column list.  A
select depends on the last computed value and the last sub-select of every key,
wherever they were registered between the other choices, and the column lists
of an upsert count as sets. -/
theorem compile_does_not_depend_on_order_of_construction :
    (∀ writes : List (Record.Write Value),
      (Record.written writes).columns.Pairwise (· < ·) ∧
      (∀ column, column ∈ (Record.written writes).columns ↔
        (Record.lastCell? writes column).isSome) ∧
      ∀ column, (Record.written writes).get? column = Record.lastCell? writes column) ∧
    (∀ left right : List (Record.Write Value),
      (∀ column, Record.lastCell? left column = Record.lastCell? right column) →
      (∀ (tree : Record Value → Node Value) (scope : Scope) (out : Compiled Value),
        ((tree (Record.written left)).weave scope).run out =
          ((tree (Record.written right)).weave scope).run out) ∧
      ∀ (call : Record Value → Call Value) (scope : Scope) (out : Compiled Value),
        ((call (Record.written left)).statement.weave scope).run out =
          ((call (Record.written right)).statement.weave scope).run out) ∧
    (∀ left right : List (SelectOptions.Choice Value),
      (∀ key, SelectOptions.lastExtra? left key = SelectOptions.lastExtra? right key) →
      (∀ key, SelectOptions.lastLateral? left key = SelectOptions.lastLateral? right key) →
      SelectOptions.settings left = SelectOptions.settings right →
      ∀ (table : String) (filter : Filter Value) (mode : SelectMode),
        selectMode table filter (SelectOptions.chosen left) mode =
          selectMode table filter (SelectOptions.chosen right) mode) ∧
    (∀ (table : String) (rows : Rows Value)
      (unique noNull otherUnique otherNoNull : List String),
      (∀ column, column ∈ unique ↔ column ∈ otherUnique) →
      (∀ column, column ∈ noNull ↔ column ∈ otherNoNull) →
      upsert table rows unique noNull = upsert table rows otherUnique otherNoNull) := by
  refine ⟨?_, ?_, ?_, ?_⟩
  · intro writes
    exact ⟨KeyMap.pairwise_keys _, Record.mem_columns_written_iff writes,
      Record.get?_written writes⟩
  · intro left right hlast
    have hrecord := Record.written_eq_of_lastCell? hlast
    constructor
    · intro tree scope out
      rw [hrecord]
    · intro call scope out
      rw [hrecord]
  · intro left right hextras hlaterals hsettings table filter mode
    rw [SelectOptions.chosen_eq_of_last hextras hlaterals hsettings]
  · intro table rows unique noNull otherUnique otherNoNull hunique hnoNull
    exact upsert_eq_of_mem_iff table rows hunique hnoNull

/-- A member of a batch that was set column by column or collected, a select
whose computed value is registered twice, and an upsert whose key repeats a column. -/
theorem compile_does_not_depend_on_order_of_columns :
    let byColumn : List (Record.Write Nat) :=
      [.set "b" (.value 1), .setDefault "a", .replace "a" (.value 2)]
    let collected : List (Record.Write Nat) :=
      [.set "c" .default, .collect [("a", .value 5), ("b", .value 1), ("a", .value 2)]]
    let batch (record : Record Nat) : Call Nat := .insert "t" (.many [∅, record])
    let twice : List (SelectOptions.Choice Nat) :=
      [.extra "x" (.ofText "1"), .limit 3, .lateral "l" (.ofText "SELECT"),
        .extra "x" (.ofText "2")]
    let once : List (SelectOptions.Choice Nat) :=
      [.lateral "l" (.ofText "SELECT"), .extra "x" (.ofText "2"), .limit 3]
    (∀ column, Record.lastCell? byColumn column = Record.lastCell? collected column) ∧
    (batch (Record.written byColumn)).statement.compile =
      (batch (Record.written collected)).statement.compile ∧
    selectMode "t" .all (SelectOptions.chosen twice) .many =
      selectMode "t" .all (SelectOptions.chosen once) .many ∧
    upsert "t" (.one (Record.written byColumn)) ["b", "a", "b"] ["a", "a"] =
      upsert "t" (.one (Record.written byColumn)) ["a", "b"] ["a"] := by
  intro byColumn collected batch twice once
  have hlast : ∀ column, Record.lastCell? byColumn column = Record.lastCell? collected column := by
    intro column
    change [("a", Cell.value 2), ("a", .default), ("b", .value 1)].lookup column =
      [("a", Cell.value 2), ("b", .value 1), ("a", .value 5)].lookup column
    simp only [List.lookup_cons, List.lookup_nil]
    cases column == "a" <;> cases column == "b" <;> rfl
  have hextras : ∀ key, SelectOptions.lastExtra? twice key = SelectOptions.lastExtra? once key := by
    intro key
    change [("x", Fragment.ofText "2"), ("x", .ofText "1")].lookup key =
      [("x", Fragment.ofText "2")].lookup key
    simp only [List.lookup_cons, List.lookup_nil]
    cases key == "x" <;> rfl
  obtain ⟨-, hrecords, hselects, hupserts⟩ :=
    @compile_does_not_depend_on_order_of_construction Nat
  refine ⟨hlast, ?_, ?_, ?_⟩
  · have hrun := (hrecords byColumn collected hlast).2 batch Scope.root {}
    rw [Fragment.compile, hrun, Fragment.compile]
  · exact hselects twice once hextras (fun _ => rfl) rfl "t" .all .many
  · exact hupserts "t" _ _ _ _ _ (by simp [or_comm]) (by simp)

end SqlWeave.Query
