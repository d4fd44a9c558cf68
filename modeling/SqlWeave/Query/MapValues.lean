import SqlWeave.Query.Call
import SqlWeave.Sql.MapValues

/-!
# Replacing bound values in calls

The arguments of a call with every bound value replaced by a function of it.
Main statement: the statement of a call looks at no value, so replacing values
in the arguments replaces them in the statement and does nothing else.
-/

namespace SqlWeave.Query

variable {Value Image : Type} (change : Value → Image)

def Condition.map : Condition Value → Condition Image
  | .matching record => .matching (Record.map change record)
  | .sql fragment => .sql (fragment.map change)

def Filter.map : Filter Value → Filter Image
  | .all => .all
  | .only condition => .only (condition.map change)

def Rows.map : Rows Value → Rows Image
  | .one record => .one (Record.map change record)
  | .many records => .many (records.map (Record.map change))

def OrderItem.map (item : OrderItem Value) : OrderItem Image where
  expression := item.expression.map change
  direction := item.direction
  nulls := item.nulls

def SelectOptions.map (options : SelectOptions Value) : SelectOptions Image where
  order := options.order.map (OrderItem.map change)
  limit := options.limit
  offset := options.offset
  columns := options.columns
  extras := options.extras.mapEntries fun _ expression => expression.map change
  laterals := options.laterals.mapEntries fun _ subselect => subselect.map change
  tableAlias := options.tableAlias

/-- Replace every value that the arguments of a call bind. -/
def Call.map : Call Value → Call Image
  | .insert table rows => .insert table (rows.map change)
  | .upsert table rows uniqueColumns noNull => .upsert table (rows.map change) uniqueColumns noNull
  | .update table values condition =>
    .update table (Record.map change values) (condition.map change)
  | .delete table condition => .delete table (condition.map change)
  | .truncate tables options => .truncate tables options
  | .selectMode table filter options mode =>
    .selectMode table (filter.map change) (options.map change) mode
  | .select table filter options => .select table (filter.map change) (options.map change)
  | .selectOne table filter options => .selectOne table (filter.map change) (options.map change)
  | .count table filter options => .count table (filter.map change) options

@[simp]
theorem map_qualified (table column : String) :
    (qualified table column : Node Value).map change = qualified table column := by
  simp [qualified]

@[simp]
theorem map_rowJson (table : String) :
    (rowJson table : Node Value).map change = rowJson table := by
  simp [rowJson]

@[simp]
theorem map_jsonObject (pairs : List (String × Node Value)) :
    (jsonObject pairs).map change =
      jsonObject (pairs.map fun pair => (pair.1, pair.2.map change)) := by
  simp [jsonObject, jsonPair, Function.comp_def]

@[simp]
theorem map_jsonMerge (pairs : List (String × Node Value)) :
    (jsonMerge pairs).map change =
      jsonMerge (pairs.map fun pair => (pair.1, pair.2.map change)) := by
  cases pairs with
  | nil => exact Node.map_empty change
  | cons pair pairs => simp [jsonMerge]

@[simp]
theorem map_condition (condition : Condition Value) :
    condition.node.map change = (condition.map change).node := by
  cases condition <;> simp [Condition.node, Condition.map]

section Rows

/-- The columns of rows are not changed with their values. -/
theorem columnUnion_map (records : List (Record Value)) :
    columnUnion (records.map (Record.map change)) = columnUnion records := by
  simp [columnUnion, List.foldl_map]

theorem map_fillDefault (record : Record Value) (column : String) :
    Record.map change (fillDefault record column) =
      fillDefault (Record.map change record) column := by
  have hcontains : (Record.map change record).contains column = record.contains column := by
    rw [KeyMap.contains, Record.map, KeyMap.get?_mapEntries, Option.isSome_map, KeyMap.contains]
  rw [fillDefault, fillDefault, hcontains]
  split
  · rfl
  · exact KeyMap.mapEntries_insert record column .default _

/-- Where a record has gaps does not depend on its values. -/
theorem map_fillDefaults (columns : NameSet) (record : Record Value) :
    Record.map change (fillDefaults columns record) =
      fillDefaults columns (Record.map change record) := by
  rw [fillDefaults, fillDefaults]
  generalize columns.keys = names
  induction names generalizing record with
  | nil => rfl
  | cons name names ih => rw [List.foldl_cons, ih, map_fillDefault, List.foldl_cons]

def TupleSource.map : TupleSource Value → TupleSource Image
  | .nothing => .nothing
  | .defaults count => .defaults count
  | .tuples columns rows => .tuples columns (rows.map (Record.map change))

@[simp]
theorem Rows.shape_map (rows : Rows Value) : (rows.map change).shape = rows.shape := by
  cases rows <;> rfl

@[simp]
theorem Rows.records_map (rows : Rows Value) :
    (rows.map change).records = rows.records.map (Record.map change) := by
  cases rows <;> rfl

@[simp]
theorem Rows.source_map (rows : Rows Value) :
    (rows.map change).source = rows.source.map change := by
  cases rows with
  | one record =>
      simp only [Rows.map, source, Record.isEmpty_map, Record.columns_map]
      split <;> rfl
  | many records =>
      simp only [Rows.map, source, columnUnion_map, List.isEmpty_map, List.length_map]
      split
      · rfl
      · split
        · rfl
        · simp [TupleSource.map, map_fillDefaults]

@[simp]
theorem TupleSource.columns_map (source : TupleSource Value) :
    (source.map change).columns = source.columns := by
  cases source <;> rfl

@[simp]
theorem map_insertInto (table : String) (source : TupleSource Value) :
    (insertInto table source).map change = insertInto table (source.map change) := by
  cases source with
  | nothing => simp [insertInto, TupleSource.map, TupleSource.pushOnto, Fragment.pushIdent]
  | defaults count =>
      by_cases hone : count = 1 <;>
        simp [insertInto, TupleSource.map, TupleSource.pushOnto, Fragment.pushIdent,
          Fragment.pushRaw, hone]
  | tuples columns rows =>
      simp [insertInto, TupleSource.map, TupleSource.pushOnto, TupleSource.tuple,
        Fragment.pushIdent, Function.comp_def]

@[simp]
theorem map_insert (table : String) (rows : Rows Value) :
    (insert table rows).map change = insert table (rows.map change) := by
  rw [insert, insert, Rows.source_map]
  cases rows.source <;> simp [TupleSource.map, nothingInserted]

theorem map_updatedValue (table : String) (noNull : List String) (column : String) :
    (updatedValue table noNull column : Node Value).map change =
      updatedValue table noNull column := by
  rw [updatedValue, updatedValue]
  split <;> simp [excludedUnlessNull, excluded]

@[simp]
theorem map_upsert (table : String) (rows : Rows Value) (uniqueColumns noNull : List String) :
    (upsert table rows uniqueColumns noNull).map change =
      upsert table (rows.map change) uniqueColumns noNull := by
  rw [upsert, upsert, Rows.source_map]
  cases rows.source <;>
    simp [TupleSource.map, nothingInserted, TupleSource.columns, map_updatedValue,
      Function.comp_def]

end Rows

@[simp]
theorem map_update (table : String) (values : Record Value) (condition : Condition Value) :
    (update table values condition).map change =
      update table (Record.map change values) (condition.map change) := by
  rw [update, update, Record.isEmpty_map]
  split <;>
    simp [readMatching, Fragment.pushIdent, Fragment.pushColumns, Fragment.pushValues]

@[simp]
theorem map_delete (table : String) (condition : Condition Value) :
    (delete table condition).map change = delete table (condition.map change) := by
  simp [delete, Fragment.pushIdent]

@[simp]
theorem map_truncate (tables : List String) (options : TruncateOptions) :
    (truncate tables options : Fragment Value).map change = truncate tables options := by
  have hkeyword : ∀ (statement : Fragment Value) (keyword : Option String),
      (pushKeyword statement keyword).map change = pushKeyword (statement.map change) keyword := by
    intro statement keyword
    cases keyword <;> simp [pushKeyword, Fragment.pushRaw]
  simp [truncate, hkeyword, Function.comp_def]

section Select

@[simp]
theorem OrderItem.map_node (item : OrderItem Value) :
    item.node.map change = (item.map change).node := by
  cases item with
  | mk expression direction nulls => cases nulls <;> simp [node, OrderItem.map]

@[simp]
theorem map_rowProjection (tableRef : String) (columns : Option (List String)) :
    (rowProjection tableRef columns : Node Value).map change = rowProjection tableRef columns := by
  cases columns <;> simp [rowProjection, Function.comp_def]

@[simp]
theorem map_countProjection (columns : Option (List String)) :
    (countProjection columns : Node Value).map change = countProjection columns := by
  rw [countProjection.eq_def, countProjection.eq_def]
  split <;> simp [Function.comp_def]

@[simp]
theorem map_mergeLaterals (subselects : KeyMap (Fragment Value)) :
    (mergeLaterals subselects).map change =
      mergeLaterals (subselects.mapEntries fun _ subselect => subselect.map change) := by
  simp [mergeLaterals, lateralResult, Function.comp_def]

@[simp]
theorem map_joinLaterals (tableRef : String) (subselects : KeyMap (Fragment Value)) :
    (joinLaterals tableRef subselects).map change =
      joinLaterals tableRef (subselects.mapEntries fun _ subselect => subselect.map change) := by
  simp [joinLaterals, joinLateral, Function.comp_def]

@[simp]
theorem map_extrasProjection (extras : KeyMap (Fragment Value)) :
    (extrasProjection extras).map change =
      extrasProjection (extras.mapEntries fun _ expression => expression.map change) := by
  simp [extrasProjection, Function.comp_def]

@[simp]
theorem map_pushFilter (statement : Fragment Value) (filter : Filter Value) :
    (pushFilter statement filter).map change =
      pushFilter (statement.map change) (filter.map change) := by
  cases filter <;> simp [pushFilter, Filter.map]

@[simp]
theorem map_pushOrder (statement : Fragment Value) (order : List (OrderItem Value)) :
    (pushOrder statement order).map change =
      pushOrder (statement.map change) (order.map (OrderItem.map change)) := by
  cases order <;> simp [pushOrder, Function.comp_def]

@[simp]
theorem map_pushNumber (statement : Fragment Value) (keyword : String) (number : Option Nat) :
    (pushNumber statement keyword number).map change =
      pushNumber (statement.map change) keyword number := by
  cases number <;> simp [pushNumber, Fragment.pushRaw]

@[simp]
theorem map_pushProjection (statement : Fragment Value) (tableRef : String)
    (options : SelectOptions Value) (mode : SelectMode) :
    (pushProjection statement tableRef options mode).map change =
      pushProjection (statement.map change) tableRef (options.map change) mode := by
  cases mode <;> simp [pushProjection, SelectOptions.map]

@[simp]
theorem map_pushSource (statement : Fragment Value) (table : String)
    (options : SelectOptions Value) (mode : SelectMode) :
    (pushSource statement table options mode).map change =
      pushSource (statement.map change) table (options.map change) mode := by
  cases mode <;> cases halias : options.tableAlias <;>
    simp [pushSource, SelectOptions.map, SelectOptions.tableRef, Fragment.pushIdent, halias]

namespace SelectOptions

@[simp]
theorem order_map (options : SelectOptions Value) :
    (options.map change).order = options.order.map (OrderItem.map change) := rfl

@[simp]
theorem limit_map (options : SelectOptions Value) :
    (options.map change).limit = options.limit := rfl

@[simp]
theorem offset_map (options : SelectOptions Value) :
    (options.map change).offset = options.offset := rfl

@[simp]
theorem tableRef_map (options : SelectOptions Value) (table : String) :
    (options.map change).tableRef table = options.tableRef table := rfl

@[simp]
theorem map_forMode (options : SelectOptions Value) (mode : SelectMode) :
    (options.forMode mode).map change = (options.map change).forMode mode := by
  cases mode <;> rfl

end SelectOptions

@[simp]
theorem map_selectRows (table : String) (filter : Filter Value) (options : SelectOptions Value)
    (mode : SelectMode) :
    (selectRows table filter options mode).map change =
      selectRows table (filter.map change) (options.map change) mode := by
  simp [selectRows]

@[simp]
theorem map_selectMode (table : String) (filter : Filter Value) (options : SelectOptions Value)
    (mode : SelectMode) :
    (selectMode table filter options mode).map change =
      selectMode table (filter.map change) (options.map change) mode := by
  cases mode <;> simp [selectMode, aggregate, Fragment.pushFragment, Fragment.pushIdent]

end Select

/-- A statement is made without a look at the values. -/
theorem Call.map_statement (call : Call Value) :
    call.statement.map change = (call.map change).statement := by
  cases call with
  | insert table rows => exact map_insert change table rows
  | upsert table rows uniqueColumns noNull => exact map_upsert change table rows uniqueColumns noNull
  | update table values condition => exact map_update change table values condition
  | delete table condition => exact map_delete change table condition
  | truncate tables options => exact map_truncate change tables options
  | selectMode table filter options mode => exact map_selectMode change table filter options mode
  | select table filter options => exact map_selectMode change table filter options .many
  | selectOne table filter options => exact map_selectMode change table filter options .one
  | count table filter options =>
      exact map_selectMode change table filter options.toSelect .count

end SqlWeave.Query
