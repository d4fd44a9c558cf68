import SqlWeave.Proofs.BuiltSites
import SqlWeave.Proofs.Readings
import SqlWeave.Query.Call

/-!
# Readings of built statements

What a built statement comes down to, put together from names, fixed text and
the readings of the nodes that callers put into it.  Parentheses that belong
together stand in one equation, whichever literals they come from.  Main
statement: a call reads like its clauses, one behind the other.
-/

namespace SqlWeave.Query

open Reading

variable {Value : Type}

/-- A fragment without an alias of its own stands under the one that it is given. -/
theorem reading_withParentAlias (scope : Scope) {fragment : Fragment Value} (tableAlias : String)
    (halias : fragment.parentAlias = none) :
    (fragment.withParentAlias tableAlias).reading scope =
      fragment.reading (scope.withParent tableAlias) := by
  obtain ⟨segments, last, shape, parentAlias⟩ := fragment
  obtain rfl : parentAlias = none := halias
  simp [Fragment.reading, Fragment.withParentAlias, Fragment.pieces, Scope.enter]

@[simp]
theorem reading_qualified (scope : Scope) (table column : String) :
    (qualified table column : Node Value).reading scope =
      name table ++ literal "." ++ name column := by
  simp [qualified, append_assoc]

@[simp]
theorem reading_rowJson (scope : Scope) (table : String) :
    (rowJson table : Node Value).reading scope =
      literal "to_jsonb" ++ parenthesized (name table ++ literal ".*") := by
  simp [rowJson, parenthesized, append_assoc, literal_append_literal,
    literal_append_literal_append]

@[simp]
theorem reading_jsonObject (scope : Scope) (pairs : List (String × Node Value)) :
    (jsonObject pairs).reading scope =
      literal "jsonb_build_object" ++ parenthesized (separated ", " (pairs.map fun pair =>
        literal ("'" ++ pair.1 ++ "', ") ++ pair.2.reading scope)) := by
  simp [jsonObject, jsonPair, parenthesized, append_assoc, literal_append_literal_append,
    Function.comp_def]

theorem reading_jsonMerge (scope : Scope) (pairs : List (String × Node Value)) :
    (jsonMerge pairs).reading scope =
      if pairs.isEmpty then literal "" else literal " || " ++ (jsonObject pairs).reading scope := by
  cases pairs with
  | nil => exact Node.reading_empty scope
  | cons pair pairs => simp [jsonMerge]

@[simp]
theorem reading_columnsOf (scope : Scope) (record : Record Value) :
    (Node.columnsOf record).reading scope = separated ", " (record.columns.map .name) :=
  Node.reading_columns scope record.columns

section Insert

@[simp]
theorem reading_tuple (scope : Scope) (row : Record Value) :
    (TupleSource.tuple row).reading scope =
      parenthesized ((Node.valuesOf row).reading scope) := by
  simp [TupleSource.tuple, parenthesized, append_assoc]

/-- What follows the table of an insert. -/
def TupleSource.reading (scope : Scope) : TupleSource Value → Reading Value
  | .nothing => literal ""
  | .defaults 1 => literal " DEFAULT VALUES"
  | .defaults count =>
    literal " SELECT FROM generate_series" ++ parenthesized (literal ("1, " ++ toString count))
  | .tuples columns rows =>
    literal " " ++ parenthesized (separated ", " (columns.map .name)) ++ literal " VALUES " ++
      separated ", " (rows.map fun row => parenthesized ((Node.valuesOf row).reading scope))

@[simp]
theorem reading_insertInto (scope : Scope) (table : String) (source : TupleSource Value) :
    (insertInto table source).reading scope =
      literal "INSERT INTO " ++ name table ++ source.reading scope := by
  cases source with
  | nothing => simp [insertInto, TupleSource.pushOnto, TupleSource.reading, Fragment.pushIdent]
  | defaults count =>
      by_cases hone : count = 1
      · simp [insertInto, TupleSource.pushOnto, TupleSource.reading, Fragment.pushIdent, hone]
      · simp [insertInto, TupleSource.pushOnto, TupleSource.reading, Fragment.pushIdent,
          Fragment.pushRaw, parenthesized, append_assoc, literal_append_literal,
          ← String.append_assoc]
  | tuples columns rows =>
      simp [insertInto, TupleSource.pushOnto, TupleSource.reading, Fragment.pushIdent,
        parenthesized, append_assoc, literal_append_literal_append, Function.comp_def]

@[simp]
theorem parentAlias_insertInto (table : String) (source : TupleSource Value) :
    (insertInto table source).parentAlias = none := by
  cases source with
  | nothing | tuples columns rows => rfl
  | defaults count => by_cases hone : count = 1 <;>
      simp [insertInto, TupleSource.pushOnto, Fragment.pushIdent, Fragment.pushRaw, hone]

/-- Only an empty batch has nothing to insert. -/
theorem Rows.source_eq_nothing_iff {rows : Rows Value} :
    rows.source = .nothing ↔ rows.records = [] := by
  cases rows with
  | one record =>
      rw [source]
      split <;> simp [records]
  | many records =>
      simp only [source, Rows.records]
      grind

theorem insert_of_records_eq_nil (table : String) {rows : Rows Value}
    (hrows : rows.records = []) : insert table rows = nothingInserted := by
  rw [insert, Rows.source_eq_nothing_iff.2 hrows]

theorem upsert_of_records_eq_nil (table : String) {rows : Rows Value}
    (uniqueColumns noNull : List String) (hrows : rows.records = []) :
    upsert table rows uniqueColumns noNull = nothingInserted := by
  rw [upsert, Rows.source_eq_nothing_iff.2 hrows]

theorem reading_nothingInserted (scope : Scope) :
    (nothingInserted : Fragment Value).reading scope =
      literal "SELECT NULL::jsonb AS result WHERE false" := by
  simp [nothingInserted]

/-- An insert of some rows. -/
theorem reading_insert (scope : Scope) (table : String) (rows : Rows Value)
    (hrows : rows.records ≠ []) :
    (insert table rows).reading scope =
      literal "INSERT INTO " ++ name table ++ rows.source.reading scope ++
        literal " RETURNING " ++ (rowJson table).reading scope ++ literal " AS result" := by
  have hsource : rows.source ≠ .nothing := mt Rows.source_eq_nothing_iff.1 hrows
  rw [insert]
  cases hcase : rows.source with
  | nothing => exact absurd hcase hsource
  | defaults count => simp
  | tuples columns filled => simp

theorem reading_updatedValue (scope : Scope) (table : String) (noNull : List String)
    (column : String) :
    (updatedValue table noNull column : Node Value).reading scope =
      if noNull.contains column then
        literal "CASE WHEN EXCLUDED." ++ name column ++ literal " IS NULL THEN " ++
          (name table ++ literal "." ++ name column) ++ literal " ELSE EXCLUDED." ++
          name column ++ literal " END"
      else literal "EXCLUDED." ++ name column := by
  rw [updatedValue]
  split <;> simp [excludedUnlessNull, excluded, append_assoc, literal_append_literal_append]

/-- An upsert of some rows. -/
theorem reading_upsert (scope : Scope) (table : String) (rows : Rows Value)
    (uniqueColumns noNull : List String) (hrows : rows.records ≠ []) :
    (upsert table rows uniqueColumns noNull).reading scope =
      let unique := NameSet.ofNames uniqueColumns
      let updated := updatedColumns rows.source.columns unique
      literal "INSERT INTO " ++ name table ++ rows.source.reading scope ++
        literal " ON CONFLICT " ++ parenthesized (separated ", " (unique.keys.map .name)) ++
        literal " DO UPDATE SET " ++ parenthesized (separated ", " (updated.map .name)) ++
        literal " = ROW" ++ parenthesized (separated ", " (updated.map fun column =>
          (updatedValue table noNull column : Node Value).reading scope)) ++
        literal " RETURNING " ++ (rowJson table).reading scope ++
        literal " || jsonb_build_object" ++ parenthesized
          (literal "'$action', CASE xmax WHEN 0 THEN 'INSERT' ELSE 'UPDATE' END") ++
        literal " AS result" := by
  have hsource : rows.source ≠ .nothing := mt Rows.source_eq_nothing_iff.1 hrows
  rw [upsert]
  cases hcase : rows.source with
  | nothing => exact absurd hcase hsource
  | defaults count | tuples columns filled =>
      simp [parenthesized, append_assoc, literal_append_literal, literal_append_literal_append,
        Function.comp_def]

end Insert

section Update

theorem reading_update (scope : Scope) (table : String) (values : Record Value)
    (condition : Condition Value) (hvalues : values.isEmpty = false) :
    (update table values condition).reading scope =
      literal "UPDATE " ++ name table ++ literal " SET " ++
        parenthesized (separated ", " (values.columns.map .name)) ++ literal " = ROW" ++
        parenthesized ((Node.valuesOf values).reading scope) ++ literal " WHERE " ++
        condition.node.reading scope ++ literal " RETURNING " ++
        (rowJson table).reading scope ++ literal " AS result" := by
  simp [update, hvalues, Fragment.pushIdent, Fragment.pushColumns, Fragment.pushValues,
    parenthesized, append_assoc, literal_append_literal_append]

/-- An update without values reads the rows that match. -/
theorem reading_update_of_isEmpty (scope : Scope) (table : String) (values : Record Value)
    (condition : Condition Value) (hvalues : values.isEmpty) :
    (update table values condition).reading scope =
      literal "SELECT " ++ (rowJson table).reading scope ++ literal " AS result FROM " ++
        name table ++ literal " WHERE " ++ condition.node.reading scope := by
  simp [update, hvalues, readMatching, Fragment.pushIdent]

theorem reading_delete (scope : Scope) (table : String) (condition : Condition Value) :
    (delete table condition).reading scope =
      literal "DELETE FROM " ++ name table ++ literal " WHERE " ++
        condition.node.reading scope ++ literal " RETURNING " ++
        (rowJson table).reading scope ++ literal " AS result" := by
  simp [delete, Fragment.pushIdent]

/-- A keyword after a blank, if there is one. -/
def readingOfKeyword : Option String → Reading Value
  | some keyword => literal " " ++ literal keyword
  | none => literal ""

theorem reading_truncate (scope : Scope) (tables : List String) (options : TruncateOptions) :
    (truncate tables options : Fragment Value).reading scope =
      literal "TRUNCATE " ++ separated ", " (tables.map .name) ++
        readingOfKeyword (options.identity.map Identity.sql) ++
        readingOfKeyword (options.foreignKeys.map ForeignKeys.sql) := by
  have hkeyword : ∀ (statement : Fragment Value) (keyword : Option String),
      (pushKeyword statement keyword).reading scope =
        statement.reading scope ++ readingOfKeyword keyword := by
    intro statement keyword
    cases keyword <;> simp [pushKeyword, readingOfKeyword, Fragment.pushRaw, append_assoc]
  simp [truncate, hkeyword, Function.comp_def]

end Update

section Select

@[simp]
theorem reading_orderItem (scope : Scope) (item : OrderItem Value) :
    item.node.reading scope =
      item.expression.reading scope ++ literal " " ++ literal item.direction.sql ++
        item.nulls.elim (literal "") fun nulls => literal " " ++ literal nulls.sql := by
  cases hnulls : item.nulls <;> simp [OrderItem.node, hnulls, append_assoc]

theorem reading_countProjection (scope : Scope) (columns : Option (List String)) :
    (countProjection columns : Node Value).reading scope =
      match columns with
      | none | some [] => literal "count(*)"
      | some [column] => literal "count" ++ parenthesized (name column)
      | some columns => literal "count(*) FILTER " ++ parenthesized (literal "WHERE " ++
          separated " AND " (columns.map fun column => name column ++ literal " IS NOT NULL")) := by
  rw [countProjection.eq_def]
  split <;> simp [parenthesized, append_assoc, literal_append_literal_append, Function.comp_def]

/-- Sub-selects of different keys are joined under different aliases. -/
theorem lateralAlias_injective : Function.Injective lateralAlias :=
  fun _ _ heq => (String.append_right_inj _).1 heq

@[simp]
theorem reading_lateralResult (scope : Scope) (key : String) :
    (lateralResult key : Node Value).reading scope =
      name (lateralAlias key) ++ literal ".result" := by
  simp [lateralResult]

/-- The filter after `WHERE`, if there is one. -/
def Filter.reading (scope : Scope) : Filter Value → Reading Value
  | .all => literal ""
  | .only condition => literal " WHERE " ++ condition.node.reading scope

/-- The ordering, if there is one. -/
def readingOfOrder (scope : Scope) (order : List (OrderItem Value)) : Reading Value :=
  if order.isEmpty then literal ""
  else literal " ORDER BY " ++ separated ", " (order.map fun item => item.node.reading scope)

/-- A keyword and a number, if there is one. -/
def readingOfNumber (keyword : String) : Option Nat → Reading Value
  | some number => literal keyword ++ literal (toString number)
  | none => literal ""

/-- What stands between `SELECT` and the name of the result. -/
def readingOfProjection (scope : Scope) (tableRef : String) (options : SelectOptions Value) :
    SelectMode → Reading Value
  | .count => (countProjection options.columns).reading scope
  | .many | .one =>
    (rowProjection tableRef options.columns).reading scope ++
      (mergeLaterals options.laterals).reading scope ++
      (extrasProjection options.extras).reading scope

/-- One item of a `FROM` clause: the table of the query, or a sub-select that
is joined to the rows of a table reference. -/
inductive FromItem (Value : Type) where
  | table (table : String) (tableAlias : Option String)
  | joined (tableRef key : String) (subselect : Fragment Value)

def FromItem.reading (scope : Scope) : FromItem Value → Reading Value
  | .table source none => name source
  | .table source (some tableAlias) => name source ++ literal " AS " ++ name tableAlias
  | .joined tableRef key subselect =>
    literal " LEFT JOIN LATERAL " ++
      parenthesized ((subselect.withParentAlias tableRef).reading scope) ++
      literal " AS " ++ name (lateralAlias key) ++ literal " ON true"

/-- The items of the `FROM` clause of a select. -/
def fromItems (table : String) (options : SelectOptions Value) :
    SelectMode → List (FromItem Value)
  | .count => [.table table options.tableAlias]
  | .many | .one =>
    .table table options.tableAlias :: options.laterals.toList.map fun entry =>
      .joined (options.tableRef table) entry.1 entry.2

/-- A whole `FROM` clause. -/
def readingOfFrom (scope : Scope) (items : List (FromItem Value)) : Reading Value :=
  literal " FROM " ++ concat (items.map (FromItem.reading scope))

theorem reading_joinLaterals (scope : Scope) (tableRef : String)
    (subselects : KeyMap (Fragment Value)) :
    (joinLaterals tableRef subselects).reading scope =
      concat (subselects.toList.map fun entry =>
        (FromItem.joined tableRef entry.1 entry.2).reading scope) := by
  simp [joinLaterals, joinLateral, FromItem.reading, parenthesized, append_assoc,
    literal_append_literal_append, Function.comp_def]

@[simp]
theorem reading_pushProjection (scope : Scope) (statement : Fragment Value) (tableRef : String)
    (options : SelectOptions Value) (mode : SelectMode)
    (halias : statement.parentAlias = none) :
    (pushProjection statement tableRef options mode).reading scope =
      statement.reading scope ++ readingOfProjection scope tableRef options mode := by
  cases mode <;> simp [pushProjection, readingOfProjection, halias, append_assoc]

@[simp]
theorem reading_pushSource (scope : Scope) (statement : Fragment Value) (table : String)
    (options : SelectOptions Value) (mode : SelectMode)
    (halias : statement.parentAlias = none) :
    (pushSource statement table options mode).reading scope =
      statement.reading scope ++ literal " AS result" ++
        readingOfFrom scope (fromItems table options mode) := by
  cases mode <;> cases hname : options.tableAlias <;>
    simp [pushSource, readingOfFrom, fromItems, FromItem.reading, reading_joinLaterals,
      Fragment.pushIdent, hname, halias, append_assoc, literal_append_literal_append,
      Function.comp_def]

@[simp]
theorem reading_pushFilter (scope : Scope) (statement : Fragment Value) (filter : Filter Value)
    (halias : statement.parentAlias = none) :
    (pushFilter statement filter).reading scope =
      statement.reading scope ++ filter.reading scope := by
  cases filter <;> simp [pushFilter, Filter.reading, halias, append_assoc]

@[simp]
theorem reading_pushOrder (scope : Scope) (statement : Fragment Value)
    (order : List (OrderItem Value)) (halias : statement.parentAlias = none) :
    (pushOrder statement order).reading scope =
      statement.reading scope ++ readingOfOrder scope order := by
  cases order <;> simp [pushOrder, readingOfOrder, halias, append_assoc, Function.comp_def]

@[simp]
theorem reading_pushNumber (scope : Scope) (statement : Fragment Value) (keyword : String)
    (number : Option Nat) :
    (pushNumber statement keyword number).reading scope =
      statement.reading scope ++ readingOfNumber keyword number := by
  cases number <;> simp [pushNumber, readingOfNumber, Fragment.pushRaw, append_assoc]

/-- A query over rows reads like its clauses. -/
def readingOfRows (scope : Scope) (table : String) (filter : Filter Value)
    (options : SelectOptions Value) (mode : SelectMode) : Reading Value :=
  literal "SELECT " ++ readingOfProjection scope (options.tableRef table) options mode ++
    literal " AS result" ++ readingOfFrom scope (fromItems table options mode) ++
    filter.reading scope ++ readingOfOrder scope options.order ++
    readingOfNumber " LIMIT " options.limit ++ readingOfNumber " OFFSET " options.offset

@[simp]
theorem reading_selectRows (scope : Scope) (table : String) (filter : Filter Value)
    (options : SelectOptions Value) (mode : SelectMode) :
    (selectRows table filter options mode).reading scope =
      readingOfRows scope table filter options mode := by
  have hprojected :=
    reading_pushProjection scope (.ofText "SELECT ") (options.tableRef table) options mode rfl
  simp [selectRows, readingOfRows, hprojected]

/-- Ordering and paging stay inside, and the array is aggregated outside. -/
theorem reading_selectMode_many (scope : Scope) (table : String) (filter : Filter Value)
    (options : SelectOptions Value) :
    (selectMode table filter options .many).reading scope =
      literal "SELECT coalesce(jsonb_agg(result), '[]') AS result FROM " ++
        parenthesized (readingOfRows scope table filter options .many) ++
        literal " AS " ++ name ("sq_" ++ options.tableRef table) := by
  simp [selectMode, aggregate, SelectOptions.forMode, Fragment.pushFragment, Fragment.pushIdent,
    parenthesized, append_assoc, literal_append_literal_append]

theorem reading_selectMode_one (scope : Scope) (table : String) (filter : Filter Value)
    (options : SelectOptions Value) :
    (selectMode table filter options .one).reading scope =
      readingOfRows scope table filter (options.forMode .one) .one := by
  simp [selectMode]

theorem reading_selectMode_count (scope : Scope) (table : String) (filter : Filter Value)
    (options : SelectOptions Value) :
    (selectMode table filter options .count).reading scope =
      readingOfRows scope table filter (options.forMode .count) .count := by
  simp [selectMode]

end Select

end SqlWeave.Query
