import SqlWeave.Proofs.CallParts

/-!
# Balanced statements

The parentheses of a statement pair up if those of its parts do.  Every clause
is balanced for itself, whatever options it is built from.  Main statement: a
call with balanced parts and names without parentheses is balanced.
-/

namespace SqlWeave

open Reading

variable {Value : Type}

section Cells

theorem Site.balanced_bound (value : Value) : (Site.bound value).reading.Balanced := by
  intro _ bound
  have htext : (Site.bound value).reading.text bound = placeholder (bound + 1) := by
    simp [Site.reading, Piece.read, Piece.render, Piece.value?, Piece.site?, Site.value?]
  rw [htext]
  exact .of_parenthesisFree (.placeholder _)

theorem Site.balanced_enclosing {table : Option String} {column : String}
    (htable : ∀ name ∈ table, ParenthesisFree name) (hcolumn : ParenthesisFree column) :
    (Site.enclosing table column : Site Value).reading.Balanced := by
  intro hfault bound
  cases table with
  | none => cases hfault
  | some table =>
      have htext : (Site.enclosing (some table) column : Site Value).reading.text bound =
          quotedName table ++ "." ++ quotedName column := by
        simp [Site.reading, Piece.read, Piece.render, Piece.value?, Piece.site?, Site.value?,
          Piece.content]
      rw [htext]
      exact .of_parenthesisFree (((htable table rfl).quotedName.append (by decide)).append
        hcolumn.quotedName)

theorem Site.balanced_comparedDefault (column : String) :
    (Site.comparedDefault column : Site Value).reading.Balanced := by
  intro hfault
  cases hfault

variable {scope : Scope} (hparent : ∀ table ∈ scope.parent, ParenthesisFree table)
include hparent

theorem Cell.balanced_reading {cell : Cell Value}
    (hnames : ∀ name ∈ cell.names, ParenthesisFree name)
    (hparts : ∀ part ∈ cell.parts scope, part.Balanced) : (cell.reading scope).Balanced := by
  cases cell with
  | value value => exact Site.balanced_bound value
  | default =>
      rw [reading_default]
      exact .literal (by decide)
  | parentColumn column =>
      rw [reading_parentColumn]
      exact Site.balanced_enclosing hparent (hnames column List.mem_cons_self)
  | sql body =>
      rw [reading_sql, ← Node.reading_fragment]
      exact (hparts _ List.mem_cons_self).reading

theorem Cell.balanced_conditionReading {cell : Cell Value} {column : String}
    (hcolumn : ParenthesisFree column) (hnames : ∀ name ∈ cell.names, ParenthesisFree name)
    (hparts : ∀ part ∈ cell.parts scope, part.Balanced) :
    (cell.conditionReading scope column).Balanced := by
  have hcompared : (name column ++ literal " = " : Reading Value).Balanced :=
    .append (.name hcolumn) (.literal (by decide))
  cases cell with
  | value value =>
      rw [conditionReading_value]
      exact hcompared.append (Site.balanced_bound value)
  | default =>
      rw [conditionReading_default]
      exact Site.balanced_comparedDefault column
  | parentColumn referenced =>
      rw [conditionReading_parentColumn]
      exact hcompared.append (Site.balanced_enclosing hparent (hnames referenced List.mem_cons_self))
  | sql body =>
      rw [conditionReading_sql, ← Node.reading_fragment]
      exact (hparts _ List.mem_cons_self).reading.parenthesized

theorem Record.balanced_matching {record : Record Value}
    (hnames : ∀ name ∈ Record.names record, ParenthesisFree name)
    (hparts : ∀ part ∈ Record.parts scope record, part.Balanced) :
    ((Node.matching record).reading scope).Balanced := by
  rw [Node.reading_matching]
  split
  · exact .literal (by decide)
  · refine .parenthesized (.separated (by decide) ?_)
    simp only [Record.names, Record.parts, List.mem_flatMap, forall_exists_index, and_imp,
      List.mem_map, forall_apply_eq_imp_iff₂] at *
    intro entry hmem
    have hinside : ∀ table ∈ (scope.withColumn entry.1).parent, ParenthesisFree table := hparent
    exact Cell.balanced_conditionReading hinside (hnames _ entry hmem List.mem_cons_self)
      (fun name hname => hnames name entry hmem (List.mem_cons_of_mem _ hname))
      fun part hpart => hparts part entry hmem hpart

theorem Record.balanced_valuesOf {record : Record Value}
    (hnames : ∀ name ∈ Record.names record, ParenthesisFree name)
    (hparts : ∀ part ∈ Record.parts scope record, part.Balanced) :
    ((Node.valuesOf record).reading scope).Balanced := by
  rw [Node.reading_valuesOf]
  refine .separated (by decide) ?_
  simp only [Record.names, Record.parts, List.mem_flatMap, forall_exists_index, and_imp,
    List.mem_map, forall_apply_eq_imp_iff₂] at *
  intro entry hmem
  have hinside : ∀ table ∈ (scope.withColumn entry.1).parent, ParenthesisFree table := hparent
  exact Cell.balanced_reading hinside
    (fun name hname => hnames name entry hmem (List.mem_cons_of_mem _ hname))
    fun part hpart => hparts part entry hmem hpart

end Cells

namespace Query

section Balanced

theorem balanced_rowJson (scope : Scope) {table : String} (htable : ParenthesisFree table) :
    ((rowJson table : Node Value).reading scope).Balanced := by
  rw [reading_rowJson]
  exact .append (.literal (by decide)) (.parenthesized (.append (.name htable)
    (.literal (by decide))))

theorem balanced_qualified (scope : Scope) {table column : String}
    (htable : ParenthesisFree table) (hcolumn : ParenthesisFree column) :
    ((qualified table column : Node Value).reading scope).Balanced := by
  rw [reading_qualified]
  exact ((Reading.Balanced.name htable).append (.literal (by decide))).append (.name hcolumn)

theorem balanced_jsonObject (scope : Scope) {pairs : List (String × Node Value)}
    (hpairs : ∀ pair ∈ pairs, ParenthesisFree pair.1 ∧ (pair.2.reading scope).Balanced) :
    ((jsonObject pairs).reading scope).Balanced := by
  rw [reading_jsonObject]
  refine .append (.literal (by decide)) (.parenthesized (.separated (by decide) ?_))
  simp only [List.mem_map, forall_exists_index, and_imp, forall_apply_eq_imp_iff₂]
  intro pair hmem
  have hkey : ParenthesisFree ("'" ++ pair.1 ++ "', ") :=
    (ParenthesisFree.append (by decide) (hpairs pair hmem).1).append (by decide)
  exact .append (.literal (.of_parenthesisFree hkey)) (hpairs pair hmem).2

theorem balanced_jsonMerge (scope : Scope) {pairs : List (String × Node Value)}
    (hpairs : ∀ pair ∈ pairs, ParenthesisFree pair.1 ∧ (pair.2.reading scope).Balanced) :
    ((jsonMerge pairs).reading scope).Balanced := by
  rw [reading_jsonMerge]
  split
  · exact .literal (by decide)
  · exact .append (.literal (by decide)) (balanced_jsonObject scope hpairs)

variable {scope : Scope} (hparent : ∀ table ∈ scope.parent, ParenthesisFree table)

section Insert

/-- The columns of an insert are names of its rows. -/
theorem Rows.mem_names_of_mem_columns {rows : Rows Value} {column : String}
    (hmem : column ∈ rows.source.columns) : column ∈ rows.records.flatMap Record.names := by
  cases hsource : rows.source with
  | nothing | defaults count =>
      rw [hsource] at hmem
      cases hmem
  | tuples columns filled =>
      obtain ⟨rfl, -⟩ := Rows.eq_of_source_eq_tuples hsource
      rw [hsource, TupleSource.columns, mem_keys_columnUnion] at hmem
      obtain ⟨record, hrecord, hcolumn⟩ := hmem
      obtain ⟨entry, hentry, rfl⟩ := List.mem_map.1 hcolumn
      exact List.mem_flatMap.2 ⟨record, hrecord,
        List.mem_flatMap.2 ⟨entry, hentry, List.mem_cons_self⟩⟩

include hparent in
/-- A tuple of an insert is balanced. -/
theorem balanced_fillDefaults {columns : NameSet} {record : Record Value}
    (hcolumns : ∀ column ∈ columns.keys, ParenthesisFree column)
    (hnames : ∀ name ∈ Record.names record, ParenthesisFree name)
    (hparts : ∀ part ∈ Record.parts scope record, part.Balanced) :
    ((Node.valuesOf (fillDefaults columns record)).reading scope).Balanced := by
  refine Record.balanced_valuesOf hparent (fun name hname => ?_) fun part hpart => ?_
  · obtain ⟨entry, hentry, hname⟩ := List.mem_flatMap.1 hname
    rcases mem_toList_fillDefaults hentry with hcell | ⟨hcolumn, hdefault⟩
    · exact hnames name (List.mem_flatMap.2 ⟨entry, hcell, hname⟩)
    · rw [hdefault] at hname
      obtain rfl := List.mem_singleton.1 hname
      exact hcolumns _ hcolumn
  · obtain ⟨entry, hentry, hpart⟩ := List.mem_flatMap.1 hpart
    rcases mem_toList_fillDefaults hentry with hcell | ⟨-, hdefault⟩
    · exact hparts part (List.mem_flatMap.2 ⟨entry, hcell, hpart⟩)
    · rw [hdefault] at hpart
      cases hpart

include hparent in
/-- What follows the table of an insert is balanced if the names and parts of its rows are. -/
theorem Rows.balanced_source {rows : Rows Value}
    (hnames : ∀ name ∈ rows.records.flatMap Record.names, ParenthesisFree name)
    (hparts : ∀ part ∈ rows.records.flatMap (Record.parts scope), part.Balanced) :
    (rows.source.reading scope).Balanced := by
  have hcolumns : ∀ column ∈ rows.source.columns, ParenthesisFree column :=
    fun column hmem => hnames column (Rows.mem_names_of_mem_columns hmem)
  cases hsource : rows.source with
  | nothing => exact .literal (by decide)
  | defaults count =>
      rw [TupleSource.reading.eq_def]
      split
      · exact .literal (by decide)
      · exact .literal (by decide)
      · refine .append (.literal (by decide)) (.parenthesized (.literal (.of_parenthesisFree ?_)))
        exact .append (by decide) (.repr _)
      · cases ‹TupleSource.defaults _ = TupleSource.tuples _ _›
  | tuples columns filled =>
      rw [hsource, TupleSource.columns] at hcolumns
      obtain ⟨rfl, rfl⟩ := Rows.eq_of_source_eq_tuples hsource
      refine .append (.append (.append (.literal (by decide)) (.parenthesized (.names hcolumns)))
        (.literal (by decide))) (.separated (by decide) ?_)
      simp only [List.mem_map, forall_exists_index, and_imp, forall_apply_eq_imp_iff₂]
      intro record hmem
      refine .parenthesized (balanced_fillDefaults hparent hcolumns
        (fun name hname => hnames name (List.mem_flatMap.2 ⟨record, hmem, hname⟩))
        fun part hpart => hparts part (List.mem_flatMap.2 ⟨record, hmem, hpart⟩))

include hparent in
theorem balanced_insert {table : String} {rows : Rows Value} (htable : ParenthesisFree table)
    (hnames : ∀ name ∈ rows.records.flatMap Record.names, ParenthesisFree name)
    (hparts : ∀ part ∈ rows.records.flatMap (Record.parts scope), part.Balanced) :
    ((insert table rows).reading scope).Balanced := by
  by_cases hrows : rows.records = []
  · rw [insert_of_records_eq_nil table hrows, reading_nothingInserted]
    exact .literal (by decide)
  · have hsource := Rows.balanced_source hparent hnames hparts
    have hrow : ((rowJson table : Node Value).reading scope).Balanced :=
      balanced_rowJson scope htable
    rw [reading_insert scope table rows hrows]
    exact Balanced.literal (by decide) |>.append (.name htable) |>.append hsource
      |>.append (.literal (by decide)) |>.append hrow |>.append (.literal (by decide))

theorem balanced_updatedValue (scope : Scope) {table column : String} (noNull : List String)
    (htable : ParenthesisFree table) (hcolumn : ParenthesisFree column) :
    ((updatedValue table noNull column : Node Value).reading scope).Balanced := by
  have hexcluded : ∀ before : String, SqlWeave.Balanced before →
      (literal before ++ name column : Reading Value).Balanced :=
    fun before hbefore => .append (.literal hbefore) (.name hcolumn)
  have hstored : (name table ++ literal "." ++ name column : Reading Value).Balanced :=
    Balanced.name htable |>.append (.literal (by decide)) |>.append (.name hcolumn)
  rw [reading_updatedValue]
  split
  · exact hexcluded _ (by decide) |>.append (.literal (by decide)) |>.append hstored
      |>.append (.literal (by decide)) |>.append (.name hcolumn) |>.append (.literal (by decide))
  · exact hexcluded _ (by decide)

include hparent in
theorem balanced_upsert {table : String} {rows : Rows Value} {uniqueColumns : List String}
    (noNull : List String) (htable : ParenthesisFree table)
    (hunique : ∀ column ∈ uniqueColumns, ParenthesisFree column)
    (hnames : ∀ name ∈ rows.records.flatMap Record.names, ParenthesisFree name)
    (hparts : ∀ part ∈ rows.records.flatMap (Record.parts scope), part.Balanced) :
    ((upsert table rows uniqueColumns noNull).reading scope).Balanced := by
  by_cases hrows : rows.records = []
  · rw [upsert_of_records_eq_nil table uniqueColumns noNull hrows, reading_nothingInserted]
    exact .literal (by decide)
  · have hkeys : ∀ column ∈ (NameSet.ofNames uniqueColumns).keys, ParenthesisFree column :=
      fun column hmem => hunique column ((NameSet.mem_keys_ofNames _ _).1 hmem)
    have hupdated : ∀ column ∈ updatedColumns rows.source.columns
        (NameSet.ofNames uniqueColumns), ParenthesisFree column := by
      intro column hmem
      rw [updatedColumns] at hmem
      split at hmem
      · exact hkeys column hmem
      · exact hnames column (Rows.mem_names_of_mem_columns (List.mem_filter.1 hmem).1)
    have hvalues : (separated ", " ((updatedColumns rows.source.columns
        (NameSet.ofNames uniqueColumns)).map fun column =>
          (updatedValue table noNull column : Node Value).reading scope)).Balanced := by
      refine .separated (by decide) ?_
      simp only [List.mem_map, forall_exists_index, and_imp, forall_apply_eq_imp_iff₂]
      exact fun column hmem => balanced_updatedValue scope noNull htable (hupdated column hmem)
    have hsource := Rows.balanced_source hparent hnames hparts
    have hrow : ((rowJson table : Node Value).reading scope).Balanced :=
      balanced_rowJson scope htable
    rw [reading_upsert scope table rows uniqueColumns noNull hrows]
    exact Balanced.literal (by decide) |>.append (.name htable) |>.append hsource
      |>.append (.literal (by decide)) |>.append (.parenthesized (.names hkeys))
      |>.append (.literal (by decide)) |>.append (.parenthesized (.names hupdated))
      |>.append (.literal (by decide)) |>.append (.parenthesized hvalues)
      |>.append (.literal (by decide)) |>.append hrow
      |>.append (.literal (by decide)) |>.append (.parenthesized (.literal (by decide)))
      |>.append (.literal (by decide))

end Insert

section Update

include hparent in
theorem Condition.balanced_reading {condition : Condition Value}
    (hnames : ∀ name ∈ condition.names, ParenthesisFree name)
    (hparts : ∀ part ∈ condition.parts scope, part.Balanced) :
    (condition.node.reading scope).Balanced := by
  cases condition with
  | matching record => exact Record.balanced_matching hparent hnames hparts
  | sql body => exact (hparts _ List.mem_cons_self).reading

include hparent in
theorem balanced_update {table : String} {values : Record Value} {condition : Condition Value}
    (htable : ParenthesisFree table)
    (hvalues : ∀ name ∈ Record.names values, ParenthesisFree name)
    (hvalueParts : ∀ part ∈ Record.parts scope values, part.Balanced)
    (hnames : ∀ name ∈ condition.names, ParenthesisFree name)
    (hparts : ∀ part ∈ condition.parts scope, part.Balanced) :
    ((update table values condition).reading scope).Balanced := by
  have hcondition := Condition.balanced_reading hparent hnames hparts
  have hrow : ((rowJson table : Node Value).reading scope).Balanced := balanced_rowJson scope htable
  cases hempty : values.isEmpty with
  | true =>
      rw [reading_update_of_isEmpty scope table values condition hempty]
      exact Balanced.literal (by decide) |>.append hrow |>.append (.literal (by decide))
        |>.append (.name htable) |>.append (.literal (by decide)) |>.append hcondition
  | false =>
      have hcolumns : ∀ column ∈ values.columns, ParenthesisFree column := by
        intro column hmem
        obtain ⟨entry, hentry, rfl⟩ := List.mem_map.1 hmem
        exact hvalues _ (List.mem_flatMap.2 ⟨entry, hentry, List.mem_cons_self⟩)
      rw [reading_update scope table values condition hempty]
      exact Balanced.literal (by decide) |>.append (.name htable)
        |>.append (.literal (by decide)) |>.append (.parenthesized (.names hcolumns))
        |>.append (.literal (by decide))
        |>.append (.parenthesized (Record.balanced_valuesOf hparent hvalues hvalueParts))
        |>.append (.literal (by decide)) |>.append hcondition
        |>.append (.literal (by decide)) |>.append hrow |>.append (.literal (by decide))

include hparent in
theorem balanced_delete {table : String} {condition : Condition Value}
    (htable : ParenthesisFree table)
    (hnames : ∀ name ∈ condition.names, ParenthesisFree name)
    (hparts : ∀ part ∈ condition.parts scope, part.Balanced) :
    ((delete table condition).reading scope).Balanced := by
  rw [reading_delete]
  exact Balanced.literal (by decide) |>.append (.name htable) |>.append (.literal (by decide))
    |>.append (Condition.balanced_reading hparent hnames hparts)
    |>.append (.literal (by decide)) |>.append (balanced_rowJson scope htable)
    |>.append (.literal (by decide))

theorem balanced_truncate (scope : Scope) {tables : List String} (options : TruncateOptions)
    (htables : ∀ table ∈ tables, ParenthesisFree table) :
    ((truncate tables options : Fragment Value).reading scope).Balanced := by
  have hidentity : (readingOfKeyword (options.identity.map Identity.sql) :
      Reading Value).Balanced := by
    cases options.identity with
    | none => exact .literal (by decide)
    | some identity =>
        exact .append (.literal (by decide)) (.literal (by cases identity <;> decide))
  have hforeignKeys : (readingOfKeyword (options.foreignKeys.map ForeignKeys.sql) :
      Reading Value).Balanced := by
    cases options.foreignKeys with
    | none => exact .literal (by decide)
    | some foreignKeys =>
        exact .append (.literal (by decide)) (.literal (by cases foreignKeys <;> decide))
  rw [reading_truncate]
  exact Balanced.literal (by decide) |>.append (.names htables) |>.append hidentity
    |>.append hforeignKeys

end Update

section Select

theorem balanced_rowProjection (scope : Scope) {tableRef : String}
    {columns : Option (List String)} (htable : ParenthesisFree tableRef)
    (hcolumns : ∀ column ∈ columns.getD [], ParenthesisFree column) :
    ((rowProjection tableRef columns : Node Value).reading scope).Balanced := by
  cases columns with
  | none => exact balanced_rowJson scope htable
  | some columns =>
      refine balanced_jsonObject scope ?_
      simp only [List.mem_map, forall_exists_index, and_imp, forall_apply_eq_imp_iff₂]
      exact fun column hmem =>
        ⟨hcolumns column hmem, balanced_qualified scope htable (hcolumns column hmem)⟩

theorem balanced_countProjection (scope : Scope) {columns : Option (List String)}
    (hcolumns : ∀ column ∈ columns.getD [], ParenthesisFree column) :
    ((countProjection columns : Node Value).reading scope).Balanced := by
  rw [reading_countProjection]
  split
  · exact .literal (by decide)
  · exact .literal (by decide)
  · exact .append (.literal (by decide))
      (.parenthesized (.name (hcolumns _ List.mem_cons_self)))
  · refine .append (.literal (by decide)) (.parenthesized (.append (.literal (by decide))
      (.separated (by decide) ?_)))
    simp only [List.mem_map, forall_exists_index, and_imp, forall_apply_eq_imp_iff₂]
    exact fun column hmem => .append (.name (hcolumns column hmem)) (.literal (by decide))

theorem parenthesisFree_lateralAlias {key : String} (hkey : ParenthesisFree key) :
    ParenthesisFree (lateralAlias key) :=
  .append (by decide) hkey

theorem balanced_mergeLaterals (scope : Scope) {subselects : KeyMap (Fragment Value)}
    (hkeys : ∀ key ∈ subselects.keys, ParenthesisFree key) :
    ((mergeLaterals subselects).reading scope).Balanced := by
  refine balanced_jsonMerge scope ?_
  simp only [List.mem_map, forall_exists_index, and_imp, forall_apply_eq_imp_iff₂]
  refine fun key hmem => ⟨hkeys key hmem, ?_⟩
  rw [reading_lateralResult]
  exact .append (.name (parenthesisFree_lateralAlias (hkeys key hmem))) (.literal (by decide))

theorem balanced_extrasProjection {extras : KeyMap (Fragment Value)}
    (hkeys : ∀ key ∈ extras.keys, ParenthesisFree key)
    (hparts : ∀ part ∈ extraParts scope extras, part.Balanced) :
    ((extrasProjection extras).reading scope).Balanced := by
  refine balanced_jsonMerge scope ?_
  simp only [extraParts, List.mem_map, forall_exists_index, and_imp,
    forall_apply_eq_imp_iff₂] at hparts ⊢
  exact fun entry hmem =>
    ⟨hkeys entry.1 (List.mem_map.2 ⟨entry, hmem, rfl⟩), (hparts entry hmem).reading⟩

/-- The names of the options are without parentheses, whichever mode they are for. -/
theorem SelectOptions.names_forMode (options : SelectOptions Value) (mode : SelectMode) :
    (options.forMode mode).names = options.names := by
  cases mode <;> rfl

theorem SelectOptions.parenthesisFree_tableRef {options : SelectOptions Value} {table : String}
    (htable : ParenthesisFree table) (hnames : ∀ name ∈ options.names, ParenthesisFree name) :
    ParenthesisFree (options.tableRef table) := by
  rw [tableRef]
  cases halias : options.tableAlias with
  | none => exact htable
  | some tableAlias => exact hnames tableAlias (by simp [names, halias])

theorem balanced_from {table : String} {options : SelectOptions Value} (mode : SelectMode)
    (htable : ParenthesisFree table) (hnames : ∀ name ∈ options.names, ParenthesisFree name)
    (hparts : mode ≠ .count →
      ∀ part ∈ joinedParts scope (options.tableRef table) options.laterals, part.Balanced) :
    (readingOfFrom scope (fromItems table options mode)).Balanced := by
  have hsource : ((FromItem.table table options.tableAlias : FromItem Value).reading
      scope).Balanced := by
    cases halias : options.tableAlias with
    | none => exact .name htable
    | some tableAlias =>
        exact Balanced.name htable |>.append (.literal (by decide))
          |>.append (.name (hnames tableAlias (by simp [SelectOptions.names, halias])))
  refine .append (.literal (by decide)) (.concat ?_)
  cases mode with
  | count => simpa only [fromItems, List.map_cons, List.map_nil, List.forall_mem_singleton]
  | many | one =>
      replace hparts := hparts (by decide)
      simp only [joinedParts, List.mem_map, forall_exists_index, and_imp,
        forall_apply_eq_imp_iff₂] at hparts
      simp only [fromItems, List.map_cons, List.map_map, List.forall_mem_cons, List.mem_map,
        forall_exists_index, and_imp, forall_apply_eq_imp_iff₂]
      refine ⟨hsource, fun entry hmem => ?_⟩
      have hkey : ParenthesisFree entry.1 := by
        refine hnames entry.1 ?_
        simp only [SelectOptions.names, List.mem_append]
        exact .inl (.inr (List.mem_map.2 ⟨entry, hmem, rfl⟩))
      have hjoined := (hparts entry hmem).reading
      rw [Part.reading, Node.reading_fragment] at hjoined
      exact Balanced.literal (by decide) |>.append (.parenthesized hjoined)
        |>.append (.literal (by decide)) |>.append (.name (parenthesisFree_lateralAlias hkey))
        |>.append (.literal (by decide))

include hparent in
theorem Filter.balanced_reading {filter : Filter Value}
    (hnames : ∀ name ∈ filter.names, ParenthesisFree name)
    (hparts : ∀ part ∈ filter.parts scope, part.Balanced) : (filter.reading scope).Balanced := by
  cases filter with
  | all => exact .literal (by decide)
  | only condition =>
      exact .append (.literal (by decide)) (Condition.balanced_reading hparent hnames hparts)

theorem balanced_order {order : List (OrderItem Value)}
    (hparts : ∀ part ∈ orderParts scope order, part.Balanced) :
    (readingOfOrder scope order).Balanced := by
  rw [readingOfOrder]
  split
  · exact .literal (by decide)
  · refine .append (.literal (by decide)) (.separated (by decide) ?_)
    simp only [orderParts, List.mem_map, forall_exists_index, and_imp,
      forall_apply_eq_imp_iff₂] at hparts ⊢
    intro item hmem
    have hdirection : Balanced item.direction.sql := by cases item.direction <;> decide
    have hnulls : (item.nulls.elim (literal "") fun nulls =>
        literal " " ++ literal nulls.sql : Reading Value).Balanced := by
      cases item.nulls with
      | none => exact .literal (by decide)
      | some nulls => exact .append (.literal (by decide)) (.literal (by cases nulls <;> decide))
    rw [reading_orderItem]
    exact (hparts item hmem).reading |>.append (.literal (by decide))
      |>.append (.literal hdirection) |>.append hnulls

theorem balanced_number {keyword : String} (hkeyword : Balanced keyword) (number : Option Nat) :
    (readingOfNumber keyword number : Reading Value).Balanced := by
  cases number with
  | none => exact .literal (by decide)
  | some number =>
      exact .append (.literal hkeyword) (.literal (.of_parenthesisFree (.repr number)))

include hparent in
theorem balanced_rows {table : String} {filter : Filter Value} {options : SelectOptions Value}
    (mode : SelectMode) (htable : ParenthesisFree table)
    (hfilter : ∀ name ∈ filter.names, ParenthesisFree name)
    (hnames : ∀ name ∈ options.names, ParenthesisFree name)
    (hparts : ∀ part ∈ rowsParts scope (options.tableRef table) filter options mode,
      part.Balanced) :
    (readingOfRows scope table filter (options.forMode mode) mode).Balanced := by
  have htableRef := SelectOptions.parenthesisFree_tableRef htable hnames
  have hshown : ∀ name ∈ (options.forMode mode).names, ParenthesisFree name := by
    rw [options.names_forMode]
    exact hnames
  have hsplit := hnames
  rw [SelectOptions.names, List.forall_mem_append, List.forall_mem_append,
    List.forall_mem_append] at hsplit
  obtain ⟨⟨⟨hcolumns, hextraKeys⟩, hlateralKeys⟩, -⟩ := hsplit
  have hclauses : ∀ shown : SelectOptions Value,
      (readingOfProjection scope (shown.tableRef table) shown mode).Balanced →
      (readingOfFrom scope (fromItems table shown mode)).Balanced →
      (filter.reading scope).Balanced → (readingOfOrder scope shown.order).Balanced →
      (readingOfRows scope table filter shown mode).Balanced :=
    fun _ hprojection hfrom hwhere horder =>
      Balanced.literal (by decide) |>.append hprojection |>.append (.literal (by decide))
        |>.append hfrom |>.append hwhere |>.append horder
        |>.append (balanced_number (by decide) _) |>.append (balanced_number (by decide) _)
  cases mode with
  | count =>
      exact hclauses _ (balanced_countProjection scope hcolumns)
        (balanced_from .count htable hshown fun hmode => absurd rfl hmode)
        (Filter.balanced_reading hparent hfilter hparts) (.literal (by decide))
  | many | one =>
      rw [rowsParts, List.forall_mem_append, List.forall_mem_append,
        List.forall_mem_append] at hparts
      obtain ⟨⟨⟨hextras, hjoined⟩, hconditions⟩, horder⟩ := hparts
      exact hclauses _
        (balanced_rowProjection scope htableRef hcolumns
          |>.append (balanced_mergeLaterals scope hlateralKeys)
          |>.append (balanced_extrasProjection hextraKeys hextras))
        (balanced_from _ htable hshown fun _ => hjoined)
        (Filter.balanced_reading hparent hfilter hconditions) (balanced_order horder)

include hparent in
theorem balanced_selectMode {table : String} {filter : Filter Value}
    {options : SelectOptions Value} (mode : SelectMode) (htable : ParenthesisFree table)
    (hfilter : ∀ name ∈ filter.names, ParenthesisFree name)
    (hnames : ∀ name ∈ options.names, ParenthesisFree name)
    (hparts : ∀ part ∈ rowsParts scope (options.tableRef table) filter options mode,
      part.Balanced) :
    ((selectMode table filter options mode).reading scope).Balanced := by
  have hrows := balanced_rows hparent mode htable hfilter hnames hparts
  cases mode with
  | many =>
      have htableRef := SelectOptions.parenthesisFree_tableRef htable hnames
      rw [reading_selectMode_many]
      exact Balanced.literal (by decide) |>.append (.parenthesized hrows)
        |>.append (.literal (by decide)) |>.append (.name (.append (by decide) htableRef))
  | one =>
      rw [reading_selectMode_one]
      exact hrows
  | count =>
      rw [reading_selectMode_count]
      exact hrows

end Select

include hparent in
/-- The statement of a call is balanced if its parts are. -/
theorem Call.balanced_reading {call : Call Value}
    (hnames : ∀ name ∈ call.names, ParenthesisFree name)
    (hparts : ∀ part ∈ call.parts scope, part.Balanced) :
    (call.statement.reading scope).Balanced := by
  cases call with
  | insert table rows =>
      rw [names, List.forall_mem_cons] at hnames
      exact balanced_insert hparent hnames.1 hnames.2 hparts
  | upsert table rows uniqueColumns noNull =>
      rw [names, List.cons_append, List.forall_mem_cons, List.forall_mem_append] at hnames
      exact balanced_upsert hparent noNull hnames.1 hnames.2.1 hnames.2.2 hparts
  | update table values condition =>
      rw [names, List.cons_append, List.forall_mem_cons, List.forall_mem_append] at hnames
      rw [parts, List.forall_mem_append] at hparts
      exact balanced_update hparent hnames.1 hnames.2.1 hparts.1 hnames.2.2 hparts.2
  | delete table condition =>
      rw [names, List.forall_mem_cons] at hnames
      exact balanced_delete hparent hnames.1 hnames.2 hparts
  | truncate tables options => exact balanced_truncate scope options hnames
  | selectMode table filter options mode =>
      rw [names, List.cons_append, List.forall_mem_cons, List.forall_mem_append] at hnames
      exact balanced_selectMode hparent mode hnames.1 hnames.2.1 hnames.2.2 hparts
  | select table filter options =>
      rw [names, List.cons_append, List.forall_mem_cons, List.forall_mem_append] at hnames
      exact balanced_selectMode hparent .many hnames.1 hnames.2.1 hnames.2.2 hparts
  | selectOne table filter options =>
      rw [names, List.cons_append, List.forall_mem_cons, List.forall_mem_append] at hnames
      exact balanced_selectMode hparent .one hnames.1 hnames.2.1 hnames.2.2 hparts
  | count table filter options =>
      rw [names, List.cons_append, List.forall_mem_cons, List.forall_mem_append] at hnames
      exact balanced_selectMode hparent .count hnames.1 hnames.2.1 hnames.2.2 hparts

end Balanced

end Query

end SqlWeave
