import SqlWeave.Proofs.ScopedPieces
import SqlWeave.Query.Select

/-!
# Sites of built statements

Where the sites of a built statement come from.  Literal text, names and keys
have none, so a statement has those of the nodes that callers put into it, in
the order in which they are put there.  Main statement: the sites of a select
are those of its computed values, of its sub-selects under its own table
reference, of its filter and of its ordering.
-/

namespace SqlWeave

variable {Value : Type}

@[simp]
theorem Scope.enter_none (scope : Scope) : scope.enter none = scope := rfl

namespace Node

@[simp]
theorem sites_ident (scope : Scope) (name : String) :
    (ident name : Node Value).sites scope = [] := by rw [sites]

@[simp]
theorem sites_raw (scope : Scope) (sql : String) :
    (raw sql : Node Value).sites scope = [] := by rw [sites]

@[simp]
theorem sites_seq (scope : Scope) (items : List (Node Value)) :
    (seq items).sites scope = items.flatMap fun node => node.sites scope := by
  rw [sites, sitesOfItems_eq_flatMap]

@[simp]
theorem sites_fragment (scope : Scope) (body : Fragment Value) :
    (fragment body).sites scope = body.sites scope := by rw [sites]

@[simp]
theorem sites_empty (scope : Scope) : (empty : Node Value).sites scope = [] := by
  rw [empty, sites_seq, List.flatMap_nil]

/-- A separator is text. -/
@[simp]
theorem sites_join (scope : Scope) (items : List (Node Value)) (separator : String) :
    (join items separator).sites scope = items.flatMap fun node => node.sites scope := by
  rw [join, sites_seq]
  induction items with
  | nil => rfl
  | cons first rest ih =>
      cases rest with
      | nil => rfl
      | cons second rest =>
          rw [List.intersperse_cons_cons, List.flatMap_cons, List.flatMap_cons, ih, sites_raw,
            List.nil_append]
          rfl

end Node

namespace Fragment

/-- The sites of a fragment's nodes in a scope, whatever alias the fragment has. -/
def bodySites (scope : Scope) (fragment : Fragment Value) : List (Site Value) :=
  fragment.nodes.flatMap fun node => node.sites scope

theorem bodySites_eq_map_within (scope : Scope) (fragment : Fragment Value) :
    fragment.bodySites scope = (fragment.bodySites Scope.root).map (Site.within scope) := by
  rw [bodySites, bodySites, List.map_flatMap]
  congr 1
  funext node
  exact node.sites_eq_map_within scope

/-- The sites of a fragment are those of its nodes under its own alias, if it has one. -/
theorem sites_eq_bodySites (scope : Scope) (fragment : Fragment Value) :
    fragment.sites scope = fragment.bodySites (scope.enter fragment.parentAlias) := by
  cases fragment with
  | mk segments last shape parentAlias =>
      rw [sites, sitesOfSegments_eq_flatMap, bodySites, nodes, List.flatMap_map]

@[simp]
theorem sites_ofText (scope : Scope) (sql : String) :
    (ofText sql : Fragment Value).sites scope = [] := by
  rw [sites_eq_bodySites]
  rfl

@[simp]
theorem sites_push (scope : Scope) (fragment : Fragment Value) (sql : String) :
    (fragment.push sql).sites scope = fragment.sites scope := by
  rw [sites_eq_bodySites, sites_eq_bodySites]
  rfl

/-- A node that is appended stands under the alias of the fragment. -/
@[simp]
theorem sites_pushNode (scope : Scope) (fragment : Fragment Value) (node : Node Value) :
    (fragment.pushNode node).sites scope =
      fragment.sites scope ++ node.sites (scope.enter fragment.parentAlias) := by
  rw [sites_eq_bodySites, sites_eq_bodySites, bodySites, nodes_pushNode, List.flatMap_append,
    List.flatMap_singleton]
  rfl

@[simp]
theorem sites_withShape (scope : Scope) (fragment : Fragment Value) (shape : ResultShape) :
    (fragment.withShape shape).sites scope = fragment.sites scope := by
  rw [sites_eq_bodySites, sites_eq_bodySites]
  rfl

/-- An alias that is set replaces the inherited one as well as the one before. -/
theorem sites_withParentAlias (scope : Scope) (fragment : Fragment Value) (tableAlias : String) :
    (fragment.withParentAlias tableAlias).sites scope =
      fragment.bodySites (scope.withParent tableAlias) := by
  rw [sites_eq_bodySites]
  rfl

@[simp]
theorem parentAlias_ofText (sql : String) :
    (ofText sql : Fragment Value).parentAlias = none := rfl

@[simp]
theorem parentAlias_push (fragment : Fragment Value) (sql : String) :
    (fragment.push sql).parentAlias = fragment.parentAlias := rfl

@[simp]
theorem parentAlias_pushNode (fragment : Fragment Value) (node : Node Value) :
    (fragment.pushNode node).parentAlias = fragment.parentAlias := rfl

@[simp]
theorem parentAlias_withShape (fragment : Fragment Value) (shape : ResultShape) :
    (fragment.withShape shape).parentAlias = fragment.parentAlias := rfl

end Fragment

namespace Query

theorem sites_qualified (scope : Scope) (table column : String) :
    (qualified table column : Node Value).sites scope = [] := by
  simp [qualified]

theorem sites_jsonPair (scope : Scope) (key : String) (expression : Node Value) :
    (jsonPair key expression).sites scope = expression.sites scope := by
  simp [jsonPair]

@[simp]
theorem sites_jsonObject (scope : Scope) (pairs : List (String × Node Value)) :
    (jsonObject pairs).sites scope = pairs.flatMap fun pair => pair.2.sites scope := by
  simp [jsonObject, List.flatMap_map, sites_jsonPair]

@[simp]
theorem sites_jsonMerge (scope : Scope) (pairs : List (String × Node Value)) :
    (jsonMerge pairs).sites scope = pairs.flatMap fun pair => pair.2.sites scope := by
  cases pairs with
  | nil => rw [jsonMerge, Node.sites_empty, List.flatMap_nil]
  | cons pair pairs => simp [jsonMerge]

@[simp]
theorem sites_rowProjection (scope : Scope) (tableRef : String)
    (columns : Option (List String)) :
    (rowProjection tableRef columns : Node Value).sites scope = [] := by
  cases columns with
  | none => simp [rowProjection, rowJson]
  | some columns => simp [rowProjection, List.flatMap_map, sites_qualified]

@[simp]
theorem sites_countProjection (scope : Scope) (columns : Option (List String)) :
    (countProjection columns : Node Value).sites scope = [] := by
  rw [countProjection.eq_def]
  split <;> simp [List.flatMap_map]

@[simp]
theorem sites_mergeLaterals (scope : Scope) (subselects : KeyMap (Fragment Value)) :
    (mergeLaterals subselects).sites scope = [] := by
  simp [mergeLaterals, lateralResult, List.flatMap_map]

/-- The sites of sub-selects that are joined to the rows of a table reference. -/
def sitesOfJoined (scope : Scope) (tableRef : String) (subselects : KeyMap (Fragment Value)) :
    List (Site Value) :=
  subselects.toList.flatMap fun entry => (entry.2.withParentAlias tableRef).sites scope

@[simp]
theorem sites_joinLaterals (scope : Scope) (tableRef : String)
    (subselects : KeyMap (Fragment Value)) :
    (joinLaterals tableRef subselects).sites scope =
      sitesOfJoined scope tableRef subselects := by
  simp [joinLaterals, joinLateral, sitesOfJoined, List.flatMap_map]

def sitesOfExtras (scope : Scope) (extras : KeyMap (Fragment Value)) : List (Site Value) :=
  extras.toList.flatMap fun entry => entry.2.sites scope

theorem sitesOfExtras_eq_map_within (scope : Scope) (extras : KeyMap (Fragment Value)) :
    sitesOfExtras scope extras = (sitesOfExtras Scope.root extras).map (Site.within scope) := by
  rw [sitesOfExtras, sitesOfExtras, List.map_flatMap]
  congr 1
  funext entry
  exact entry.2.sites_eq_map_within scope

@[simp]
theorem sites_extrasProjection (scope : Scope) (extras : KeyMap (Fragment Value)) :
    (extrasProjection extras).sites scope = sitesOfExtras scope extras := by
  simp [extrasProjection, sitesOfExtras, List.flatMap_map]

def Filter.sites (scope : Scope) : Filter Value → List (Site Value)
  | .all => []
  | .only condition => condition.node.sites scope

theorem Filter.sites_eq_map_within (scope : Scope) (filter : Filter Value) :
    filter.sites scope = (filter.sites Scope.root).map (Site.within scope) := by
  cases filter with
  | all => rfl
  | only condition => exact condition.node.sites_eq_map_within scope

def sitesOfOrder (scope : Scope) (order : List (OrderItem Value)) : List (Site Value) :=
  order.flatMap fun item => item.expression.sites scope

theorem sitesOfOrder_eq_map_within (scope : Scope) (order : List (OrderItem Value)) :
    sitesOfOrder scope order = (sitesOfOrder Scope.root order).map (Site.within scope) := by
  rw [sitesOfOrder, sitesOfOrder, List.map_flatMap]
  congr 1
  funext item
  exact item.expression.sites_eq_map_within scope

@[simp]
theorem OrderItem.sites_node (scope : Scope) (item : OrderItem Value) :
    item.node.sites scope = item.expression.sites scope := by
  cases item with
  | mk expression direction nulls => cases nulls <;> simp [node]

@[simp]
theorem sites_pushFilter (scope : Scope) (statement : Fragment Value) (filter : Filter Value) :
    (pushFilter statement filter).sites scope =
      statement.sites scope ++ filter.sites (scope.enter statement.parentAlias) := by
  cases filter <;> simp [pushFilter, Filter.sites]

@[simp]
theorem parentAlias_pushFilter (statement : Fragment Value) (filter : Filter Value) :
    (pushFilter statement filter).parentAlias = statement.parentAlias := by
  cases filter <;> rfl

@[simp]
theorem sites_pushOrder (scope : Scope) (statement : Fragment Value)
    (order : List (OrderItem Value)) :
    (pushOrder statement order).sites scope =
      statement.sites scope ++ sitesOfOrder (scope.enter statement.parentAlias) order := by
  cases order with
  | nil => simp [pushOrder, sitesOfOrder]
  | cons item items =>
      rw [pushOrder, Fragment.sites_pushNode, Node.sites_join]
      simp [sitesOfOrder, List.flatMap_map]

@[simp]
theorem parentAlias_pushOrder (statement : Fragment Value) (order : List (OrderItem Value)) :
    (pushOrder statement order).parentAlias = statement.parentAlias := by
  cases order <;> rfl

@[simp]
theorem sites_pushNumber (scope : Scope) (statement : Fragment Value) (keyword : String)
    (number : Option Nat) :
    (pushNumber statement keyword number).sites scope = statement.sites scope := by
  cases number <;> simp [pushNumber, Fragment.pushRaw]

@[simp]
theorem parentAlias_pushNumber (statement : Fragment Value) (keyword : String)
    (number : Option Nat) :
    (pushNumber statement keyword number).parentAlias = statement.parentAlias := by
  cases number <;> rfl

@[simp]
theorem parentAlias_pushProjection (statement : Fragment Value) (tableRef : String)
    (options : SelectOptions Value) (mode : SelectMode) :
    (pushProjection statement tableRef options mode).parentAlias = statement.parentAlias := by
  cases mode <;> rfl

@[simp]
theorem parentAlias_pushSource (statement : Fragment Value) (table : String)
    (options : SelectOptions Value) (mode : SelectMode) :
    (pushSource statement table options mode).parentAlias = statement.parentAlias := by
  cases mode <;> cases halias : options.tableAlias <;>
    simp [pushSource, Fragment.pushIdent, halias]

/-- The sites of a query over rows are those of what it returns, joins, keeps and orders by. -/
def sitesOfRows (scope : Scope) (tableRef : String) (filter : Filter Value)
    (options : SelectOptions Value) : SelectMode → List (Site Value)
  | .count => filter.sites scope
  | .many | .one =>
    sitesOfExtras scope options.extras ++ sitesOfJoined scope tableRef options.laterals ++
      filter.sites scope ++ sitesOfOrder scope options.order

theorem sites_selectRows (scope : Scope) (table : String) (filter : Filter Value)
    (options : SelectOptions Value) (mode : SelectMode) :
    (selectRows table filter (options.forMode mode) mode).sites scope =
      sitesOfRows scope (options.tableRef table) filter options mode := by
  cases mode with
  | count =>
      cases halias : options.tableAlias <;>
        simp [selectRows, sitesOfRows, pushProjection, pushSource, Fragment.pushIdent,
          SelectOptions.forMode, sitesOfOrder, halias]
  | one | many =>
      cases halias : options.tableAlias <;>
        simp [selectRows, sitesOfRows, pushProjection, pushSource, Fragment.pushIdent,
          SelectOptions.forMode, SelectOptions.tableRef, halias]

/-- A select has no alias of its own. -/
theorem parentAlias_selectMode (table : String) (filter : Filter Value)
    (options : SelectOptions Value) (mode : SelectMode) :
    (selectMode table filter options mode).parentAlias = none := by
  cases mode <;> simp [selectMode, selectRows, aggregate, Fragment.pushFragment,
    Fragment.pushIdent]

/-- The aggregation around the rows adds no site and no alias. -/
theorem sites_selectMode (scope : Scope) (table : String) (filter : Filter Value)
    (options : SelectOptions Value) (mode : SelectMode) :
    (selectMode table filter options mode).sites scope =
      sitesOfRows scope (options.tableRef table) filter options mode := by
  rw [← sites_selectRows]
  cases mode with
  | many => simp [selectMode, aggregate, Fragment.pushFragment, Fragment.pushIdent]
  | one | count => rw [selectMode, Fragment.sites_withShape]

theorem bodySites_selectMode (scope : Scope) (table : String) (filter : Filter Value)
    (options : SelectOptions Value) (mode : SelectMode) :
    (selectMode table filter options mode).bodySites scope =
      sitesOfRows scope (options.tableRef table) filter options mode := by
  rw [← sites_selectMode, Fragment.sites_eq_bodySites, parentAlias_selectMode,
    Scope.enter_none]

end Query

end SqlWeave
