import Mathlib.Data.List.Nodup
import SqlWeave.Proofs.BuiltReadings
import SqlWeave.Proofs.ParentReferences

/-!
# Exposed names

Which names the `FROM` clauses of nested selects expose, and which of them a
parent reference reaches when names are looked up innermost scope first.  Table
references and the aliases of joined sub-selects share one namespace.  Main
statement: in a tree whose table references differ along every path, no name is
captured exactly if no table reference looks like the alias of a join in its
own query or in one that is registered on it.
-/

namespace SqlWeave.Query

open Reading

variable {Value : Type}

/-- The name that an item of a `FROM` clause exposes. -/
def FromItem.exposed : FromItem Value → String
  | .table source tableAlias => tableAlias.getD source
  | .joined _ key _ => lateralAlias key

/-- A select with all its sub-selects registered. -/
structure SelectQuery (Value : Type) where
  table : String
  filter : Filter Value
  options : SelectOptions Value
  mode : SelectMode

namespace SelectQuery

def statement (query : SelectQuery Value) : Fragment Value :=
  selectMode query.table query.filter query.options query.mode

/-- The name that the query knows its table by. -/
def tableRef (query : SelectQuery Value) : String := query.options.tableRef query.table

/-- The items of the `FROM` clause. -/
def items (query : SelectQuery Value) : List (FromItem Value) :=
  fromItems query.table query.options query.mode

/-- The names that the `FROM` clause exposes. -/
def exposed (query : SelectQuery Value) : List String := query.items.map FromItem.exposed

/-- The keys of the sub-selects that are joined; a count joins none. -/
def joinedKeys (query : SelectQuery Value) : List String :=
  match query.mode with
  | .count => []
  | .many | .one => query.options.laterals.keys

/-- The sites of what stands in the query itself and not in its sub-selects. -/
def ownSites (scope : Scope) (query : SelectQuery Value) : List (Site Value) :=
  match query.mode with
  | .count => query.filter.sites scope
  | .many | .one =>
    sitesOfExtras scope query.options.extras ++ query.filter.sites scope ++
      sitesOfOrder scope query.options.order

theorem exposed_eq (query : SelectQuery Value) :
    query.exposed = query.tableRef :: query.joinedKeys.map lateralAlias := by
  obtain ⟨table, filter, options, mode⟩ := query
  cases mode <;>
    simp [exposed, items, fromItems, joinedKeys, tableRef, SelectOptions.tableRef,
      FromItem.exposed, KeyMap.keys, KeyMap.toList, Function.comp_def]

/-- The names of a `FROM` clause differ if the table does not look like one of the joins. -/
theorem nodup_exposed_iff (query : SelectQuery Value) :
    query.exposed.Nodup ↔ ∀ key ∈ query.joinedKeys, lateralAlias key ≠ query.tableRef := by
  have hkeys : query.joinedKeys.Nodup := by
    rw [joinedKeys]
    cases query.mode with
    | count => exact .nil
    | many | one => exact KeyMap.nodup_keys query.options.laterals
  rw [exposed_eq, List.nodup_cons, and_iff_left (List.Nodup.map lateralAlias_injective hkeys)]
  simp only [List.mem_map, not_exists, not_and]

/-- A query hides a name only as its table reference or as the alias of a sub-select. -/
theorem not_mem_exposed_iff (query : SelectQuery Value) (name : String) :
    name ∉ query.exposed ↔
      name ≠ query.tableRef ∧ ∀ key ∈ query.joinedKeys, lateralAlias key ≠ name := by
  rw [exposed_eq, List.mem_cons, not_or]
  simp only [List.mem_map, not_exists, not_and]

theorem ownSites_eq_map_within (scope : Scope) (query : SelectQuery Value) :
    query.ownSites scope = (query.ownSites Scope.root).map (Site.within scope) := by
  rw [ownSites, ownSites]
  cases query.mode with
  | count => exact query.filter.sites_eq_map_within scope
  | many | one =>
      simp only [List.map_append, ← sitesOfExtras_eq_map_within, ← sitesOfOrder_eq_map_within,
        ← Filter.sites_eq_map_within]

/-- What stands in the query itself stands in its statement. -/
theorem mem_sites_of_mem_ownSites {scope : Scope} {query : SelectQuery Value}
    {place : Site Value} (hplace : place ∈ query.ownSites scope) :
    place ∈ (query.statement.reading scope).sites := by
  have hsites : (query.statement.reading scope).sites =
      sitesOfRows scope query.tableRef query.filter query.options query.mode := by
    rw [Fragment.sites_reading, statement, sites_selectMode, tableRef]
  rw [hsites, sitesOfRows.eq_def]
  rw [ownSites] at hplace
  cases hmode : query.mode with
  | count => simpa only [hmode] using hplace
  | many | one =>
      simp only [hmode, List.mem_append] at hplace ⊢
      rcases hplace with (hextra | hfilter) | horder
      · exact .inl (.inl (.inl hextra))
      · exact .inl (.inr hfilter)
      · exact .inr horder

/-- The rows of a query stand in its statement, aggregated or not. -/
theorem occurs_rows (scope : Scope) (query : SelectQuery Value) :
    (readingOfRows scope query.table query.filter (query.options.forMode query.mode)
      query.mode).Occurs (query.statement.reading scope) := by
  obtain ⟨table, filter, options, mode⟩ := query
  cases mode with
  | many =>
      rw [statement, reading_selectMode_many]
      exact .append_left (.append_left (.append_right _ (.parenthesized _)) _) _
  | one =>
      rw [statement, reading_selectMode_one]
      exact .refl _
  | count =>
      rw [statement, reading_selectMode_count]
      exact .refl _

/-- The `FROM` clause stands in the statement. -/
theorem occurs_from (scope : Scope) (query : SelectQuery Value) :
    (readingOfFrom scope query.items).Occurs (query.statement.reading scope) := by
  have hitems : query.items =
      fromItems query.table (query.options.forMode query.mode) query.mode := by
    obtain ⟨table, filter, options, mode⟩ := query
    cases mode <;> rfl
  refine .trans ?_ (query.occurs_rows scope)
  rw [hitems]
  exact .append_left (.append_left (.append_left (.append_left (.append_right _ (.refl _)) _) _) _) _

/-- A sub-select that is joined stands in the statement. -/
theorem occurs_joined (scope : Scope) (query : SelectQuery Value) {key : String}
    {subselect : Fragment Value} (hmode : query.mode ≠ .count)
    (hmem : (key, subselect) ∈ query.options.laterals.toList) :
    ((subselect.withParentAlias query.tableRef).reading scope).Occurs
      (query.statement.reading scope) := by
  have hitem : FromItem.joined query.tableRef key subselect ∈ query.items := by
    obtain ⟨table, filter, options, mode⟩ := query
    cases mode with
    | count => exact absurd rfl hmode
    | many | one => exact List.mem_cons_of_mem _ (List.mem_map.2 ⟨(key, subselect), hmem, rfl⟩)
  have hjoined : ((subselect.withParentAlias query.tableRef).reading scope).Occurs
      ((FromItem.joined query.tableRef key subselect).reading scope) :=
    .append_left (.append_left (.append_left (.append_right _ (.parenthesized _)) _) _) _
  exact hjoined.trans (.trans (.append_right _ (.concat (List.mem_map.2 ⟨_, hitem, rfl⟩)))
    (query.occurs_from scope))

end SelectQuery

/-- A query of a tree, with the queries around it, innermost first. -/
structure PlacedQuery (Value : Type) where
  query : SelectQuery Value
  around : List (SelectQuery Value)

namespace PlacedQuery

/-- The table references of the queries around. -/
def enclosing (placed : PlacedQuery Value) : List String := placed.around.map SelectQuery.tableRef

/-- The scope of the query, where the root stands in the given one. -/
def scope (root : Scope) (placed : PlacedQuery Value) : Scope := root.enter placed.enclosing.head?

/-- The parent references that stand in the query itself. -/
def references (placed : PlacedQuery Value) : List ParentReference :=
  Query.placed placed.enclosing (placed.query.ownSites Scope.root)

/-- How many queries further out a name is found if it is looked up innermost scope first. -/
def lookup (placed : PlacedQuery Value) (name : String) : Option Nat :=
  (placed.query :: placed.around).findIdx? fun query => query.exposed.contains name

end PlacedQuery

/-- The query of a select, and the queries of the sub-selects that are registered on
it.  A sub-select that is replaced under its key is not there, and a count has none. -/
inductive SelectTree.HasQuery :
    SelectTree Value → List (SelectQuery Value) → PlacedQuery Value → Prop where
  | root (table : String) (filter : Filter Value) (options : SelectOptions Value)
      (mode : SelectMode) (subselects : List (String × SelectTree Value))
      (around : List (SelectQuery Value)) :
      HasQuery (.select table filter options mode subselects) around
        ⟨⟨table, filter, options.registerAll (statementsOf subselects), mode⟩, around⟩
  | registered {table : String} {filter : Filter Value} {options : SelectOptions Value}
      {mode : SelectMode} {subselects : List (String × SelectTree Value)}
      {around : List (SelectQuery Value)} {key : String} {subselect : SelectTree Value}
      {placed : PlacedQuery Value} :
      mode ≠ .count → KeyMap.lastValue? subselects key = some subselect →
      HasQuery subselect
        (⟨table, filter, options.registerAll (statementsOf subselects), mode⟩ :: around) placed →
      HasQuery (.select table filter options mode subselects) around placed

/-- A tree that is made from selects only. -/
inductive SelectTree.IsWhole : SelectTree Value → Prop where
  | select (table : String) (filter : Filter Value) {options : SelectOptions Value}
      (mode : SelectMode) {subselects : List (String × SelectTree Value)} :
      options.laterals = ∅ → (∀ entry ∈ subselects, IsWhole entry.2) →
      IsWhole (.select table filter options mode subselects)

theorem statementsOf_eq_map (subselects : List (String × SelectTree Value)) :
    statementsOf subselects = subselects.map fun entry => (entry.1, entry.2.statement) := by
  induction subselects with
  | nil => rfl
  | cons entry rest ih => rw [statementsOf, ih, List.map_cons]

theorem parentReferencesOf_eq_map (enclosing : List String)
    (subselects : List (String × SelectTree Value)) :
    parentReferencesOf enclosing subselects =
      subselects.map fun entry => (entry.1, entry.2.parentReferences enclosing) := by
  induction subselects with
  | nil => rfl
  | cons entry rest ih => rw [parentReferencesOf, ih, List.map_cons]

/-- A sub-select is joined with the fragment that was registered last under its key. -/
theorem mem_laterals_of_lastValue?_eq_some {options : SelectOptions Value}
    {subselects : List (String × SelectTree Value)} {key : String}
    {subselect : SelectTree Value}
    (hlast : KeyMap.lastValue? subselects key = some subselect) :
    (key, subselect.statement) ∈
      (options.registerAll (statementsOf subselects)).laterals.toList := by
  rw [KeyMap.mem_toList_iff, SelectOptions.registerAll_eq, KeyMap.get?_insertAll, statementsOf_eq_map,
    KeyMap.lastValue?_map subselects fun _ tree => tree.statement, hlast]
  rfl

namespace SelectTree.HasQuery

variable {tree : SelectTree Value} {around : List (SelectQuery Value)}
  {placed : PlacedQuery Value}

/-- What holds of the query of a select and of those below it holds of all its queries. -/
theorem forall_select {table : String} {filter : Filter Value} {options : SelectOptions Value}
    {mode : SelectMode} {subselects : List (String × SelectTree Value)}
    {property : PlacedQuery Value → Prop}
    (hroot : property
      ⟨⟨table, filter, options.registerAll (statementsOf subselects), mode⟩, around⟩)
    (hbelow : ∀ entry ∈ subselects, ∀ placed, entry.2.HasQuery
      (⟨table, filter, options.registerAll (statementsOf subselects), mode⟩ :: around) placed →
        property placed) :
    ∀ placed, SelectTree.HasQuery (.select table filter options mode subselects) around placed →
      property placed := by
  intro placed hquery
  cases hquery with
  | root => exact hroot
  | registered _ hlast hquery =>
      exact hbelow (_, _) (KeyMap.mem_of_lastValue?_eq_some hlast) placed hquery

theorem parentAlias_statement (hquery : tree.HasQuery around placed) :
    tree.statement.parentAlias = none := by
  cases hquery <;> exact parentAlias_selectMode _ _ _ _

/-- The statement of a query stands in that of its tree, under the table reference of
the query around it. -/
theorem occurs_statement (hquery : tree.HasQuery around placed) (scope : Scope) :
    (placed.query.statement.reading (placed.scope scope)).Occurs
      (tree.statement.reading (scope.enter (around.map SelectQuery.tableRef).head?)) := by
  induction hquery with
  | root table filter options mode subselects around => exact .refl _
  | @registered table filter options mode subselects around key subselect placed
      hmode hlast hquery ih =>
      let query : SelectQuery Value :=
        ⟨table, filter, options.registerAll (statementsOf subselects), mode⟩
      let outside := scope.enter (around.map SelectQuery.tableRef).head?
      have hscope : outside.withParent query.tableRef = scope.withParent query.tableRef := by
        cases hhead : (around.map SelectQuery.tableRef).head? <;>
          simp [outside, hhead, Scope.enter, Scope.withParent]
      have hjoined := query.occurs_joined outside hmode
        (mem_laterals_of_lastValue?_eq_some hlast)
      rw [reading_withParentAlias outside query.tableRef hquery.parentAlias_statement,
        hscope] at hjoined
      exact ih.trans hjoined

/-- The `FROM` clause of a query stands in the statement of its tree. -/
theorem occurs_from (hquery : tree.HasQuery around placed) (scope : Scope) :
    (readingOfFrom (placed.scope scope) placed.query.items).Occurs
      (tree.statement.reading (scope.enter (around.map SelectQuery.tableRef).head?)) :=
  (placed.query.occurs_from _).trans (hquery.occurs_statement scope)

/-- A parent reference of a query is in the statement, with the table reference of the
query around it. -/
theorem mem_referencesAt (hquery : tree.HasQuery around placed) (scope : Scope)
    {reference : ParentReference} (hreference : reference ∈ placed.references) :
    reference.resolve scope.parent ∈ referencesAt
      (tree.statement.reading (scope.enter (around.map SelectQuery.tableRef).head?)).sites := by
  have hparent : (placed.scope scope).parent = placed.enclosing.head?.or scope.parent := by
    rw [PlacedQuery.scope]
    cases placed.enclosing.head? <;> rfl
  have hresolved : reference.resolve scope.parent ∈
      referencesAt (placed.query.ownSites (placed.scope scope)) := by
    rw [SelectQuery.ownSites_eq_map_within, referencesAt_within hparent]
    exact List.mem_map.2 ⟨reference, hreference, rfl⟩
  obtain ⟨place, hplace, htable⟩ := List.mem_filterMap.1 hresolved
  exact List.mem_filterMap.2 ⟨place, (hquery.occurs_statement scope).mem_sites
    (SelectQuery.mem_sites_of_mem_ownSites hplace), htable⟩

end SelectTree.HasQuery

theorem SelectTree.referencesAt_reading_statement {tree : SelectTree Value} (hwhole : tree.IsWhole)
    (scope : Scope) :
    referencesAt (tree.statement.reading scope).sites =
      (tree.parentReferences []).map (ParentReference.resolve scope.parent) := by
  have halias : tree.statement.parentAlias = none := by
    cases hwhole
    exact parentAlias_selectMode _ _ _ _
  rw [Fragment.sites_reading, Fragment.sites_eq_bodySites, halias, Scope.enter_none]
  exact tree.referencesAt_statement (show scope.parent = [].head?.or scope.parent from rfl)

/-- Every parent reference of a tree that is made from selects stands in one of its queries. -/
theorem SelectTree.exists_query_of_mem_parentReferences {tree : SelectTree Value}
    (hwhole : tree.IsWhole) {around : List (SelectQuery Value)} {reference : ParentReference}
    (hreference : reference ∈ tree.parentReferences (around.map SelectQuery.tableRef)) :
    ∃ placed, tree.HasQuery around placed ∧ reference ∈ placed.references := by
  induction hwhole generalizing around with
  | @select table filter options mode subselects hlaterals _ ih =>
      let query : SelectQuery Value :=
        ⟨table, filter, options.registerAll (statementsOf subselects), mode⟩
      have hown : reference ∈ (⟨query, around⟩ : PlacedQuery Value).references →
          ∃ placed, HasQuery (.select table filter options mode subselects) around placed ∧
            reference ∈ placed.references :=
        fun hmem => ⟨⟨query, around⟩, .root _ _ _ _ _ _, hmem⟩
      have hinside : mode ≠ .count → reference ∈ ((options.laterals.mapEntries fun _ body =>
            placedBody ((query :: around).map SelectQuery.tableRef) body).insertAll
          (parentReferencesOf ((query :: around).map SelectQuery.tableRef)
            subselects)).values.flatten →
          ∃ placed, HasQuery (.select table filter options mode subselects) around placed ∧
            reference ∈ placed.references := by
        intro hmode hmem
        obtain ⟨references, hvalues, hmem⟩ := List.mem_flatten.1 hmem
        obtain ⟨⟨key, _⟩, hentry, rfl⟩ := List.mem_map.1 hvalues
        have hfound := KeyMap.get?_eq_some_of_mem hentry
        rw [KeyMap.get?_insertAll, hlaterals, KeyMap.get?_mapEntries,
          show (∅ : KeyMap (Fragment Value)).get? key = none from rfl, Option.map_none,
          Option.or_none, parentReferencesOf_eq_map,
          KeyMap.lastValue?_map subselects fun _ tree => tree.parentReferences _] at hfound
        obtain ⟨subselect, hlast, rfl⟩ := Option.map_eq_some_iff.1 hfound
        obtain ⟨placed, hquery, hplaced⟩ :=
          ih (key, subselect) (KeyMap.mem_of_lastValue?_eq_some hlast) hmem
        exact ⟨placed, .registered hmode hlast hquery, hplaced⟩
      have htableRef : options.tableRef table = query.tableRef := by
        simp only [query, SelectQuery.tableRef, SelectOptions.registerAll_eq]
        rfl
      cases mode with
      | count => exact hown hreference
      | many | one =>
          have hsites : query.ownSites Scope.root = sitesOfExtras Scope.root options.extras ++
              filter.sites Scope.root ++ sitesOfOrder Scope.root options.order := by
            simp only [query, SelectQuery.ownSites, SelectOptions.registerAll_eq]
          simp only [PlacedQuery.references, hsites, placed, List.filterMap_append,
            List.mem_append] at hown
          simp only [parentReferences, htableRef, List.mem_append] at hreference
          rcases hreference with ((hextra | hjoined) | hfilter) | horder
          · exact hown (.inl (.inl hextra))
          · exact hinside (by decide) hjoined
          · exact hown (.inl (.inr hfilter))
          · exact hown (.inr horder)

namespace PlacedQuery

/-- The table reference of the query around is looked up past the query if the query
does not expose it. -/
theorem lookup_tableRef {placed : PlacedQuery Value} {outer : SelectQuery Value}
    (houter : outer ∈ placed.around.head?)
    (hexposed : outer.tableRef ∉ placed.query.exposed) :
    placed.lookup outer.tableRef = some 1 := by
  obtain ⟨query, around⟩ := placed
  obtain ⟨rest, rfl⟩ := List.head?_eq_some_iff.1 houter
  have hfound : outer.tableRef ∈ outer.exposed := by
    rw [outer.exposed_eq]
    exact List.mem_cons_self
  simp [lookup, List.findIdx?_cons, hexposed, hfound]

end PlacedQuery

/-- Names of nested selects are captured by aliases of joins or not at all.

In a tree of selects whose table references differ along every path, every query
has its `FROM` clause and its parent references in the statement, and every parent
reference in the statement stands in one of the queries and names the table reference
of the query around it.
The names of every `FROM` clause differ, and no table reference that is named so
is exposed by the query itself, so that it is found in the query around it, if and only
if no alias of a join is the table reference of its own query or of the query around that. -/
theorem lateral_scopes_capture_no_name (tree : SelectTree Value) (scope : Scope)
    (hwhole : tree.IsWhole)
    (hdistinct : ∀ placed, tree.HasQuery [] placed →
      (placed.query.tableRef :: placed.enclosing).Nodup) :
    (∀ placed, tree.HasQuery [] placed →
      (readingOfFrom (placed.scope scope) placed.query.items).Occurs
        (tree.statement.reading scope) ∧
      ∀ reference ∈ placed.references, reference.resolve scope.parent ∈
        referencesAt (tree.statement.reading scope).sites) ∧
    (∀ printed ∈ referencesAt (tree.statement.reading scope).sites,
      ∃ placed reference, tree.HasQuery [] placed ∧ reference ∈ placed.references ∧
        printed = reference.resolve scope.parent ∧
        (reference.enclosing = placed.enclosing →
          ∀ outer ∈ placed.around.head?, printed.1 = some outer.tableRef)) ∧
    ((∀ placed, tree.HasQuery [] placed →
        placed.query.exposed.Nodup ∧
        ∀ outer ∈ placed.around.head?,
          outer.tableRef ∉ placed.query.exposed ∧ placed.lookup outer.tableRef = some 1) ↔
      ∀ placed, tree.HasQuery [] placed → ∀ key ∈ placed.query.joinedKeys,
        lateralAlias key ≠ placed.query.tableRef ∧
        ∀ outer ∈ placed.around.head?, lateralAlias key ≠ outer.tableRef) := by
  refine ⟨fun placed hquery => ?_, fun printed hprinted => ?_, ?_⟩
  · exact ⟨hquery.occurs_from scope,
      fun reference hreference => hquery.mem_referencesAt scope hreference⟩
  · rw [SelectTree.referencesAt_reading_statement hwhole scope] at hprinted
    obtain ⟨reference, hreference, rfl⟩ := List.mem_map.1 hprinted
    have hinside : reference ∈ tree.parentReferences
        (([] : List (SelectQuery Value)).map SelectQuery.tableRef) := hreference
    obtain ⟨placed, hquery, hmem⟩ :=
      SelectTree.exists_query_of_mem_parentReferences hwhole hinside
    refine ⟨placed, reference, hquery, hmem, rfl, fun henclosing outer houter => ?_⟩
    rw [ParentReference.resolve, henclosing, PlacedQuery.enclosing, List.head?_map, houter]
    rfl
  · constructor
    · intro hnames placed hquery key hkey
      obtain ⟨hnodup, houter⟩ := hnames placed hquery
      refine ⟨placed.query.nodup_exposed_iff.1 hnodup key hkey, fun outer hmem => ?_⟩
      exact ((placed.query.not_mem_exposed_iff _).1 (houter outer hmem).1).2 key hkey
    · intro haliases placed hquery
      refine ⟨placed.query.nodup_exposed_iff.2 fun key hkey => (haliases placed hquery key hkey).1,
        fun outer hmem => ?_⟩
      have hother : outer.tableRef ≠ placed.query.tableRef := by
        intro heq
        refine (List.nodup_cons.1 (hdistinct placed hquery)).1 (heq ▸ ?_)
        exact List.mem_map.2 ⟨outer, List.mem_of_mem_head? hmem, rfl⟩
      have hexposed : outer.tableRef ∉ placed.query.exposed :=
        (placed.query.not_mem_exposed_iff _).2
          ⟨hother, fun key hkey => (haliases placed hquery key hkey).2 outer hmem⟩
      exact ⟨hexposed, placed.lookup_tableRef hmem hexposed⟩

/-- The comments of `usersWithPosts` find the row of the posts, and the posts that of the users. -/
theorem lateral_scopes_capture_no_name_of_users :
    let tree : SelectTree Nat := .select "users" .all {} .many usersWithPosts
    (∀ placed, tree.HasQuery [] placed →
      (readingOfFrom (placed.scope Scope.root) placed.query.items).Occurs
        (tree.statement.reading Scope.root)) ∧
    (∃ placed reference, tree.HasQuery [] placed ∧ reference ∈ placed.references ∧
      (some "p", "number") = reference.resolve none) ∧
    ∀ placed, tree.HasQuery [] placed →
      placed.query.exposed.Nodup ∧
      ∀ outer ∈ placed.around.head?,
        outer.tableRef ∉ placed.query.exposed ∧ placed.lookup outer.tableRef = some 1 := by
  intro tree
  have hwhole : tree.IsWhole := by
    refine .select _ _ _ rfl (List.forall_mem_singleton.2 ?_)
    exact .select _ _ _ rfl (List.forall_mem_singleton.2 (.select _ _ _ rfl nofun))
  have hdistinct : ∀ placed, tree.HasQuery [] placed →
      (placed.query.tableRef :: placed.enclosing).Nodup := by
    refine SelectTree.HasQuery.forall_select (by decide) (List.forall_mem_singleton.2 ?_)
    refine SelectTree.HasQuery.forall_select (by decide) (List.forall_mem_singleton.2 ?_)
    exact SelectTree.HasQuery.forall_select (by decide) nofun
  have haliases : ∀ placed, tree.HasQuery [] placed → ∀ key ∈ placed.query.joinedKeys,
      lateralAlias key ≠ placed.query.tableRef ∧
      ∀ outer ∈ placed.around.head?, lateralAlias key ≠ outer.tableRef := by
    refine SelectTree.HasQuery.forall_select (by decide) (List.forall_mem_singleton.2 ?_)
    refine SelectTree.HasQuery.forall_select (by decide) (List.forall_mem_singleton.2 ?_)
    exact SelectTree.HasQuery.forall_select (by decide) nofun
  obtain ⟨hfrom, hplaced, hnames⟩ :=
    lateral_scopes_capture_no_name tree Scope.root hwhole hdistinct
  obtain ⟨placed, reference, hquery, hmem, hprinted, -⟩ :=
    hplaced (some "p", "number") (by decide)
  exact ⟨fun placed hquery => (hfrom placed hquery).1, ⟨placed, reference, hquery, hmem, hprinted⟩,
    hnames.2 haliases⟩

/-- A table that looks like the join of a sub-select, which refers to it and joins a
sub-select under the same key. -/
def prefixedTable : SelectTree Nat :=
  .select "lateral_x" .all {} .many
    [("x", .select "t" (.only (.matching (KeyMap.ofList [("a", .parentColumn "b")]))) {} .many
      [("x", .select "u" .all {} .many [])])]

/-- The root exposes one name twice, and what the sub-select refers to in the root's row
is found in its own `FROM` clause. -/
theorem prefixedTable_is_captured :
    prefixedTable.IsWhole ∧
    (∀ placed, prefixedTable.HasQuery [] placed →
      (placed.query.tableRef :: placed.enclosing).Nodup) ∧
    (∃ placed, prefixedTable.HasQuery [] placed ∧
      (readingOfFrom (placed.scope Scope.root) placed.query.items).Occurs
        (prefixedTable.statement.reading Scope.root) ∧
      ¬placed.query.exposed.Nodup) ∧
    (∃ placed reference name, prefixedTable.HasQuery [] placed ∧
      (readingOfFrom (placed.scope Scope.root) placed.query.items).Occurs
        (prefixedTable.statement.reading Scope.root) ∧
      reference ∈ placed.references ∧ reference.enclosing = placed.enclosing ∧
      reference.resolve none = (some name, "b") ∧
      (some name, "b") ∈ referencesAt (prefixedTable.statement.reading Scope.root).sites ∧
      name ∈ placed.query.exposed ∧ placed.lookup name = some 0) := by
  refine ⟨?_, ?_, ?_, ?_⟩
  · refine .select _ _ _ rfl (List.forall_mem_singleton.2 ?_)
    exact .select _ _ _ rfl (List.forall_mem_singleton.2 (.select _ _ _ rfl nofun))
  · refine SelectTree.HasQuery.forall_select (by decide) (List.forall_mem_singleton.2 ?_)
    refine SelectTree.HasQuery.forall_select (by decide) (List.forall_mem_singleton.2 ?_)
    exact SelectTree.HasQuery.forall_select (by decide) nofun
  · have hroot : prefixedTable.HasQuery [] _ := .root _ _ _ _ _ _
    exact ⟨_, hroot, hroot.occurs_from Scope.root, by decide⟩
  · have hinner : prefixedTable.HasQuery [] _ := .registered nofun
      (show KeyMap.lastValue? [("x", _)] "x" = some _ from rfl) (.root _ _ _ _ _ _)
    exact ⟨_, ⟨["lateral_x"], "b"⟩, "lateral_x", hinner, hinner.occurs_from Scope.root, by decide⟩

end SqlWeave.Query
