import Mathlib.Data.List.Nodup
import SqlWeave.KeyMap.Lemmas
import SqlWeave.Proofs.BuiltReadings
import SqlWeave.Proofs.CanonicalForm

/-!
# Merged sub-selects

A query over rows names its sub-selects twice: where their results are merged
into the row object, and where they are joined.  Main statement: both lists come
from the sub-selects that were registered last under their keys, in one order
and under aliases that differ, and the values of a statement are bound in the
order of its clauses.
-/

namespace SqlWeave.Query

open Reading

variable {Value : Type}

/-- What is registered under keys, each key once and in ascending order, with what was
registered last under it. -/
structure Lists (entries : List (String × Fragment Value))
    (last? : String → Option (Fragment Value)) : Prop where
  ascending : (entries.map Prod.fst).Pairwise (· < ·)
  mem_iff : ∀ key fragment, (key, fragment) ∈ entries ↔ last? key = some fragment

theorem lists_toList {map : KeyMap (Fragment Value)} {last? : String → Option (Fragment Value)}
    (hget : ∀ key, map.get? key = last? key) : Lists map.toList last? where
  ascending := map.pairwise_keys
  mem_iff key fragment := by rw [KeyMap.mem_toList_iff, hget]

/-- No two keys are joined under one alias. -/
theorem Lists.nodup_aliases {entries : List (String × Fragment Value)}
    {last? : String → Option (Fragment Value)} (hlists : Lists entries last?) :
    (entries.map fun entry => quotedName (lateralAlias entry.1)).Nodup := by
  have haliases := (KeyMap.nodup_of_pairwise_lt hlists.ascending).map
    (quotedName_injective.comp lateralAlias_injective)
  rwa [List.map_map] at haliases

/-- An object of keyed readings that is merged into the one before it, or nothing without keys. -/
def readingOfMerge (pairs : List (String × Reading Value)) : Reading Value :=
  if pairs.isEmpty then literal ""
  else literal " || jsonb_build_object" ++ parenthesized (separated ", " (pairs.map fun pair =>
    literal ("'" ++ pair.1 ++ "', ") ++ pair.2))

theorem reading_jsonMerge_eq (scope : Scope) (pairs : List (String × Node Value)) :
    (jsonMerge pairs).reading scope =
      readingOfMerge (pairs.map fun pair => (pair.1, pair.2.reading scope)) := by
  rw [reading_jsonMerge, readingOfMerge, List.isEmpty_map]
  refine if_congr Iff.rfl rfl ?_
  rw [reading_jsonObject, literal_append_literal_append, List.map_map]
  rfl

theorem reading_mergeLaterals (scope : Scope) (subselects : KeyMap (Fragment Value)) :
    (mergeLaterals subselects).reading scope =
      readingOfMerge (subselects.toList.map fun entry =>
        (entry.1, name (lateralAlias entry.1) ++ literal ".result")) := by
  simp only [mergeLaterals, reading_jsonMerge_eq, List.map_map, Function.comp_def,
    reading_lateralResult, KeyMap.keys, KeyMap.toList]

theorem reading_extrasProjection (scope : Scope) (extras : KeyMap (Fragment Value)) :
    (extrasProjection extras).reading scope =
      readingOfMerge (extras.toList.map fun entry => (entry.1, entry.2.reading scope)) := by
  simp only [extrasProjection, reading_jsonMerge_eq, List.map_map, Function.comp_def,
    Node.reading_fragment]

theorem Filter.sites_reading (scope : Scope) (filter : Filter Value) :
    (filter.reading scope).sites = filter.sites scope := by
  cases filter with
  | all => rfl
  | only condition => exact condition.node.sites_reading scope

/-- A query over rows binds the values of its clauses, one clause behind the other. -/
theorem values_reading_selectMode (scope : Scope) (table : String) (filter : Filter Value)
    (options : SelectOptions Value) {mode : SelectMode} (hmode : mode ≠ .count) :
    ((selectMode table filter options mode).reading scope).values =
      (options.extras.toList.flatMap fun entry => (entry.2.reading scope).values) ++
      (options.laterals.toList.flatMap fun entry =>
        ((entry.2.withParentAlias (options.tableRef table)).reading scope).values) ++
      (filter.reading scope).values ++
      options.order.flatMap fun item => (item.expression.reading scope).values := by
  have hsites : (selectMode table filter options mode).sites scope =
      sitesOfExtras scope options.extras ++
        sitesOfJoined scope (options.tableRef table) options.laterals ++
        filter.sites scope ++ sitesOfOrder scope options.order := by
    rw [sites_selectMode]
    cases mode with
    | many | one => rfl
    | count => exact absurd rfl hmode
  simp only [values, Fragment.sites_reading, hsites, Filter.sites_reading, Node.sites_reading,
    sitesOfExtras, sitesOfJoined, sitesOfOrder, List.filterMap_append, List.filterMap_flatMap]

/-- A select merges the results of exactly the sub-selects that it joins.

There is one pair and one join for every key, in ascending order of the keys: the pair
refers to the alias of the join, and no two joins have one alias.  The body of the join is
the sub-select that was registered last under the key, compiled under the table reference
of the query.  The values of the computed keys are bound first, then those of the
sub-selects, both in ascending order of the keys, then those of the filter and of the
ordering items in the order in which these were appended.  Without sub-selects neither
the object nor a join is written. -/
theorem select_merges_exactly_its_joins (table : String) (filter : Filter Value)
    (choices : List (SelectOptions.Choice Value)) :
    let options := SelectOptions.chosen choices
    let tableRef := options.tableRef table
    let joined := options.laterals.toList
    let computed := options.extras.toList
    Lists joined (SelectOptions.lastLateral? choices) ∧
    Lists computed (SelectOptions.lastExtra? choices) ∧
    (joined.map fun entry => quotedName (lateralAlias entry.1)).Nodup ∧
    ∀ scope,
      let body := fun subselect : Fragment Value =>
        (subselect.withParentAlias tableRef).reading scope
      let merged := readingOfMerge (joined.map fun entry =>
        (entry.1, name (lateralAlias entry.1) ++ literal ".result"))
      let added := readingOfMerge (computed.map fun entry => (entry.1, entry.2.reading scope))
      let joins := concat (joined.map fun entry =>
        literal " LEFT JOIN LATERAL " ++ parenthesized (body entry.2) ++ literal " AS " ++
          name (lateralAlias entry.1) ++ literal " ON true")
      let rows := fun limit =>
        literal "SELECT " ++ (rowProjection tableRef options.columns).reading scope ++ merged ++
          added ++ literal " AS result FROM " ++
          (FromItem.table table options.tableAlias).reading scope ++ joins ++
          filter.reading scope ++ readingOfOrder scope options.order ++
          readingOfNumber " LIMIT " limit ++ readingOfNumber " OFFSET " options.offset
      (∀ entry ∈ joined,
        ((entry.2.withParentAlias tableRef).weave scope).Writes (body entry.2)) ∧
      ((selectMode table filter options .many).weave scope).Writes
        (literal "SELECT coalesce(jsonb_agg(result), '[]') AS result FROM " ++
          parenthesized (rows options.limit) ++ literal " AS " ++ name ("sq_" ++ tableRef)) ∧
      ((selectMode table filter options .one).weave scope).Writes (rows (some 1)) ∧
      (∀ mode, mode ≠ .count → ∀ out reached,
        ((selectMode table filter options mode).weave scope).run out = .ok () reached →
        reached.params.toList = out.params.toList ++
          (computed.flatMap fun entry => (entry.2.reading scope).values) ++
          (joined.flatMap fun entry => (body entry.2).values) ++
          (filter.reading scope).values ++
          (choices.filterMap SelectOptions.Choice.item?).flatMap fun item =>
            (item.expression.reading scope).values) ∧
      (joined = [] → merged = literal "" ∧ joins = literal "") := by
  intro options tableRef joined computed
  have hjoined : Lists joined (SelectOptions.lastLateral? choices) :=
    lists_toList (SelectOptions.get?_laterals_chosen choices)
  refine ⟨hjoined, lists_toList (SelectOptions.get?_extras_chosen choices),
    hjoined.nodup_aliases, fun scope => ?_⟩
  intro body merged added joins rows
  have hrows : ∀ (limit : Option Nat) (mode : SelectMode), mode ≠ .count →
      readingOfRows scope table filter { options with limit } mode = rows limit := by
    intro limit mode hmode
    cases mode with
    | count => exact absurd rfl hmode
    | many | one =>
        simp only [rows, readingOfRows, readingOfProjection, readingOfFrom, fromItems,
          SelectOptions.tableRef, List.map_cons, List.map_map, concat_cons,
          reading_mergeLaterals, reading_extrasProjection, append_assoc,
          literal_append_literal_append]
        -- both sides are clause by clause the same up to the names of the clauses
        rfl
  refine ⟨fun entry _ => Fragment.writes_weave scope _, ?_, ?_, ?_, ?_⟩
  · rw [← hrows options.limit .many (by decide), ← reading_selectMode_many]
    exact Fragment.writes_weave scope _
  · rw [← hrows (some 1) .one (by decide)]
    exact reading_selectMode_one scope table filter options ▸ Fragment.writes_weave scope _
  · intro mode hmode out reached hrun
    obtain ⟨-, rfl⟩ := (Fragment.writes_weave scope _).eq_of_run hrun
    rw [Compiled.followedBy, values_reading_selectMode scope table filter options hmode,
      ← SelectOptions.order_chosen]
    simp [joined, computed, body, tableRef, options]
  · intro hnone
    simp [merged, joins, hnone, readingOfMerge]

/-- The published posts of a user. -/
def publishedPosts : Fragment Nat :=
  select "posts" (.only (.matching (KeyMap.ofList
    [("user", .parentColumn "id"), ("state", .value 3)]))) {}

/-- Users with their posts and their boss; the posts are registered twice. -/
def postsAndBoss : List (SelectOptions.Choice Nat) :=
  [.lateral "posts" Fragment.empty.pushSelf,
    .orderBy ⟨.fragment (((Fragment.ofText "abs(age - ").pushBind 5).push ")"), .ascending, none⟩,
    .lateral "posts" publishedPosts,
    .lateral "boss" (selectOne "users" (.only (.matching (KeyMap.ofList
      [("id", .parentColumn "boss"), ("age", .value 2)]))) ({ tableAlias := "b" })),
    .extra "score" ((Fragment.ofText "1 + ").pushBind 1)]

theorem select_merges_exactly_its_joins_of_users :
    let options := SelectOptions.chosen postsAndBoss
    let filter := Filter.only (.matching (KeyMap.ofList [("name", .value 4)]))
    ("posts", publishedPosts) ∈ options.laterals.toList ∧
    SelectMode.one ≠ .count ∧
    (∃ reached, ((selectMode "users" filter options .one).weave Scope.root).run {} =
      .ok () reached ∧ reached.params.toList = [1, 2, 3, 4, 5]) ∧
    (selectMode "users" filter options .many).compile =
      .ok { text := "SELECT coalesce(jsonb_agg(result), '[]') AS result FROM (" ++
              "SELECT to_jsonb(\"users\".*) || jsonb_build_object(" ++
              "'boss', \"lateral_boss\".result, 'posts', \"lateral_posts\".result) || " ++
              "jsonb_build_object('score', 1 + $1) AS result FROM \"users\" " ++
              "LEFT JOIN LATERAL (SELECT to_jsonb(\"b\".*) AS result FROM \"users\" AS \"b\" " ++
              "WHERE (\"age\" = $2 AND \"id\" = \"users\".\"boss\") LIMIT 1) " ++
              "AS \"lateral_boss\" ON true " ++
              "LEFT JOIN LATERAL (SELECT coalesce(jsonb_agg(result), '[]') AS result FROM (" ++
              "SELECT to_jsonb(\"posts\".*) AS result FROM \"posts\" " ++
              "WHERE (\"state\" = $3 AND \"user\" = \"users\".\"id\")) AS \"sq_posts\") " ++
              "AS \"lateral_posts\" ON true " ++
              "WHERE (\"name\" = $4) ORDER BY abs(age - $5) ASC) AS \"sq_users\"",
            params := #[1, 2, 3, 4, 5] } := by
  intro options filter
  obtain ⟨hjoined, -, -, hscope⟩ := select_merges_exactly_its_joins "users" filter postsAndBoss
  obtain ⟨-, hmany, hone, hparams, -⟩ := hscope Scope.root
  have hrun := hone.run {} (by decide)
  refine ⟨(hjoined.mem_iff "posts" publishedPosts).2 rfl, by decide, ⟨_, hrun, ?_⟩, ?_⟩
  · exact (hparams .one (by decide) {} _ hrun).trans (by decide +kernel)
  · rw [Fragment.compile_of_writes hmany (by decide)]
    exact congrArg Except.ok (by decide +kernel)

end SqlWeave.Query
