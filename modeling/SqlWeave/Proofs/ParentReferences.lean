import SqlWeave.Error
import SqlWeave.KeyMap.Lemmas
import SqlWeave.Proofs.BuiltSites
import SqlWeave.Proofs.Rendering

/-!
# Parent references in nested selects

What a parent reference resolves to in selects that are nested through
sub-selects.  The specification follows the tree of the selects and not the
aliases that their fragments carry: it lists, for every reference, the table
references of the queries around it.  Main statement: a compiled select
resolves every reference to the innermost of them, and those of the root query
to the inherited alias.
-/

namespace SqlWeave.Query

variable {Value : Type}

/-- A select with the sub-selects that are registered on it, to any depth. -/
inductive SelectTree (Value : Type) where
  /-- A select, with keyed sub-selects in the order of their registration. -/
  | select (table : String) (filter : Filter Value) (options : SelectOptions Value)
      (mode : SelectMode) (subselects : List (String × SelectTree Value))
  /-- Whatever the fragment says. -/
  | sql (body : Fragment Value)

/-- Register sub-selects one after the other. -/
def SelectOptions.registerAll (options : SelectOptions Value)
    (subselects : List (String × Fragment Value)) : SelectOptions Value :=
  subselects.foldl (fun registered entry => registered.lateral entry.1 entry.2) options

mutual

/-- The statement of a select with its sub-selects. -/
def SelectTree.statement : SelectTree Value → Fragment Value
  | .select table filter options mode subselects =>
    selectMode table filter (options.registerAll (statementsOf subselects)) mode
  | .sql body => body

def statementsOf : List (String × SelectTree Value) → List (String × Fragment Value)
  | [] => []
  | (key, tree) :: rest => (key, tree.statement) :: statementsOf rest

end

/-- A reference to a column of an enclosing query's row. -/
structure ParentReference where
  /-- The table references of the queries around it, innermost first. -/
  enclosing : List String
  column : String
  deriving DecidableEq, Repr

/-- The table and column that a reference stands for, where an alias may be inherited. -/
def ParentReference.resolve (inherited : Option String) (reference : ParentReference) :
    Option String × String :=
  (reference.enclosing.head?.or inherited, reference.column)

/-- The tables and columns of the parent references at sites. -/
def referencesAt (places : List (Site Value)) : List (Option String × String) :=
  places.filterMap Site.reference?

/-- The parent references at sites of a part of a query.  A table that a site
names already is that of a query inside the part. -/
def placed (enclosing : List String) (places : List (Site Value)) : List ParentReference :=
  places.filterMap fun place =>
    place.reference?.map fun reference => ⟨reference.1.toList ++ enclosing, reference.2⟩

/-- The parent references of a fragment that is registered as a sub-select. -/
def placedBody (enclosing : List String) (body : Fragment Value) : List ParentReference :=
  placed enclosing (body.bodySites Scope.root)

mutual

/-- The parent references of a select with its sub-selects, in the order of the
statement: each sub-select has one more query around it than the query that
registers it.  A sub-select that is replaced under its key is not there, and a
count has neither computed values nor sub-selects nor an ordering. -/
def SelectTree.parentReferences (enclosing : List String) :
    SelectTree Value → List ParentReference
  | .select _ filter _ .count _ => placed enclosing (filter.sites Scope.root)
  | .select table filter options .one subselects
  | .select table filter options .many subselects =>
    let inside := options.tableRef table :: enclosing
    let replaced := options.laterals.mapEntries fun _ body => placedBody inside body
    placed enclosing (sitesOfExtras Scope.root options.extras) ++
      (replaced.insertAll (parentReferencesOf inside subselects)).values.flatten ++
      placed enclosing (filter.sites Scope.root) ++
      placed enclosing (sitesOfOrder Scope.root options.order)
  | .sql body => placedBody enclosing body

def parentReferencesOf (enclosing : List String) :
    List (String × SelectTree Value) → List (String × List ParentReference)
  | [] => []
  | (key, tree) :: rest =>
    (key, tree.parentReferences enclosing) :: parentReferencesOf enclosing rest

end

theorem SelectOptions.registerAll_eq (options : SelectOptions Value)
    (subselects : List (String × Fragment Value)) :
    options.registerAll subselects =
      { options with laterals := options.laterals.insertAll subselects } := by
  induction subselects generalizing options with
  | nil => rfl
  | cons entry rest ih => exact ih (options.lateral entry.1 entry.2)

/-- The references among sites that are put into a scope resolve as the queries around say. -/
theorem referencesAt_within {scope : Scope} {inherited : Option String}
    {enclosing : List String} (hparent : scope.parent = enclosing.head?.or inherited)
    (places : List (Site Value)) :
    referencesAt (places.map (Site.within scope)) =
      (placed enclosing places).map (ParentReference.resolve inherited) := by
  rw [referencesAt, placed, List.filterMap_map, List.map_filterMap]
  congr 1
  funext place
  cases place with
  | bound _ | current _ | comparedDefault _ => rfl
  | enclosing table column =>
      cases table with
      | none => simp [Site.within, Site.reference?, ParentReference.resolve, hparent]
      | some table => rfl

theorem referencesAt_bodySites {scope : Scope} {inherited : Option String}
    {enclosing : List String} (hparent : scope.parent = enclosing.head?.or inherited)
    (body : Fragment Value) :
    referencesAt (body.bodySites scope) =
      (placedBody enclosing body).map (ParentReference.resolve inherited) := by
  rw [body.bodySites_eq_map_within, referencesAt_within hparent, placedBody]

/-- A sub-select is joined with the table reference for its alias, whatever alias it had. -/
theorem referencesAt_sitesOfJoined (scope : Scope) (tableRef : String)
    (subselects : KeyMap (Fragment Value)) :
    referencesAt (sitesOfJoined scope tableRef subselects) =
      (subselects.mapEntries fun _ body =>
        referencesAt (body.bodySites (scope.withParent tableRef))).values.flatten := by
  rw [referencesAt, sitesOfJoined, List.filterMap_flatMap, List.flatMap_def]
  simp only [Fragment.sites_withParentAlias, referencesAt, KeyMap.values, KeyMap.mapEntries,
    KeyMap.toList, List.map_map, Function.comp_def]

theorem map_flatten_values {Image : Type} (change : ParentReference → Image)
    (lists : KeyMap (List ParentReference)) :
    lists.values.flatten.map change =
      (lists.mapEntries fun _ references => references.map change).values.flatten := by
  rw [List.map_flatten, KeyMap.values, KeyMap.values, KeyMap.mapEntries, List.map_map,
    List.map_map]
  rfl

/-- What is registered under the same keys resolves to the same references. -/
theorem referencesAt_registered {scope : Scope} {inherited : Option String}
    {enclosing : List String} {tableRef : String} (laterals : KeyMap (Fragment Value))
    (subselects : List (String × Fragment Value))
    (references : List (String × List ParentReference))
    (hreferences : (subselects.map fun entry =>
        (entry.1, referencesAt (entry.2.bodySites (scope.withParent tableRef)))) =
      references.map fun entry => (entry.1, entry.2.map (ParentReference.resolve inherited))) :
    referencesAt (sitesOfJoined scope tableRef (laterals.insertAll subselects)) =
      ((laterals.mapEntries fun _ body =>
        placedBody (tableRef :: enclosing) body).insertAll references).values.flatten.map
          (ParentReference.resolve inherited) := by
  have hbody : (fun (_ : String) (body : Fragment Value) =>
      referencesAt (body.bodySites (scope.withParent tableRef))) =
      fun _ body => (placedBody (tableRef :: enclosing) body).map
        (ParentReference.resolve inherited) := by
    funext _ body
    exact referencesAt_bodySites rfl body
  rw [referencesAt_sitesOfJoined, KeyMap.mapEntries_insertAll, hreferences, hbody,
    map_flatten_values, KeyMap.mapEntries_insertAll, KeyMap.mapEntries_mapEntries]

/-- The references of rows resolve as the queries around say, if those of the
sub-selects do. -/
theorem referencesAt_rows {scope : Scope} {inherited : Option String} {enclosing : List String}
    (hparent : scope.parent = enclosing.head?.or inherited) (tableRef : String)
    (filter : Filter Value) (options : SelectOptions Value)
    (inside : List ParentReference)
    (hjoined : referencesAt (sitesOfJoined scope tableRef options.laterals) =
      inside.map (ParentReference.resolve inherited)) :
    referencesAt (sitesOfExtras scope options.extras ++
      sitesOfJoined scope tableRef options.laterals ++
      filter.sites scope ++ sitesOfOrder scope options.order) =
      (placed enclosing (sitesOfExtras Scope.root options.extras) ++ inside ++
        placed enclosing (filter.sites Scope.root) ++
        placed enclosing (sitesOfOrder Scope.root options.order)).map
          (ParentReference.resolve inherited) := by
  have hextras : referencesAt (sitesOfExtras scope options.extras) =
      (placed enclosing (sitesOfExtras Scope.root options.extras)).map
        (ParentReference.resolve inherited) := by
    rw [sitesOfExtras_eq_map_within, referencesAt_within hparent]
  have hfilter : referencesAt (filter.sites scope) =
      (placed enclosing (filter.sites Scope.root)).map (ParentReference.resolve inherited) := by
    rw [filter.sites_eq_map_within, referencesAt_within hparent]
  have horder : referencesAt (sitesOfOrder scope options.order) =
      (placed enclosing (sitesOfOrder Scope.root options.order)).map
        (ParentReference.resolve inherited) := by
    rw [sitesOfOrder_eq_map_within, referencesAt_within hparent]
  rw [referencesAt] at hextras hjoined hfilter horder
  rw [referencesAt, List.filterMap_append, List.filterMap_append, List.filterMap_append,
    hextras, hjoined, hfilter, horder, List.map_append, List.map_append, List.map_append]

mutual

/-- The references in the body of a tree resolve as the queries around the tree say. -/
theorem SelectTree.referencesAt_statement {scope : Scope} {inherited : Option String}
    {enclosing : List String} (hparent : scope.parent = enclosing.head?.or inherited) :
    (tree : SelectTree Value) →
      referencesAt (tree.statement.bodySites scope) =
        (tree.parentReferences enclosing).map (ParentReference.resolve inherited)
  | .sql body => referencesAt_bodySites hparent body
  | .select table filter options .count subselects => by
      rw [SelectTree.statement, bodySites_selectMode, SelectTree.parentReferences,
        sitesOfRows, filter.sites_eq_map_within, referencesAt_within hparent]
  | .select table filter options .one subselects
  | .select table filter options .many subselects => by
      -- a sub-select sees the table reference, which is the head of what encloses it
      have hinside := map_statementsOf (show (scope.withParent (options.tableRef table)).parent =
          (options.tableRef table :: enclosing).head?.or inherited from rfl) subselects
      rw [SelectTree.statement, bodySites_selectMode, SelectTree.parentReferences,
        sitesOfRows, SelectOptions.registerAll_eq]
      exact referencesAt_rows hparent (options.tableRef table) filter _ _
        (referencesAt_registered options.laterals _ _ hinside)

theorem map_statementsOf {scope : Scope} {inherited : Option String}
    {enclosing : List String} (hparent : scope.parent = enclosing.head?.or inherited) :
    (subselects : List (String × SelectTree Value)) →
      ((statementsOf subselects).map fun entry =>
        (entry.1, referencesAt (entry.2.bodySites scope))) =
      (parentReferencesOf enclosing subselects).map fun entry =>
        (entry.1, entry.2.map (ParentReference.resolve inherited))
  | [] => rfl
  | (key, tree) :: rest => by
      rw [statementsOf, parentReferencesOf, List.map_cons, List.map_cons,
        SelectTree.referencesAt_statement hparent tree, map_statementsOf hparent rest]

end

/-- Whatever the scope, the parent references of a select with its sub-selects
are those that its tree lists, each resolved to the innermost query around it
and those of the root query to the inherited alias.  One that the walk comes to
is written as its quoted table and column, and if it has no table, it ends the
walk with a context error.  Without an inherited alias, a reference of the root
query lets no walk succeed. -/
theorem select_resolves_parent_references (table : String) (filter : Filter Value)
    (options : SelectOptions Value) (mode : SelectMode)
    (subselects : List (String × SelectTree Value)) (scope : Scope) (out : Compiled Value) :
    let tree := SelectTree.select table filter options mode subselects
    let pieces := tree.statement.pieces scope
    referencesAt (Piece.sites pieces) =
      (tree.parentReferences []).map (ParentReference.resolve scope.parent) ∧
    (∀ front tableRef column back,
      pieces = front ++ .site (.enclosing (some tableRef) column) :: back →
      Piece.firstFault? front = none →
      (tree.statement.weave scope).run out =
        (Piece.writeAll back).run
          { out.extend front with
            text := (out.extend front).text ++
              (quotedName tableRef ++ "." ++ quotedName column) }) ∧
    (∀ front column back,
      pieces = front ++ .site (.enclosing none column) :: back →
      Piece.firstFault? front = none →
      (tree.statement.weave scope).run out =
        .error (.parentOutsideLateral column) (out.extend front) ∧
      ∃ message, Error.ofTreeFault (.parentOutsideLateral column) = .context message) ∧
    (∀ reference ∈ tree.parentReferences [], reference.enclosing = [] → scope.parent = none →
      ∃ fault reached, (tree.statement.weave scope).run out = .error fault reached) := by
  intro tree pieces
  have hreferences : referencesAt (Piece.sites pieces) =
      (tree.parentReferences []).map (ParentReference.resolve scope.parent) := by
    have halias : tree.statement.parentAlias = none := by
      simp only [tree, SelectTree.statement, parentAlias_selectMode]
    have htree := tree.referencesAt_statement (show scope.parent = [].head?.or scope.parent from rfl)
    rw [← htree, Fragment.sites_pieces, Fragment.sites_eq_bodySites, halias,
      Scope.enter_none]
  refine ⟨hreferences, ?_, ?_, ?_⟩
  · intro front tableRef column back hpieces hfront
    rw [Fragment.weave_eq_writeAll, show tree.statement.pieces scope = _ from hpieces,
      Piece.run_writeAll_append hfront, Piece.run_writeAll_reference]
  · intro front column back hpieces hfront
    refine ⟨?_, _, rfl⟩
    rw [Fragment.weave_eq_writeAll, show tree.statement.pieces scope = _ from hpieces,
      Piece.run_writeAll_append hfront, Piece.run_writeAll_unresolved]
  · intro reference hmem houtside hparent
    have hresolved : (none, reference.column) ∈
        referencesAt (Piece.sites pieces) := by
      rw [hreferences]
      refine List.mem_map.2 ⟨reference, hmem, ?_⟩
      rw [ParentReference.resolve, houtside, hparent]
      rfl
    obtain ⟨place, hplace, hreference⟩ := List.mem_filterMap.1 hresolved
    have hfault : place.fault? = some (.parentOutsideLateral reference.column) := by
      cases place with
      | bound _ | current _ | comparedDefault _ => cases hreference
      | enclosing tableRef column =>
          cases hreference
          rfl
    obtain ⟨fault, hfirst⟩ := Piece.exists_firstFault?_of_mem_sites hplace hfault
    refine ⟨fault, out.extend (Piece.written pieces), ?_⟩
    rw [Fragment.weave_eq_writeAll, Piece.run_writeAll, hfirst]

/-- Users with their posts under another name, and each post with its comments. -/
def usersWithPosts : List (String × SelectTree Nat) :=
  [("posts", .select "posts"
    (.only (.matching (KeyMap.ofList [("author", .parentColumn "id")])))
    { tableAlias := some "p" } .many
    [("comments", .select "comments"
      (.only (.matching (KeyMap.ofList [("post", .parentColumn "number")]))) {} .count [])])]

/-- The comments refer to the posts around them and the posts to the users; what
the users refer to is nowhere. -/
theorem select_resolves_parent_references_of_posts :
    let filter := Filter.only (.sql ((Fragment.empty : Fragment Nat).pushParent "tenant"))
    let tree := SelectTree.select "users" filter {} .one usersWithPosts
    let pieces := tree.statement.pieces Scope.root
    referencesAt (Piece.sites pieces) =
      [(some "p", "number"), (some "users", "id"), (none, "tenant")] ∧
    (tree.statement.weave Scope.root).run {} =
      (Piece.writeAll (pieces.drop 63)).run
        { Compiled.extend {} (pieces.take 62) with
          text := (Compiled.extend {} (pieces.take 62)).text ++
            (quotedName "p" ++ "." ++ quotedName "number") } ∧
    (tree.statement.weave Scope.root).run {} =
      .error (.parentOutsideLateral "tenant") (Compiled.extend {} (pieces.take 92)) ∧
    ∃ fault reached, (tree.statement.weave Scope.root).run {} = .error fault reached := by
  intro filter tree pieces
  obtain ⟨hreferences, hwritten, hunresolved, hroot⟩ :=
    select_resolves_parent_references "users" filter {} .one usersWithPosts Scope.root {}
  refine ⟨?_, ?_, ?_, ?_⟩
  · rw [hreferences]
    decide
  · exact hwritten (pieces.take 62) "p" "number" (pieces.drop 63) (by decide) (by decide)
  · exact (hunresolved (pieces.take 92) "tenant" (pieces.drop 93) (by decide) (by decide)).1
  · exact hroot ⟨[], "tenant"⟩ (by decide) rfl rfl

end SqlWeave.Query
