import Mathlib.Data.List.Basic
import SqlWeave.Error
import SqlWeave.KeyMap.Lemmas
import SqlWeave.Proofs.Rendering

/-!
# Bad positions

Which trees can be compiled.  A place of a tree is bad if it holds a reference
that nothing around it resolves, or a default that is compared with its column;
the judgement follows the tree and says nothing of text or of a walk.  Main
statement: compilation fails exactly on trees with a bad position, with the
fault of the first one in document order, whatever was written before.
-/

namespace SqlWeave

variable {Value : Type}

/-- The way from the root of a tree to one of its places: the child to enter on
every level.  One place stands before another in the document exactly if its
position is the smaller one. -/
abbrev Position := List Nat

mutual

/-- What is wrong at a position of a node. -/
inductive Node.BadAt : Scope → Node Value → Position → TreeFault → Prop where
  | selfColumn {scope : Scope} (hcolumn : scope.column = none) :
      Node.BadAt scope .selfColumn [] .selfOutsideColumn
  | parentColumn {scope : Scope} {column : String} (hparent : scope.parent = none) :
      Node.BadAt scope (.parentColumn column) [] (.parentOutsideLateral column)
  | values {scope : Scope} {cells : List (String × Cell Value)} {index : Nat}
      {column : String} {cell : Cell Value} {position : Position} {fault : TreeFault}
      (hcell : cells[index]? = some (column, cell))
      (hbad : Cell.BadAt (scope.withColumn column) cell position fault) :
      Node.BadAt scope (.values cells) (index :: position) fault
  | fragment {scope : Scope} {body : Fragment Value} {position : Position} {fault : TreeFault}
      (hbad : Fragment.BadAt scope body position fault) :
      Node.BadAt scope (.fragment body) position fault
  | seq {scope : Scope} {items : List (Node Value)} {index : Nat} {node : Node Value}
      {position : Position} {fault : TreeFault} (hitem : items[index]? = some node)
      (hbad : Node.BadAt scope node position fault) :
      Node.BadAt scope (.seq items) (index :: position) fault
  | predicate {scope : Scope} {cells : List (String × Cell Value)} {index : Nat}
      {column : String} {cell : Cell Value} {position : Position} {fault : TreeFault}
      (hcell : cells[index]? = some (column, cell))
      (hbad : Cell.BadConditionAt (scope.withColumn column) column cell position fault) :
      Node.BadAt scope (.predicate cells) (index :: position) fault

/-- What is wrong at a position of a cell that is assigned. -/
inductive Cell.BadAt : Scope → Cell Value → Position → TreeFault → Prop where
  | parentColumn {scope : Scope} {column : String} (hparent : scope.parent = none) :
      Cell.BadAt scope (.parentColumn column) [] (.parentOutsideLateral column)
  | sql {scope : Scope} {body : Fragment Value} {position : Position} {fault : TreeFault}
      (hbad : Fragment.BadAt scope body position fault) :
      Cell.BadAt scope (.sql body) position fault

/-- What is wrong at a position of a cell that its column is compared with. -/
inductive Cell.BadConditionAt :
    Scope → String → Cell Value → Position → TreeFault → Prop where
  | default {scope : Scope} {column : String} :
      Cell.BadConditionAt scope column .default [] (.defaultCompared column)
  | parentColumn {scope : Scope} {column referenced : String} (hparent : scope.parent = none) :
      Cell.BadConditionAt scope column (.parentColumn referenced) []
        (.parentOutsideLateral referenced)
  | sql {scope : Scope} {column : String} {body : Fragment Value} {position : Position}
      {fault : TreeFault} (hbad : Fragment.BadAt scope body position fault) :
      Cell.BadConditionAt scope column (.sql body) position fault

/-- What is wrong at a position of a fragment, whose own alias replaces the inherited one. -/
inductive Fragment.BadAt : Scope → Fragment Value → Position → TreeFault → Prop where
  | node {scope : Scope} {segments : List (String × Node Value)} {last : String}
      {shape : ResultShape} {parentAlias : Option String} {index : Nat} {literal : String}
      {node : Node Value} {position : Position} {fault : TreeFault}
      (hnode : segments[index]? = some (literal, node))
      (hbad : Node.BadAt (scope.enter parentAlias) node position fault) :
      Fragment.BadAt scope ⟨segments, last, shape, parentAlias⟩ (index :: position) fault

end

/-- The fault at the first of all bad positions, or none if there is no bad position. -/
def IsFirstFault (bad : Position → TreeFault → Prop) : Option TreeFault → Prop
  | none => ∀ position fault, ¬ bad position fault
  | some first => ∃ position, bad position first ∧
      ∀ other fault, bad other fault → other = position ∧ fault = first ∨ position < other

namespace IsFirstFault

variable {bad earlier later : Position → TreeFault → Prop}
  {first second : Option TreeFault}

theorem isSome_iff (h : IsFirstFault bad first) :
    first.isSome ↔ ∃ position fault, bad position fault := by
  cases first with
  | none => exact ⟨nofun, fun ⟨position, fault, hbad⟩ => (h position fault hbad).elim⟩
  | some fault =>
      obtain ⟨position, hbad, _⟩ := h
      exact ⟨fun _ => ⟨position, fault, hbad⟩, fun _ => rfl⟩

theorem congr {worse : Position → TreeFault → Prop} (h : IsFirstFault bad first)
    (hiff : ∀ position fault, worse position fault ↔ bad position fault) :
    IsFirstFault worse first := by
  have hsame : worse = bad := by
    funext position fault
    exact propext (hiff position fault)
  rw [hsame]
  exact h

/-- A place that is not entered any further has at most one fault. -/
theorem of_leaf (hleaf : ∀ position fault,
    bad position fault ↔ position = [] ∧ first = some fault) : IsFirstFault bad first := by
  cases first with
  | none =>
      intro position fault hbad
      cases ((hleaf position fault).1 hbad).2
  | some first =>
      refine ⟨[], (hleaf [] first).2 ⟨rfl, rfl⟩, fun other fault hbad => .inl ?_⟩
      obtain ⟨hposition, hfault⟩ := (hleaf other fault).1 hbad
      cases hfault
      exact ⟨hposition, rfl⟩

/-- The first fault stays the same where all positions move and keep their order. -/
theorem map (h : IsFirstFault bad first) (move : Position → Position)
    (hmove : ∀ position other, position < other → move position < move other) :
    IsFirstFault (fun position fault => ∃ inner, position = move inner ∧ bad inner fault)
      first := by
  cases first with
  | none =>
      rintro _ fault ⟨inner, rfl, hbad⟩
      exact h inner fault hbad
  | some first =>
      obtain ⟨position, hbad, hleast⟩ := h
      refine ⟨move position, ⟨position, rfl, hbad⟩, ?_⟩
      rintro _ fault ⟨inner, rfl, hinner⟩
      obtain ⟨rfl, hfault⟩ | hlt := hleast inner fault hinner
      · exact .inl ⟨rfl, hfault⟩
      · exact .inr (hmove position inner hlt)

/-- Of two kinds of bad positions, one before the other, the first fault is that
of the earlier kind, if it has one. -/
theorem or (hearlier : IsFirstFault earlier first) (hlater : IsFirstFault later second)
    (hlt : ∀ position fault other next, earlier position fault → later other next →
      position < other) :
    IsFirstFault (fun position fault => earlier position fault ∨ later position fault)
      (first.or second) := by
  cases first with
  | some first =>
      obtain ⟨position, hbad, hleast⟩ := hearlier
      refine ⟨position, .inl hbad, ?_⟩
      rintro other fault (hother | hother)
      · exact hleast other fault hother
      · exact .inr (hlt position first other fault hbad hother)
  | none => exact hlater.congr fun position fault => or_iff_right (hearlier position fault)

end IsFirstFault

/-- What is wrong at a position behind one of several children. -/
def BadBehind {Child : Type} (badAt : Child → Position → TreeFault → Prop)
    (children : List Child) : Position → TreeFault → Prop
  | [], _ => False
  | index :: position, fault => ∃ child, children[index]? = some child ∧ badAt child position fault

section Children

variable {Child : Type} {badAt : Child → Position → TreeFault → Prop}
  {fault? : Child → Option TreeFault}

/-- The position behind a child, where one more child stands in front. -/
def oneFurther : Position → Position
  | [] => []
  | index :: position => (index + 1) :: position

theorem oneFurther_lt {position other : Position} (hlt : position < other) :
    oneFurther position < oneFurther other := by
  cases position with
  | nil =>
      cases other with
      | nil => exact hlt
      | cons index other => exact List.nil_lt_cons _ _
  | cons index position =>
      cases other with
      | nil => cases hlt
      | cons next other =>
          rw [List.cons_lt_cons_iff] at hlt
          rw [oneFurther, oneFurther, List.cons_lt_cons_iff]
          exact hlt.imp Nat.succ_lt_succ fun hsame => ⟨congrArg (· + 1) hsame.1, hsame.2⟩

/-- A bad position among children is in the first one or, one further, among the others. -/
theorem badBehind_cons_iff (child : Child) (rest : List Child) (position : Position)
    (fault : TreeFault) :
    BadBehind badAt (child :: rest) position fault ↔
      (∃ inner, position = 0 :: inner ∧ badAt child inner fault) ∨
        ∃ inner, position = oneFurther inner ∧ BadBehind badAt rest inner fault := by
  constructor
  · intro hbad
    match position, hbad with
    | 0 :: inner, ⟨_, hsame, hbad⟩ =>
        cases hsame
        exact .inl ⟨inner, rfl, hbad⟩
    | (index + 1) :: inner, hbad => exact .inr ⟨index :: inner, rfl, hbad⟩
  · rintro (⟨inner, rfl, hbad⟩ | ⟨inner, rfl, hbad⟩)
    · exact ⟨child, rfl, hbad⟩
    · cases inner with
      | nil => exact hbad.elim
      | cons index inner => exact hbad

/-- The first fault of several children is that of the first child that has one. -/
theorem isFirstFault_badBehind {children : List Child}
    (h : ∀ child ∈ children, IsFirstFault (badAt child) (fault? child)) :
    IsFirstFault (BadBehind badAt children) (children.findSome? fault?) := by
  induction children with
  | nil =>
      intro position fault hbad
      cases position with
      | nil => exact hbad
      | cons index position => simp [BadBehind] at hbad
  | cons child rest ih =>
      have hchild := (h child List.mem_cons_self).map (0 :: ·)
        fun position other hlt => List.cons_lt_cons_iff.2 (.inr ⟨rfl, hlt⟩)
      have hrest := (ih fun other hmem => h other (List.mem_cons_of_mem child hmem)).map
        oneFurther fun position other => oneFurther_lt
      have hfirst : (child :: rest).findSome? fault? =
          (fault? child).or (rest.findSome? fault?) := by
        rw [List.findSome?_cons]
        cases fault? child <;> rfl
      rw [hfirst]
      refine (hchild.or hrest ?_).congr (badBehind_cons_iff child rest)
      rintro _ fault _ next ⟨inner, rfl, _⟩ ⟨other, rfl, hbad⟩
      cases other with
      | nil => exact hbad.elim
      | cons index other => exact List.cons_lt_cons_iff.2 (.inl index.succ_pos)

theorem findSome?_fault?_flatMap (children : List Child) (sites : Child → List (Site Value)) :
    (children.flatMap sites).findSome? Site.fault? =
      children.findSome? fun child => (sites child).findSome? Site.fault? := by
  simp only [← List.head?_filterMap, List.filterMap_flatMap, List.head?_flatMap]

end Children

theorem Node.badAt_values_iff {scope : Scope} {cells : List (String × Cell Value)}
    (position : Position) (fault : TreeFault) :
    (values cells).BadAt scope position fault ↔
      BadBehind (fun entry => entry.2.BadAt (scope.withColumn entry.1)) cells position fault := by
  constructor
  · rintro (_ | _ | ⟨hcell, hbad⟩)
    exact ⟨_, hcell, hbad⟩
  · intro hbad
    match position, hbad with
    | _ :: _, ⟨_, hcell, hbad⟩ => exact .values hcell hbad

theorem Node.badAt_predicate_iff {scope : Scope} {cells : List (String × Cell Value)}
    (position : Position) (fault : TreeFault) :
    (predicate cells).BadAt scope position fault ↔
      BadBehind (fun entry => entry.2.BadConditionAt (scope.withColumn entry.1) entry.1) cells
        position fault := by
  constructor
  · rintro (_ | _ | _ | _ | _ | ⟨hcell, hbad⟩)
    exact ⟨_, hcell, hbad⟩
  · intro hbad
    match position, hbad with
    | _ :: _, ⟨_, hcell, hbad⟩ => exact .predicate hcell hbad

theorem Node.badAt_seq_iff {scope : Scope} {items : List (Node Value)}
    (position : Position) (fault : TreeFault) :
    (seq items).BadAt scope position fault ↔
      BadBehind (fun node => node.BadAt scope) items position fault := by
  constructor
  · rintro (_ | _ | _ | _ | ⟨hitem, hbad⟩)
    exact ⟨_, hitem, hbad⟩
  · intro hbad
    match position, hbad with
    | _ :: _, ⟨_, hitem, hbad⟩ => exact .seq hitem hbad

/-- What is bad in a fragment is bad in one of its nodes, in the scope inside the fragment. -/
theorem Fragment.badAt_iff {scope : Scope} {segments : List (String × Node Value)}
    {last : String} {shape : ResultShape} {parentAlias : Option String}
    (position : Position) (fault : TreeFault) :
    (mk segments last shape parentAlias).BadAt scope position fault ↔
      BadBehind (fun segment => segment.2.BadAt (scope.enter parentAlias)) segments
        position fault := by
  constructor
  · rintro ⟨hnode, hbad⟩
    exact ⟨_, hnode, hbad⟩
  · intro hbad
    match position, hbad with
    | _ :: _, ⟨_, hnode, hbad⟩ => exact .node hnode hbad

/-- A parent reference is bad exactly where no alias is in scope. -/
theorem isFirstFault_enclosing {bad : Position → TreeFault → Prop} {scope : Scope}
    {column : String} (hbad : ∀ position fault, bad position fault ↔
      position = [] ∧ scope.parent = none ∧ fault = .parentOutsideLateral column) :
    IsFirstFault bad
      (([.enclosing scope.parent column] : List (Site Value)).findSome? Site.fault?) := by
  refine .of_leaf fun position fault => (hbad position fault).trans (and_congr_right fun _ => ?_)
  cases scope.parent with
  | none => simp [Site.fault?, eq_comm]
  | some tableRef => simp [Site.fault?]

mutual

/-- The first site of a node that cannot be written is the first bad position. -/
theorem Node.isFirstFault_sites (scope : Scope) :
    (node : Node Value) →
      IsFirstFault (node.BadAt scope) ((node.sites scope).findSome? Site.fault?)
  | .ident _ | .raw _ | .default | .columns _ => by
      rw [Node.sites]
      rintro position fault ⟨⟩
  | .param value => by
      rw [Node.sites]
      rintro position fault ⟨⟩
  | .selfColumn => by
      rw [Node.sites]
      refine .of_leaf fun position fault => ⟨?_, ?_⟩
      · rintro ⟨hcolumn⟩
        rw [hcolumn]
        exact ⟨rfl, rfl⟩
      · rintro ⟨rfl, hfault⟩
        cases hcolumn : scope.column with
        | none =>
            rw [hcolumn] at hfault
            cases hfault
            exact .selfColumn hcolumn
        | some column =>
            rw [hcolumn] at hfault
            cases hfault
  | .parentColumn column => by
      rw [Node.sites]
      refine isFirstFault_enclosing fun position fault => ⟨?_, ?_⟩
      · rintro (_ | ⟨hparent⟩)
        exact ⟨rfl, hparent, rfl⟩
      · rintro ⟨rfl, hparent, rfl⟩
        exact .parentColumn hparent
  | .values cells => by
      rw [Node.sites, sitesOfValues_eq_flatMap, findSome?_fault?_flatMap]
      exact (isFirstFault_badBehind (isFirstFault_sitesOfValues scope cells)).congr
        Node.badAt_values_iff
  | .fragment body => by
      rw [Node.sites]
      refine (Fragment.isFirstFault_sites scope body).congr fun position fault => ⟨?_, .fragment⟩
      rintro (_ | _ | _ | hbad)
      exact hbad
  | .seq items => by
      rw [Node.sites, sitesOfItems_eq_flatMap, findSome?_fault?_flatMap]
      exact (isFirstFault_badBehind (isFirstFault_sitesOfItems scope items)).congr
        Node.badAt_seq_iff
  | .predicate cells => by
      rw [Node.sites, sitesOfConditions_eq_flatMap, findSome?_fault?_flatMap]
      exact (isFirstFault_badBehind (isFirstFault_sitesOfConditions scope cells)).congr
        Node.badAt_predicate_iff

theorem Cell.isFirstFault_sites (scope : Scope) :
    (cell : Cell Value) →
      IsFirstFault (cell.BadAt scope) ((cell.sites scope).findSome? Site.fault?)
  | .value value => by
      rw [Cell.sites]
      rintro position fault ⟨⟩
  | .default => by
      rw [Cell.sites]
      rintro position fault ⟨⟩
  | .parentColumn column => by
      rw [Cell.sites]
      refine isFirstFault_enclosing fun position fault => ⟨?_, ?_⟩
      · rintro ⟨hparent⟩
        exact ⟨rfl, hparent, rfl⟩
      · rintro ⟨rfl, hparent, rfl⟩
        exact .parentColumn hparent
  | .sql body => by
      rw [Cell.sites]
      refine (Fragment.isFirstFault_sites scope body).congr fun position fault => ⟨?_, .sql⟩
      rintro (_ | hbad)
      exact hbad

theorem Cell.isFirstFault_conditionSites (scope : Scope) (column : String) :
    (cell : Cell Value) →
      IsFirstFault (cell.BadConditionAt scope column)
        ((cell.conditionSites scope column).findSome? Site.fault?)
  | .value value => by
      rw [Cell.conditionSites]
      rintro position fault ⟨⟩
  | .default => by
      rw [Cell.conditionSites]
      refine .of_leaf fun position fault => ⟨?_, ?_⟩
      · rintro ⟨⟩
        exact ⟨rfl, rfl⟩
      · rintro ⟨rfl, hfault⟩
        cases hfault
        exact .default
  | .parentColumn referenced => by
      rw [Cell.conditionSites]
      refine isFirstFault_enclosing fun position fault => ⟨?_, ?_⟩
      · rintro (_ | ⟨hparent⟩)
        exact ⟨rfl, hparent, rfl⟩
      · rintro ⟨rfl, hparent, rfl⟩
        exact .parentColumn hparent
  | .sql body => by
      rw [Cell.conditionSites]
      refine (Fragment.isFirstFault_sites scope body).congr fun position fault => ⟨?_, .sql⟩
      rintro (_ | _ | hbad)
      exact hbad

/-- The first site of a fragment that cannot be written is the first bad position. -/
theorem Fragment.isFirstFault_sites (scope : Scope) :
    (fragment : Fragment Value) →
      IsFirstFault (fragment.BadAt scope) ((fragment.sites scope).findSome? Site.fault?)
  | ⟨segments, last, shape, parentAlias⟩ => by
      rw [Fragment.sites, sitesOfSegments_eq_flatMap, findSome?_fault?_flatMap]
      exact (isFirstFault_badBehind
        (isFirstFault_sitesOfSegments (scope.enter parentAlias) segments)).congr Fragment.badAt_iff

theorem isFirstFault_sitesOfSegments (scope : Scope) :
    (segments : List (String × Node Value)) → ∀ segment ∈ segments,
      IsFirstFault (segment.2.BadAt scope) ((segment.2.sites scope).findSome? Site.fault?)
  | [] => nofun
  | (_, node) :: rest => List.forall_mem_cons.2
      ⟨Node.isFirstFault_sites scope node, isFirstFault_sitesOfSegments scope rest⟩

theorem isFirstFault_sitesOfItems (scope : Scope) :
    (items : List (Node Value)) → ∀ node ∈ items,
      IsFirstFault (node.BadAt scope) ((node.sites scope).findSome? Site.fault?)
  | [] => nofun
  | node :: rest => List.forall_mem_cons.2
      ⟨Node.isFirstFault_sites scope node, isFirstFault_sitesOfItems scope rest⟩

theorem isFirstFault_sitesOfValues (scope : Scope) :
    (cells : List (String × Cell Value)) → ∀ entry ∈ cells,
      IsFirstFault (entry.2.BadAt (scope.withColumn entry.1))
        ((entry.2.sites (scope.withColumn entry.1)).findSome? Site.fault?)
  | [] => nofun
  | (column, cell) :: rest => List.forall_mem_cons.2
      ⟨Cell.isFirstFault_sites (scope.withColumn column) cell,
        isFirstFault_sitesOfValues scope rest⟩

theorem isFirstFault_sitesOfConditions (scope : Scope) :
    (cells : List (String × Cell Value)) → ∀ entry ∈ cells,
      IsFirstFault (entry.2.BadConditionAt (scope.withColumn entry.1) entry.1)
        ((entry.2.conditionSites (scope.withColumn entry.1) entry.1).findSome? Site.fault?)
  | [] => nofun
  | (column, cell) :: rest => List.forall_mem_cons.2
      ⟨Cell.isFirstFault_conditionSites (scope.withColumn column) column cell,
        isFirstFault_sitesOfConditions scope rest⟩

end

namespace Weave

/-- What it means that a walk fails at the first bad position: it fails exactly
if there is one, with the fault of the first one, whatever stands before; and
it only appends, even where it fails. -/
structure FailsAtFirst (walk : Weave Value Unit) (bad : Position → TreeFault → Prop) : Prop where
  fails_iff (before : Compiled Value) :
    (∃ fault out, walk.run before = .error fault out) ↔ ∃ position fault, bad position fault
  first (before : Compiled Value) : IsFirstFault bad (fault? walk before)
  uniform (before other : Compiled Value) : fault? walk before = fault? walk other
  text (before : Compiled Value) : ∃ added, (reached walk before).text = before.text ++ added
  params (before : Compiled Value) :
    ∃ added, (reached walk before).params = before.params ++ added

end Weave

namespace Piece

/-- Pieces whose first fault is that of the first bad position are written up to there. -/
theorem failsAtFirst_writeAll {pieces : List (Piece Value)}
    {bad : Position → TreeFault → Prop} (hfirst : IsFirstFault bad (firstFault? pieces)) :
    Weave.FailsAtFirst (writeAll pieces) bad where
  fails_iff before := by rw [Weave.exists_error_iff, fault?_writeAll, hfirst.isSome_iff]
  first before := by
    rw [fault?_writeAll]
    exact hfirst
  uniform before other := by rw [fault?_writeAll, fault?_writeAll]
  text before := by
    rw [reached_writeAll]
    exact ⟨_, rfl⟩
  params before := by
    rw [reached_writeAll]
    exact ⟨_, rfl⟩

end Piece

/-- A position behind a cell of a record goes through the column at its index. -/
theorem Node.badAt_valuesOf_iff (scope : Scope) (record : Record Value) (index : Nat)
    (position : Position) (fault : TreeFault) :
    (valuesOf record).BadAt scope (index :: position) fault ↔
      ∃ column cell, record.columns[index]? = some column ∧ record.get? column = some cell ∧
        cell.BadAt (scope.withColumn column) position fault := by
  rw [valuesOf, badAt_values_iff, BadBehind, Prod.exists]
  simp only [KeyMap.getElem?_toList_eq_some_iff, and_assoc]
  rfl

theorem Node.badAt_matching_iff (scope : Scope) (record : Record Value) (index : Nat)
    (position : Position) (fault : TreeFault) :
    (matching record).BadAt scope (index :: position) fault ↔
      ∃ column cell, record.columns[index]? = some column ∧ record.get? column = some cell ∧
        cell.BadConditionAt (scope.withColumn column) column position fault := by
  rw [matching, badAt_predicate_iff, BadBehind, Prod.exists]
  simp only [KeyMap.getElem?_toList_eq_some_iff, and_assoc]
  rfl

/-- Compilation of a node or a fragment fails exactly if it has a bad position in
its scope, and then with the fault of the first one in document order, where the
cells of a record stand in ascending order of the columns.  Neither depends on
what was written before, which stays in place in any case.  A reference that
nothing resolves is an error of the context; a default that is compared is an
error of compilation that names the column. -/
theorem compile_fails_exactly_at_first_bad_position :
    (∀ (scope : Scope) (node : Node Value),
      Weave.FailsAtFirst (node.weave scope) (node.BadAt scope)) ∧
    (∀ (scope : Scope) (fragment : Fragment Value),
      Weave.FailsAtFirst (fragment.weave scope) (fragment.BadAt scope)) ∧
    (∀ record : Record Value, record.columns.Pairwise (· < ·)) ∧
    (∀ (scope : Scope) (record : Record Value) (index : Nat) (position : Position)
        (fault : TreeFault),
      ((Node.valuesOf record).BadAt scope (index :: position) fault ↔
        ∃ column cell, record.columns[index]? = some column ∧ record.get? column = some cell ∧
          cell.BadAt (scope.withColumn column) position fault) ∧
      ((Node.matching record).BadAt scope (index :: position) fault ↔
        ∃ column cell, record.columns[index]? = some column ∧ record.get? column = some cell ∧
          cell.BadConditionAt (scope.withColumn column) column position fault)) ∧
    Error.ofTreeFault .selfOutsideColumn =
      .context "self reference used outside of a column context" ∧
    (∀ column, Error.ofTreeFault (.parentOutsideLateral column) =
      .context ("parent column \"" ++ column ++
        "\" referenced outside of a lateral sub-select")) ∧
    (∀ column, Error.ofTreeFault (.defaultCompared column) =
      .compile ("DEFAULT is not a value column \"" ++ column ++
        "\" can be compared with")) := by
  refine ⟨?_, ?_, KeyMap.pairwise_keys, ?_, rfl, fun _ => rfl, fun _ => rfl⟩
  · intro scope node
    have hfirst := node.isFirstFault_sites scope
    rw [← Node.sites_pieces, ← Piece.firstFault?_eq_findSome?_sites] at hfirst
    rw [Node.weave_eq_writeAll]
    exact Piece.failsAtFirst_writeAll hfirst
  · intro scope fragment
    have hfirst := fragment.isFirstFault_sites scope
    rw [← Fragment.sites_pieces, ← Piece.firstFault?_eq_findSome?_sites] at hfirst
    rw [Fragment.weave_eq_writeAll]
    exact Piece.failsAtFirst_writeAll hfirst
  · intro scope record index position fault
    exact ⟨Node.badAt_valuesOf_iff scope record index position fault,
      Node.badAt_matching_iff scope record index position fault⟩

/-- A comparison with a default comes before the reference behind it, but after
a reference in a column that is smaller. -/
example :
    let compared : Record Nat := KeyMap.ofList [("b", .default)]
    let both := compared.set "a" (.parentColumn "id")
    let statement (condition : Record Nat) := (Fragment.empty.pushMatching condition).pushSelf
    Weave.fault? ((statement compared).weave Scope.root) {} = some (.defaultCompared "b") ∧
      Weave.fault? ((statement both).weave Scope.root) {} =
        some (.parentOutsideLateral "id") := by
  decide

end SqlWeave
