import SqlWeave.Proofs.Rendering
import SqlWeave.Sql.Record

/-!
# Readings

What a tree comes down to in a statement: its sites, and the text it adds for
every number of values that are bound before it.  How the text is divided into
literals and nodes is gone, so readings are put together from those of the
parts, and a reading says all about a compilation that succeeds.
-/

namespace SqlWeave

variable {Value : Type}

/-- Sites in document order, and the text around and at them. -/
structure Reading (Value : Type) where
  sites : List (Site Value)
  /-- The text, behind a statement that binds so many values. -/
  text : Nat → String

namespace Reading

/-- The bound values, in document order. -/
def values (reading : Reading Value) : List Value := reading.sites.filterMap Site.value?

/-- The fault that a compilation ends with, or none if it succeeds. -/
def fault? (reading : Reading Value) : Option TreeFault := reading.sites.findSome? Site.fault?

/-- Text that binds nothing. -/
def literal (sql : String) : Reading Value := ⟨[], fun _ => sql⟩

def name (name : String) : Reading Value := literal (quotedName name)

instance : Append (Reading Value) where
  append front back :=
    { sites := front.sites ++ back.sites
      text := fun bound => front.text bound ++ back.text (bound + front.values.length) }

def concat : List (Reading Value) → Reading Value
  | [] => literal ""
  | first :: rest => first ++ concat rest

/-- Readings with a text between each two neighbours. -/
def separated (separator : String) : List (Reading Value) → Reading Value
  | [] => literal ""
  | first :: rest => first ++ concat (rest.map (literal separator ++ ·))

def parenthesized (inner : Reading Value) : Reading Value := literal "(" ++ inner ++ literal ")"

@[simp]
theorem sites_append (front back : Reading Value) :
    (front ++ back).sites = front.sites ++ back.sites := rfl

@[simp]
theorem text_append (front back : Reading Value) (bound : Nat) :
    (front ++ back).text bound =
      front.text bound ++ back.text (bound + front.values.length) := rfl

@[simp]
theorem values_append (front back : Reading Value) :
    (front ++ back).values = front.values ++ back.values :=
  List.filterMap_append

theorem fault?_append (front back : Reading Value) :
    (front ++ back).fault? = front.fault?.or back.fault? :=
  List.findSome?_append

@[simp]
theorem sites_literal (sql : String) : (literal sql : Reading Value).sites = [] := rfl

@[simp]
theorem text_literal (sql : String) (bound : Nat) :
    (literal sql : Reading Value).text bound = sql := rfl

@[simp]
theorem values_literal (sql : String) : (literal sql : Reading Value).values = [] := rfl

@[simp]
theorem sites_name (name : String) : (Reading.name name : Reading Value).sites = [] := rfl

@[simp]
theorem values_name (name : String) : (Reading.name name : Reading Value).values = [] := rfl

theorem append_assoc (first second third : Reading Value) :
    first ++ second ++ third = first ++ (second ++ third) := by
  obtain ⟨firstSites, firstText⟩ := first
  obtain ⟨secondSites, secondText⟩ := second
  obtain ⟨thirdSites, thirdText⟩ := third
  change Reading.mk _ _ = Reading.mk _ _
  congr 1
  · exact List.append_assoc _ _ _
  · funext bound
    simp [String.append_assoc, Nat.add_assoc]

@[simp]
theorem empty_append (reading : Reading Value) : literal "" ++ reading = reading := by
  change Reading.mk _ _ = reading
  simp

@[simp]
theorem append_empty (reading : Reading Value) : reading ++ literal "" = reading := by
  change Reading.mk _ _ = reading
  simp

theorem literal_append_literal (front back : String) :
    (literal front ++ literal back : Reading Value) = literal (front ++ back) := rfl

/-- Neighbouring literals read like one. -/
theorem literal_append_literal_append (front back : String) (rest : Reading Value) :
    literal front ++ (literal back ++ rest) = literal (front ++ back) ++ rest := by
  rw [← append_assoc, literal_append_literal]

@[simp]
theorem concat_nil : concat ([] : List (Reading Value)) = literal "" := rfl

@[simp]
theorem concat_cons (first : Reading Value) (rest : List (Reading Value)) :
    concat (first :: rest) = first ++ concat rest := rfl

/-- A reading stands in another one. -/
def Occurs (inner outer : Reading Value) : Prop := ∃ front back, outer = front ++ inner ++ back

namespace Occurs

theorem refl (reading : Reading Value) : reading.Occurs reading :=
  ⟨literal "", literal "", by rw [empty_append, append_empty]⟩

theorem trans {inner middle outer : Reading Value} (hinner : inner.Occurs middle)
    (hmiddle : middle.Occurs outer) : inner.Occurs outer := by
  obtain ⟨front, back, rfl⟩ := hinner
  obtain ⟨before, behind, rfl⟩ := hmiddle
  exact ⟨before ++ front, back ++ behind, by simp only [append_assoc]⟩

theorem append_left {inner front : Reading Value} (hinner : inner.Occurs front)
    (back : Reading Value) : inner.Occurs (front ++ back) :=
  hinner.trans ⟨literal "", back, by rw [empty_append]⟩

theorem append_right {inner back : Reading Value} (front : Reading Value)
    (hinner : inner.Occurs back) : inner.Occurs (front ++ back) :=
  hinner.trans ⟨front, literal "", by rw [append_empty]⟩

theorem parenthesized (reading : Reading Value) : reading.Occurs reading.parenthesized :=
  ⟨literal "(", literal ")", rfl⟩

theorem concat {reading : Reading Value} {readings : List (Reading Value)}
    (hmem : reading ∈ readings) : reading.Occurs (concat readings) := by
  induction readings with
  | nil => cases hmem
  | cons first rest ih =>
      rcases List.mem_cons.1 hmem with rfl | hmem
      · exact append_left (refl _) _
      · exact append_right _ (ih hmem)

theorem mem_sites {inner outer : Reading Value} (hinner : inner.Occurs outer)
    {place : Site Value} (hplace : place ∈ inner.sites) : place ∈ outer.sites := by
  obtain ⟨front, back, rfl⟩ := hinner
  simp only [sites_append, List.mem_append]
  exact .inl (.inr hplace)

end Occurs

@[simp]
theorem separated_nil (separator : String) :
    separated separator ([] : List (Reading Value)) = literal "" := rfl

theorem separated_cons_cons (separator : String) (first second : Reading Value)
    (rest : List (Reading Value)) :
    separated separator (first :: second :: rest) =
      first ++ literal separator ++ separated separator (second :: rest) := by
  simp only [separated, List.map_cons, concat_cons, append_assoc]

theorem sites_concat (readings : List (Reading Value)) :
    (concat readings).sites = readings.flatMap sites := by
  induction readings with
  | nil => rfl
  | cons first rest ih => rw [concat_cons, sites_append, ih, List.flatMap_cons]

/-- A separator is text. -/
theorem sites_separated (separator : String) (readings : List (Reading Value)) :
    (separated separator readings).sites = readings.flatMap sites := by
  cases readings with
  | nil => rfl
  | cons first rest =>
      rw [separated, sites_append, sites_concat, List.flatMap_map, List.flatMap_cons]
      rfl

@[simp]
theorem sites_parenthesized (inner : Reading Value) :
    (parenthesized inner).sites = inner.sites := by
  simp [parenthesized]

@[simp]
theorem values_parenthesized (inner : Reading Value) :
    (parenthesized inner).values = inner.values := by
  simp [parenthesized]

@[simp]
theorem text_parenthesized (inner : Reading Value) (bound : Nat) :
    (parenthesized inner).text bound = "(" ++ inner.text bound ++ ")" := by
  simp [parenthesized]

theorem values_separated (separator : String) (readings : List (Reading Value)) :
    (separated separator readings).values = readings.flatMap values := by
  rw [values, sites_separated, List.filterMap_flatMap]
  rfl

end Reading

namespace Piece

/-- What pieces come down to. -/
def read (pieces : List (Piece Value)) : Reading Value where
  sites := sites pieces
  text := fun bound => render bound pieces

theorem values_read (pieces : List (Piece Value)) : (read pieces).values = values pieces :=
  (values_eq_filterMap_sites pieces).symm

theorem fault?_read (pieces : List (Piece Value)) : (read pieces).fault? = firstFault? pieces :=
  (firstFault?_eq_findSome?_sites pieces).symm

@[simp]
theorem read_nil : read ([] : List (Piece Value)) = .literal "" := rfl

@[simp]
theorem read_append (front back : List (Piece Value)) :
    read (front ++ back) = read front ++ read back := by
  change Reading.mk _ _ = Reading.mk _ _
  congr 1
  · exact sites_append front back
  · funext bound
    rw [render_append, values_read]
    rfl

@[simp]
theorem read_text_cons (sql : String) (rest : List (Piece Value)) :
    read (.text sql :: rest) = .literal sql ++ read rest := by
  change Reading.mk _ _ = Reading.mk _ _
  congr 1

@[simp]
theorem read_ident (name : String) : read (ident name : List (Piece Value)) = .name name := by
  simp only [ident, read_text_cons, read_nil, Reading.append_empty,
    Reading.literal_append_literal, Reading.name, quotedName, String.append_assoc]

@[simp]
theorem read_idents (names : List String) :
    read (idents names : List (Piece Value)) = .separated ", " (names.map .name) := by
  have htail : ∀ rest : List String,
      read (rest.flatMap fun name => Piece.text ", " :: ident name : List (Piece Value)) =
        .concat ((rest.map .name).map (.literal ", " ++ ·)) := by
    intro rest
    induction rest with
    | nil => rfl
    | cons name rest ih => simp only [List.flatMap_cons, read_append, read_text_cons, read_ident,
        ih, List.map_cons, Reading.concat_cons]
  cases names with
  | nil => rfl
  | cons first rest => rw [idents, read_append, read_ident, htail, List.map_cons, Reading.separated]

end Piece

def Site.reading (place : Site Value) : Reading Value := Piece.read [.site place]

@[simp]
theorem Piece.read_site_cons (place : Site Value) (rest : List (Piece Value)) :
    read (.site place :: rest) = place.reading ++ read rest :=
  read_append [.site place] rest

def Node.reading (scope : Scope) (node : Node Value) : Reading Value :=
  Piece.read (node.pieces scope)

/-- The reading of a cell where it is assigned. -/
def Cell.reading (scope : Scope) (cell : Cell Value) : Reading Value :=
  Piece.read (cell.pieces scope)

/-- The reading of a cell where its column is compared with it. -/
def Cell.conditionReading (scope : Scope) (column : String) (cell : Cell Value) : Reading Value :=
  Piece.read (cell.conditionPieces scope column)

def Fragment.reading (scope : Scope) (fragment : Fragment Value) : Reading Value :=
  Piece.read (fragment.pieces scope)

theorem Node.sites_reading (scope : Scope) (node : Node Value) :
    (node.reading scope).sites = node.sites scope :=
  node.sites_pieces scope

theorem Fragment.sites_reading (scope : Scope) (fragment : Fragment Value) :
    (fragment.reading scope).sites = fragment.sites scope :=
  fragment.sites_pieces scope

/-- A statement with a reading behind it. -/
def Compiled.followedBy (out : Compiled Value) (reading : Reading Value) : Compiled Value where
  text := out.text ++ reading.text out.params.size
  params := out.params ++ reading.values.toArray

/-- What it means that a walk writes a reading: it fails as the reading says,
and otherwise puts it behind what was written before. -/
structure Weave.Writes (walk : Weave Value Unit) (reading : Reading Value) : Prop where
  fault : ∀ out, fault? walk out = reading.fault?
  run : ∀ out, reading.fault? = none → walk.run out = .ok () (out.followedBy reading)

theorem Piece.writes_writeAll (pieces : List (Piece Value)) :
    (writeAll pieces).Writes (read pieces) where
  fault out := by rw [fault?_writeAll, fault?_read]
  run out hfault := by
    rw [fault?_read] at hfault
    rw [run_writeAll, hfault, written_eq_self hfault, Compiled.followedBy, values_read]
    rfl

theorem Node.writes_weave (scope : Scope) (node : Node Value) :
    (node.weave scope).Writes (node.reading scope) := by
  rw [node.weave_eq_writeAll]
  exact Piece.writes_writeAll _

/-- Compiling a fragment writes its reading. -/
theorem Fragment.writes_weave (scope : Scope) (fragment : Fragment Value) :
    (fragment.weave scope).Writes (fragment.reading scope) := by
  rw [fragment.weave_eq_writeAll]
  exact Piece.writes_writeAll _

/-- A walk that succeeds put its reading behind what was written before. -/
theorem Weave.Writes.eq_of_run {walk : Weave Value Unit} {reading : Reading Value}
    (hwrites : walk.Writes reading) {out reached : Compiled Value}
    (hrun : walk.run out = .ok () reached) :
    reading.fault? = none ∧ reached = out.followedBy reading := by
  have hfault : reading.fault? = none := by
    rw [← hwrites.fault out, fault?, hrun]
  refine ⟨hfault, ?_⟩
  rw [hwrites.run out hfault] at hrun
  cases hrun
  rfl

theorem Fragment.compile_of_writes {fragment : Fragment Value} {reading : Reading Value}
    (hwrites : (fragment.weave Scope.root).Writes reading) (hfault : reading.fault? = none) :
    fragment.compile = .ok (Compiled.followedBy {} reading) := by
  rw [compile, hwrites.run {} hfault]

/-- A walk fails if a site of its reading cannot be written. -/
theorem Weave.Writes.exists_error_of_mem_sites {walk : Weave Value Unit} {reading : Reading Value}
    (hwrites : walk.Writes reading) {place : Site Value} {fault : TreeFault}
    (hplace : place ∈ reading.sites) (hfault : place.fault? = some fault) (out : Compiled Value) :
    ∃ first reached, walk.run out = .error first reached := by
  rw [exists_error_iff, hwrites.fault out, Reading.fault?, List.findSome?_isSome_iff]
  exact ⟨place, hplace, by rw [hfault]; rfl⟩

section Trees

open Reading

@[simp]
theorem Node.reading_ident (scope : Scope) (name : String) :
    (ident name : Node Value).reading scope = .name name := by
  rw [reading, pieces, Piece.read_ident]

@[simp]
theorem Node.reading_raw (scope : Scope) (sql : String) :
    (raw sql : Node Value).reading scope = .literal sql := by
  rw [reading, pieces, Piece.read_text_cons, Piece.read_nil, append_empty]

@[simp]
theorem Node.reading_columns (scope : Scope) (names : List String) :
    (columns names : Node Value).reading scope = .separated ", " (names.map .name) := by
  rw [reading, pieces, Piece.read_idents]

@[simp]
theorem Node.reading_fragment (scope : Scope) (body : Fragment Value) :
    (fragment body).reading scope = body.reading scope := by
  rw [reading, pieces, Fragment.reading]

@[simp]
theorem Node.reading_seq (scope : Scope) (items : List (Node Value)) :
    (seq items).reading scope = .concat (items.map (Node.reading scope)) := by
  rw [reading, pieces]
  induction items with
  | nil => simp [piecesOfItems]
  | cons node rest ih =>
      rw [piecesOfItems, Piece.read_append, ih, List.map_cons, concat_cons, reading]

@[simp]
theorem Node.reading_empty (scope : Scope) : (empty : Node Value).reading scope = .literal "" := by
  rw [empty, reading_seq, List.map_nil, concat_nil]

@[simp]
theorem Node.reading_join (scope : Scope) (items : List (Node Value)) (separator : String) :
    (join items separator).reading scope =
      .separated separator (items.map (Node.reading scope)) := by
  rw [join, reading_seq]
  induction items with
  | nil => rfl
  | cons first rest ih =>
      cases rest with
      | nil => rfl
      | cons second rest =>
          rw [List.map_cons] at ih
          rw [List.intersperse_cons_cons, List.map_cons, List.map_cons, concat_cons, concat_cons,
            ih, reading_raw, List.map_cons, List.map_cons, separated_cons_cons, append_assoc]

section Cells

variable (scope : Scope) (column : String)

@[simp]
theorem Cell.reading_default : (default : Cell Value).reading scope = .literal "DEFAULT" := by
  simp [reading, pieces]

@[simp]
theorem Cell.reading_parentColumn :
    (parentColumn column : Cell Value).reading scope =
      (Site.enclosing scope.parent column).reading := by
  simp [reading, pieces]

@[simp]
theorem Cell.reading_sql (body : Fragment Value) :
    (sql body).reading scope = body.reading scope := by
  rw [reading, pieces, Fragment.reading]

@[simp]
theorem Cell.conditionReading_value (value : Value) :
    (Cell.value value).conditionReading scope column =
      .name column ++ .literal " = " ++ (Site.bound value).reading := by
  simp [conditionReading, conditionPieces, append_assoc]

@[simp]
theorem Cell.conditionReading_default :
    (default : Cell Value).conditionReading scope column =
      (Site.comparedDefault column).reading := by
  simp [conditionReading, conditionPieces]

@[simp]
theorem Cell.conditionReading_parentColumn (referenced : String) :
    (parentColumn referenced : Cell Value).conditionReading scope column =
      .name column ++ .literal " = " ++ (Site.enclosing scope.parent referenced).reading := by
  simp [conditionReading, conditionPieces, append_assoc]

@[simp]
theorem Cell.conditionReading_sql (body : Fragment Value) :
    (sql body).conditionReading scope column = .parenthesized (body.reading scope) := by
  simp [conditionReading, conditionPieces, parenthesized, append_assoc, Fragment.reading]

end Cells

/-- A row reads like its cells in ascending order of the columns. -/
theorem Node.reading_valuesOf (scope : Scope) (record : Record Value) :
    (valuesOf record).reading scope = .separated ", " (record.toList.map fun entry =>
      entry.2.reading (scope.withColumn entry.1)) := by
  have htail : ∀ cells : List (String × Cell Value),
      Piece.read (piecesOfValues scope ", " cells) = .concat ((cells.map fun entry =>
        entry.2.reading (scope.withColumn entry.1)).map (.literal ", " ++ ·)) := by
    intro cells
    induction cells with
    | nil => simp [piecesOfValues]
    | cons entry rest ih =>
        simp only [piecesOfValues, List.cons_append, Piece.read_text_cons, Piece.read_append, ih,
          List.map_cons, concat_cons, append_assoc, Cell.reading]
  rw [valuesOf, reading, pieces]
  cases record.toList with
  | nil => simp [piecesOfValues]
  | cons entry rest =>
      simp only [piecesOfValues, List.cons_append, Piece.read_text_cons, Piece.read_append, htail,
        List.map_cons, separated, empty_append, Cell.reading]

/-- A condition reads like its conditions in ascending order of the columns, or is always true. -/
theorem Node.reading_matching (scope : Scope) (record : Record Value) :
    (matching record).reading scope =
      if record.isEmpty then .literal "TRUE"
      else .parenthesized (.separated " AND " (record.toList.map fun entry =>
        entry.2.conditionReading (scope.withColumn entry.1) entry.1)) := by
  have htail : ∀ cells : List (String × Cell Value),
      Piece.read (piecesOfConditions scope " AND " cells) = .concat ((cells.map fun entry =>
        entry.2.conditionReading (scope.withColumn entry.1) entry.1).map
          (.literal " AND " ++ ·)) := by
    intro cells
    induction cells with
    | nil => simp [piecesOfConditions]
    | cons entry rest ih =>
        simp only [piecesOfConditions, List.cons_append, Piece.read_text_cons, Piece.read_append,
          ih, List.map_cons, concat_cons, append_assoc, Cell.conditionReading]
  have hempty : record.isEmpty = record.toList.isEmpty := rfl
  rw [matching, reading, hempty]
  cases record.toList with
  | nil => simp [pieces]
  | cons entry rest =>
      simp only [pieces, piecesOfConditions, List.cons_append, Piece.read_text_cons,
        Piece.read_append, htail, List.isEmpty_cons, Bool.false_eq_true, if_false, parenthesized,
        List.map_cons, separated, empty_append, append_assoc, Cell.conditionReading,
        Piece.read_nil, append_empty]

@[simp]
theorem Fragment.reading_ofText (scope : Scope) (sql : String) :
    (ofText sql : Fragment Value).reading scope = .literal sql := by
  simp [reading, ofText, pieces, piecesOfSegments]

/-- Literal text stands behind what the fragment holds already. -/
@[simp]
theorem Fragment.reading_push (scope : Scope) (fragment : Fragment Value) (sql : String) :
    (fragment.push sql).reading scope = fragment.reading scope ++ .literal sql := by
  obtain ⟨segments, last, shape, parentAlias⟩ := fragment
  simp [reading, push, pieces, append_assoc, literal_append_literal]

theorem piecesOfSegments_append (scope : Scope) (front back : List (String × Node Value)) :
    piecesOfSegments scope (front ++ back) =
      piecesOfSegments scope front ++ piecesOfSegments scope back := by
  induction front with
  | nil => rfl
  | cons segment rest ih =>
      rw [List.cons_append, piecesOfSegments, piecesOfSegments, ih, List.append_assoc]

/-- A node that is appended stands under the alias of the fragment. -/
@[simp]
theorem Fragment.reading_pushNode (scope : Scope) (fragment : Fragment Value)
    (node : Node Value) :
    (fragment.pushNode node).reading scope =
      fragment.reading scope ++ node.reading (scope.enter fragment.parentAlias) := by
  obtain ⟨segments, last, shape, parentAlias⟩ := fragment
  simp [reading, pushNode, pieces, piecesOfSegments_append, piecesOfSegments, append_assoc,
    Node.reading]

@[simp]
theorem Fragment.reading_withShape (scope : Scope) (fragment : Fragment Value)
    (shape : ResultShape) :
    (fragment.withShape shape).reading scope = fragment.reading scope := by
  obtain ⟨segments, last, before, parentAlias⟩ := fragment
  simp [reading, withShape, pieces]

end Trees

end SqlWeave
