import Mathlib.Data.List.Forall2
import SqlWeave.Proofs.FragmentCalls
import SqlWeave.Query.Insert
import SqlWeave.Query.Select
import SqlWeave.Query.Update
import SqlWeave.Rehearsal.Rows

/-!
# Results of executed fragments

A run reads the result of every row and only then shapes them, so one row
without a result fails it, be it the last of a count.  The reader of rows is
any one that does what is documented of drivers.  What it means for a row to
carry a result is stated without the reader, as is what each shape makes of the
results.
-/

namespace SqlWeave

open Connection

variable {Value Result Kind Item Fault : Type}

/-- Reading all items succeeds exactly if every item can be read, and keeps them in order. -/
theorem mapM_eq_ok_iff {read : Item → Except Fault Result} {items : List Item}
    {results : List Result} :
    items.mapM read = .ok results ↔
      List.Forall₂ (fun item result => read item = .ok result) items results := by
  induction items generalizing results with
  | nil => cases results <;> simp [pure, Except.pure]
  | cons item items ih =>
      rw [List.mapM_cons]
      cases hitem : read item with
      | error fault => cases results <;> simp [bind, Except.bind, hitem]
      | ok result =>
          cases hitems : items.mapM read with
          | error fault => cases results <;> simp [bind, Except.bind, hitem, ← ih, hitems]
          | ok rest =>
              cases results <;>
                simp [bind, Except.bind, pure, Except.pure, hitem, ← ih, hitems]

/-- Reading all items fails with the fault of the first one that cannot be read. -/
theorem mapM_eq_error_iff {read : Item → Except Fault Result} {items : List Item}
    {fault : Fault} :
    items.mapM read = .error fault ↔
      ∃ front item back, items = front ++ item :: back ∧
        (∀ earlier ∈ front, ∃ result, read earlier = .ok result) ∧
        read item = .error fault := by
  constructor
  · intro hfault
    induction items with
    | nil => cases hfault
    | cons head items ih =>
        rw [List.mapM_cons] at hfault
        cases hhead : read head with
        | error first =>
            rw [hhead] at hfault
            cases hfault
            exact ⟨[], head, items, rfl, by simp, hhead⟩
        | ok result =>
            cases hitems : items.mapM read with
            | ok results => simp [bind, Except.bind, pure, Except.pure, hhead, hitems] at hfault
            | error first =>
                have hfirst : first = fault := by
                  simpa [bind, Except.bind, hhead, hitems] using hfault
                subst hfirst
                obtain ⟨front, item, back, rfl, hfront, hitem⟩ := ih hitems
                exact ⟨head :: front, item, back, rfl,
                  List.forall_mem_cons.2 ⟨⟨result, hhead⟩, hfront⟩, hitem⟩
  · rintro ⟨front, item, back, rfl, hfront, hitem⟩
    induction front with
    | nil => simp [bind, Except.bind, hitem]
    | cons head front ih =>
        obtain ⟨⟨result, hresult⟩, hfront⟩ := List.forall_mem_cons.1 hfront
        rw [List.cons_append, List.mapM_cons, hresult]
        simp [bind, Except.bind, ih hfront]

theorem exists_mapM_eq_ok_iff {read : Item → Except Fault Result} {items : List Item} :
    (∃ results, items.mapM read = .ok results) ↔
      ∀ item ∈ items, ∃ result, read item = .ok result := by
  induction items with
  | nil => simp [pure, Except.pure]
  | cons head items ih =>
      rw [List.mapM_cons, List.forall_mem_cons, ← ih]
      cases hhead : read head with
      | error fault => simp [bind, Except.bind]
      | ok result =>
          cases hitems : items.mapM read <;> simp [bind, Except.bind, pure, Except.pure]

/-- A row carries a result of a shape: in the result column stands an integer of
64 bits for a count, and a document that the driver can parse for the other shapes. -/
inductive Carries (lookup : List Column → String → Option Nat) (parse : String → Option Json)
    (columns : List Column) (row : List Datum) : ResultShape → Json → Prop where
  | number {number : Int}
      (hholds : Holds lookup columns row resultColumn .int8 (.integer number)) :
      Carries lookup parse columns row .count (.ofInt number)
  | document {shape : ResultShape} {type : ColumnType} {text : String} {value : Json}
      (hshape : shape ≠ .count) (htype : type = .jsonb ∨ type = .json)
      (hholds : Holds lookup columns row resultColumn type (.json text))
      (hparse : parse text = some value) : Carries lookup parse columns row shape value

/-- What a shape makes of the results of all rows. -/
inductive Shapes : ResultShape → List Json → Json → Prop where
  | all (results : List Json) : Shapes .all results (.array results)
  | first (result : Json) (others : List Json) : Shapes .first (result :: others) result
  | noFirst : Shapes .first [] .null
  | count (number : Json) (others : List Json) : Shapes .count (number :: others) number
  | noCount : Shapes .count [] (.ofInt 0)

section Reader

variable {reader : RowReader} {shape : ResultShape} {columns : List Column} {row : List Datum}
  {reply : Reply}

/-- The result of a count is an integer, whatever the driver makes of the row. -/
theorem result_count_eq_ok_iff {value : Json} :
    reader.result .count columns row = .ok value ↔
      ∃ number, reader.integer columns row resultColumn = .ok number ∧ value = .ofInt number := by
  rw [RowReader.result]
  cases reader.integer columns row resultColumn <;> simp [Except.map, eq_comm]

theorem rowResult_eq_ok_iff {value : Json} :
    reader.rowResult shape columns row = .ok value ↔
      reader.result shape columns row = .ok value := by
  rw [RowReader.rowResult]
  cases reader.result shape columns row <;> simp [Except.mapError]

theorem rowResult_eq_error_iff {error : Error} :
    reader.rowResult shape columns row = .error error ↔
      ∃ message, reader.result shape columns row = .error message ∧
        error = .decode resultColumn message := by
  rw [RowReader.rowResult]
  cases reader.result shape columns row <;> simp [Except.mapError, eq_comm]

/-- If all rows are read, there is one result for each of them, in their order. -/
theorem rowResults_eq_ok_iff {results : List Json} :
    reader.rowResults shape reply = .ok results ↔
      List.Forall₂ (fun row value => reader.result shape reply.columns row = .ok value)
        reply.rows results := by
  simp only [RowReader.rowResults, mapM_eq_ok_iff, rowResult_eq_ok_iff]

/-- One row that cannot be read fails the reply, wherever it stands. -/
theorem exists_rowResults_eq_ok_iff :
    (∃ results, reader.rowResults shape reply = .ok results) ↔
      ∀ row ∈ reply.rows, ∃ value, reader.result shape reply.columns row = .ok value := by
  simp only [RowReader.rowResults, exists_mapM_eq_ok_iff, rowResult_eq_ok_iff]

/-- Rows fail with what the driver says of the first one that it cannot read. -/
theorem rowResults_eq_error_iff {error : Error} :
    reader.rowResults shape reply = .error error ↔
      ∃ front row back message, reply.rows = front ++ row :: back ∧
        (∀ earlier ∈ front, ∃ value, reader.result shape reply.columns earlier = .ok value) ∧
        reader.result shape reply.columns row = .error message ∧
        error = .decode resultColumn message := by
  simp only [RowReader.rowResults, mapM_eq_error_iff, rowResult_eq_ok_iff, rowResult_eq_error_iff]
  grind

variable {lookup : List Column → String → Option Nat} {parse : String → Option Json}

/-- What a documented driver reads from a row is what the row carries. -/
theorem result_eq_ok_iff (hreader : reader.Documented lookup parse) {value : Json} :
    reader.result shape columns row = .ok value ↔
      Carries lookup parse columns row shape value := by
  cases shape with
  | count =>
      simp only [result_count_eq_ok_iff, hreader.integer_eq_ok_iff]
      constructor
      · intro hresult
        obtain ⟨number, hholds, rfl⟩ := hresult
        exact .number hholds
      · intro hcarries
        cases hcarries with
        | number hholds => exact ⟨_, hholds, rfl⟩
        | document hshape => exact absurd rfl hshape
  | all | first =>
      rw [RowReader.result, hreader.document_eq_ok_iff]
      constructor
      · intro hresult
        obtain ⟨type, text, htype, hholds, hparse⟩ := hresult
        exact .document nofun htype hholds hparse
      · intro hcarries
        cases hcarries with
        | document _ htype hholds hparse => exact ⟨_, _, htype, hholds, hparse⟩

/-- What a documented driver cannot read is what carries no result. -/
theorem exists_result_eq_error_iff (hreader : reader.Documented lookup parse) :
    (∃ message, reader.result shape columns row = .error message) ↔
      ∀ value, ¬ Carries lookup parse columns row shape value := by
  simp only [← result_eq_ok_iff hreader]
  cases reader.result shape columns row <;> simp

end Reader

theorem shapes_iff {shape : ResultShape} {results : List Json} {value : Json} :
    Shapes shape results value ↔ shape.apply results = value := by
  constructor
  · intro hshapes
    cases hshapes <;> rfl
  · rintro rfl
    cases shape with
    | all => exact .all results
    | first =>
        cases results with
        | nil => exact .noFirst
        | cons result others => exact .first result others
    | count =>
        cases results with
        | nil => exact .noCount
        | cons number others => exact .count number others

namespace Fragment

variable {fragment : Fragment Value} {reader : RowReader} {reply : Reply}

theorem shapeReply_eq_ok_iff {value : Json} :
    fragment.shapeReply reader reply = .ok value ↔
      ∃ results, reader.rowResults fragment.shape reply = .ok results ∧
        Shapes fragment.shape results value := by
  simp only [shapes_iff]
  rw [shapeReply]
  cases reader.rowResults fragment.shape reply <;> simp [Except.map]

theorem shapeReply_eq_error_iff {error : Error} :
    fragment.shapeReply reader reply = .error error ↔
      reader.rowResults fragment.shape reply = .error error := by
  rw [shapeReply]
  cases reader.rowResults fragment.shape reply <;> simp [Except.map]

theorem exists_shapeReply_eq_ok_iff :
    (∃ value, fragment.shapeReply reader reply = .ok value) ↔
      ∃ results, reader.rowResults fragment.shape reply = .ok results := by
  rw [shapeReply]
  cases reader.rowResults fragment.shape reply <;> simp [Except.map]

section Runs

variable {State : Type} {world : World (signature Value) State} {start : State}

/-- A run makes its value of the reply to its statement. -/
theorem result_run {compiled : Compiled Value} (hcompile : fragment.compile = .ok compiled) :
    ((fragment.run reader).run world start).result =
      ((compiled.statement .query).answer world start).1.bind (fragment.shapeReply reader) := by
  rw [run_eq_perform reader hcompile, Statement.run_perform]

/-- What a run yields is what its shape makes of the results of some rows. -/
theorem exists_results_of_run {value : Json}
    (hrun : ((fragment.run reader).run world start).result = .ok value) :
    ∃ (reply : Reply) (results : List Json),
      reader.rowResults fragment.shape reply = .ok results ∧
      Shapes fragment.shape results value := by
  cases hcompile : fragment.compile with
  | error fault =>
      rw [(Runs.run reader).eq_done hcompile] at hrun
      cases hrun
  | ok compiled =>
      rw [result_run hcompile] at hrun
      cases hanswer : ((compiled.statement .query).answer world start).1 with
      | error error =>
          rw [hanswer] at hrun
          cases hrun
      | ok reply =>
          rw [hanswer] at hrun
          exact ⟨reply, shapeReply_eq_ok_iff.1 hrun⟩

/-- A run of a fragment that keeps every row yields an array, if it yields anything. -/
theorem exists_array_of_shape (hshape : fragment.shape = .all) :
    (∃ items, ((fragment.run reader).run world start).result = .ok (.array items)) ∨
      ∃ error, ((fragment.run reader).run world start).result = .error error := by
  cases hresult : ((fragment.run reader).run world start).result with
  | error error => exact .inr ⟨error, rfl⟩
  | ok value =>
      obtain ⟨reply, results, -, hshapes⟩ := exists_results_of_run hresult
      rw [hshape] at hshapes
      cases hshapes
      exact .inl ⟨results, rfl⟩

/-- A run of a count yields an integer, if it yields anything. -/
theorem exists_integer_of_shape (hshape : fragment.shape = .count) :
    (∃ number, ((fragment.run reader).run world start).result = .ok (.ofInt number)) ∨
      ∃ error, ((fragment.run reader).run world start).result = .error error := by
  cases hresult : ((fragment.run reader).run world start).result with
  | error error => exact .inr ⟨error, rfl⟩
  | ok value =>
      obtain ⟨reply, results, hrows, hshapes⟩ := exists_results_of_run hresult
      rw [hshape] at hrows hshapes
      rw [rowResults_eq_ok_iff] at hrows
      -- rows that are a part of the reply cannot be split together with their results
      generalize reply.rows = rows at hrows
      cases hshapes with
      | noCount => exact .inl ⟨0, rfl⟩
      | count number others =>
          cases hrows with
          | cons hrow _ =>
              obtain ⟨count, -, rfl⟩ := result_count_eq_ok_iff.1 hrow
              exact .inl ⟨count, rfl⟩

/-- A typed run takes the value of a plain run in the same surroundings. -/
theorem result_runAs (decode : Json.Decoder Kind) :
    ((fragment.runAs reader decode).run world start).result =
      ((fragment.run reader).run world start).result.bind (decodeResult decode) := by
  rw [runAs, Program.run_bind]
  rfl

end Runs

end Fragment

namespace Query

variable (table : String)

theorem shape_insert_many (records : List (Record Value)) :
    (insert table (.many records)).shape = .all := by
  unfold insert
  split <;> rfl

theorem shape_upsert_many (records : List (Record Value)) (unique noNull : List String) :
    (upsert table (.many records) unique noNull).shape = .all := by
  unfold upsert
  split <;> rfl

theorem shape_update (values : Record Value) (condition : Condition Value) :
    (update table values condition).shape = .all := by
  unfold update
  split <;> rfl

theorem shape_delete (condition : Condition Value) : (delete table condition).shape = .all := rfl

theorem shape_count (filter : Filter Value) (options : CountOptions) :
    (count table filter options).shape = .count := rfl

end Query

/-- A fragment that compiles and is answered with rows yields a value exactly if
every row carries a result, and then the value that its shape makes of these
results in the order of the rows; otherwise it fails with what the driver says
of the first row that carries none.  So a batch that is inserted or upserted,
an update and a delete yield arrays, and a count yields an integer, whatever
the server does.  A typed run decodes that same value, or fails where the
decoder or the plain run fails. -/
theorem run_shapes_results_of_all_rows {reader : RowReader}
    {lookup : List Column → String → Option Nat} {parse : String → Option Json}
    (hreader : reader.Documented lookup parse) {State : Type}
    (world : World (signature Value) State) (start : State) (fragment : Fragment Value)
    (compiled : Compiled Value) (hcompile : fragment.compile = .ok compiled) (reply : Reply)
    (hreply : ((compiled.statement .query).answer world start).1 = .ok reply) :
    ((∃ value, ((fragment.run reader).run world start).result = .ok value) ↔
      ∀ row ∈ reply.rows, ∃ value,
        Carries lookup parse reply.columns row fragment.shape value) ∧
    (∀ value, ((fragment.run reader).run world start).result = .ok value ↔
      ∃ results,
        List.Forall₂ (fun row => Carries lookup parse reply.columns row fragment.shape)
          reply.rows results ∧
        Shapes fragment.shape results value) ∧
    (∀ error, ((fragment.run reader).run world start).result = .error error ↔
      ∃ front row back message, reply.rows = front ++ row :: back ∧
        (∀ earlier ∈ front, ∃ value,
          Carries lookup parse reply.columns earlier fragment.shape value) ∧
        (∀ value, ¬ Carries lookup parse reply.columns row fragment.shape value) ∧
        reader.result fragment.shape reply.columns row = .error message ∧
        error = .decode "result" message) ∧
    (∀ (Kind : Type) (decode : Json.Decoder Kind),
      (∀ value decoded, ((fragment.run reader).run world start).result = .ok value →
        decode value = .ok decoded →
        ((fragment.runAs reader decode).run world start).result = .ok decoded) ∧
      (∀ value fault, ((fragment.run reader).run world start).result = .ok value →
        decode value = .error fault →
        ((fragment.runAs reader decode).run world start).result =
          .error (.serialization fault)) ∧
      ∀ error, ((fragment.run reader).run world start).result = .error error →
        ((fragment.runAs reader decode).run world start).result = .error error) ∧
    ∀ (State : Type) (world : World (signature Value) State) (start : State) (table : String)
      (records : List (Record Value)) (unique noNull : List String) (values : Record Value)
      (condition : Query.Condition Value) (filter : Query.Filter Value)
      (options : Query.CountOptions),
      (∀ statement ∈ [Query.insert table (.many records),
          Query.upsert table (.many records) unique noNull,
          Query.update table values condition, Query.delete table condition],
        (∃ items, ((statement.run reader).run world start).result = .ok (.array items)) ∨
          ∃ error, ((statement.run reader).run world start).result = .error error) ∧
      ((∃ number, (((Query.count table filter options).run reader).run world start).result =
          .ok (.ofInt number)) ∨
        ∃ error, (((Query.count table filter options).run reader).run world start).result =
          .error error) := by
  have hresult : ((fragment.run reader).run world start).result =
      fragment.shapeReply reader reply := by
    rw [Fragment.result_run hcompile, hreply]
    rfl
  refine ⟨?_, ?_, ?_, ?_, ?_⟩
  · rw [hresult, Fragment.exists_shapeReply_eq_ok_iff, exists_rowResults_eq_ok_iff]
    simp only [result_eq_ok_iff hreader]
  · intro value
    rw [hresult, Fragment.shapeReply_eq_ok_iff]
    simp only [rowResults_eq_ok_iff, result_eq_ok_iff hreader]
  · intro error
    rw [hresult, Fragment.shapeReply_eq_error_iff, rowResults_eq_error_iff]
    simp only [result_eq_ok_iff hreader]
    constructor
    · rintro ⟨front, row, back, message, hrows, hfront, hrow, rfl⟩
      have hnothing := (exists_result_eq_error_iff hreader).1 ⟨message, hrow⟩
      exact ⟨front, row, back, message, hrows, hfront, hnothing, hrow, rfl⟩
    · rintro ⟨front, row, back, message, hrows, hfront, -, hrow, rfl⟩
      exact ⟨front, row, back, message, hrows, hfront, hrow, rfl⟩
  · intro Kind decode
    rw [Fragment.result_runAs]
    refine ⟨?_, ?_, ?_⟩
    · intro value decoded hvalue hdecode
      rw [hvalue, Except.bind, Fragment.decodeResult, hdecode]
      rfl
    · intro value fault hvalue hdecode
      rw [hvalue, Except.bind, Fragment.decodeResult, hdecode]
      rfl
    · intro error herror
      rw [herror]
      rfl
  · intro State world start table records unique noNull values condition filter options
    refine ⟨?_, Fragment.exists_integer_of_shape (Query.shape_count table filter options)⟩
    simp only [List.forall_mem_cons, List.not_mem_nil, false_imp_iff, implies_true, and_true]
    exact ⟨Fragment.exists_array_of_shape (Query.shape_insert_many table records),
      Fragment.exists_array_of_shape (Query.shape_upsert_many table records unique noNull),
      Fragment.exists_array_of_shape (Query.shape_update table values condition),
      Fragment.exists_array_of_shape (Query.shape_delete table condition)⟩

section Rehearsal

open Rehearsal

/-- The column that rehearsals find under a name has that name, up to case. -/
theorem exists_column_of_columnIndex? {columns : List Column} {name : String} {index : Nat}
    (hindex : columnIndex? columns name = some index) :
    ∃ column, columns[index]? = some column ∧ sameIgnoringCase column.name name := by
  have hfound : ∀ isSame : Column → Bool, columns.findIdx? isSame = some index →
      ∃ column, columns[index]? = some column ∧ isSame column := by
    intro isSame hplace
    obtain ⟨hless, hsame, -⟩ := List.findIdx?_eq_some_iff_getElem.1 hplace
    exact ⟨columns[index], List.getElem?_eq_getElem hless, hsame⟩
  rw [columnIndex?, Option.orElse_eq_orElse, Option.orElse_eq_or, Option.or_eq_some_iff] at hindex
  obtain hexact | ⟨-, hsame⟩ := hindex
  · obtain ⟨column, hcolumn, hname⟩ := hfound _ hexact
    refine ⟨column, hcolumn, ?_⟩
    rw [beq_iff_eq] at hname
    rw [hname, sameIgnoringCase, beq_self_eq_true]
  · exact hfound _ hsame

/-- A value is taken from the column that is found, if it has one to take. -/
theorem take_eq_ok_iff {take? : ColumnType → Datum → Option Kind} {columns : List Column}
    {row : List Datum} {name : String} {value : Kind} :
    take take? columns row name = .ok value ↔
      ∃ type datum, Holds columnIndex? columns row name type datum ∧
        take? type datum = some value := by
  rw [take]
  constructor
  · intro htaken
    split at htaken
    · cases htaken
    · next index hindex =>
      obtain ⟨column, hcolumn, hname⟩ := exists_column_of_columnIndex? hindex
      cases hdatum : row[index]? with
      | none => simp [hcolumn, hdatum] at htaken
      | some datum =>
          cases hvalue : take? column.type datum with
          | none => simp [hcolumn, hdatum, hvalue] at htaken
          | some found =>
              obtain rfl : found = value := by
                simpa [hcolumn, hdatum, hvalue] using htaken
              exact ⟨_, datum, ⟨index, column, hindex, hcolumn, hname, rfl, hdatum⟩, hvalue⟩
  · rintro ⟨_, datum, ⟨index, column, hindex, hcolumn, -, rfl, hdatum⟩, hvalue⟩
    simp [hindex, hcolumn, hdatum, hvalue]

/-- Rehearsals read rows as it is documented of a driver. -/
theorem documented_rowReader : rowReader.Documented columnIndex? readDocument? where
  integer_eq_ok_iff columns row name number := by
    rw [rowReader, take_eq_ok_iff]
    constructor
    · rintro ⟨type, datum, hholds, htaken⟩
      cases type <;> cases datum <;> cases htaken
      exact hholds
    · exact fun hholds => ⟨_, _, hholds, rfl⟩
  document_eq_ok_iff columns row name value := by
    rw [rowReader, take_eq_ok_iff]
    constructor
    · rintro ⟨type, datum, hholds, htaken⟩
      unfold document? at htaken
      split at htaken
      · exact ⟨_, _, .inl rfl, hholds, htaken⟩
      · exact ⟨_, _, .inr rfl, hholds, htaken⟩
      · cases htaken
    · rintro ⟨type, text, rfl | rfl, hholds, hparse⟩
      · exact ⟨_, _, hholds, hparse⟩
      · exact ⟨_, _, hholds, hparse⟩

/-- A connection that answers every statement with the same rows. -/
def answering (reply : Reply) : World (signature Nat) Unit where
  respond
    | .send _, _ => (.ok reply, ())
    | .note _, _ => ((), ())

/-- The reply to a count of users, with a result of three in its first row. -/
def countedUsers (others : List (List Datum)) : Reply :=
  ⟨[⟨"id", .int4⟩, ⟨"Result", .int8⟩], [.integer 7, .integer 3] :: others, 1⟩

/-- A reply with two documents, the second of which is the null of JSON. -/
def twoDocuments : Reply :=
  ⟨[⟨"result", .jsonb⟩], [[.json "[true]"], [.json "null"]], 2⟩

/-- A count reads the second row too, although it keeps only the first one. -/
theorem run_shapes_results_of_all_rows_of_users :
    let users : Fragment Nat := Query.count "users" .all {}
    let profiles : Fragment Nat := .ofText "SELECT profile AS result FROM users"
    users.compile = .ok ⟨"SELECT count(*) AS result FROM \"users\"", #[]⟩ ∧
    ((users.run rowReader).run (answering (countedUsers [])) ()).result = .ok (.ofInt 3) ∧
    ((users.run rowReader).run (answering (countedUsers [[.integer 8, .null]])) ()).result =
      .error (.decode "result" "error deserializing column 1") ∧
    ((profiles.run rowReader).run (answering twoDocuments) ()).result =
      .ok (.array [.array [.bool true], .null]) := by
  intro users profiles
  have hcompile : users.compile = .ok ⟨"SELECT count(*) AS result FROM \"users\"", #[]⟩ := rfl
  have hfirst (others : List (List Datum)) : Carries columnIndex? readDocument?
      (countedUsers others).columns [.integer 7, .integer 3] .count (.ofInt 3) :=
    .number ⟨1, _, rfl, rfl, by decide, rfl, rfl⟩
  have hdocument {text : String} {value : Json} (hparse : readDocument? text = some value) :
      Carries columnIndex? readDocument? twoDocuments.columns [.json text] .all value :=
    .document nofun (.inl rfl) ⟨0, _, rfl, rfl, by decide, rfl, rfl⟩ hparse
  obtain ⟨-, hvalue, -⟩ := run_shapes_results_of_all_rows documented_rowReader
    (answering (countedUsers [])) () users _ hcompile (countedUsers []) rfl
  obtain ⟨-, -, herror, -⟩ := run_shapes_results_of_all_rows documented_rowReader
    (answering (countedUsers [[.integer 8, .null]])) () users _ hcompile
    (countedUsers [[.integer 8, .null]]) rfl
  obtain ⟨-, harray, -⟩ := run_shapes_results_of_all_rows documented_rowReader
    (answering twoDocuments) () profiles _ rfl twoDocuments rfl
  refine ⟨hcompile, (hvalue _).2 ⟨[.ofInt 3], .cons (hfirst []) .nil, .count _ _⟩,
    (herror _).2 ⟨[[.integer 7, .integer 3]], [.integer 8, .null], [], _, rfl, ?_, ?_, rfl, rfl⟩,
    (harray _).2 ⟨_, .cons (hdocument rfl) (.cons (hdocument rfl) .nil), .all _⟩⟩
  · simp only [List.forall_mem_singleton]
    exact ⟨_, hfirst _⟩
  · exact (exists_result_eq_error_iff documented_rowReader).1 ⟨_, rfl⟩

end Rehearsal

end SqlWeave
