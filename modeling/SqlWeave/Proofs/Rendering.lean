import Mathlib.Data.List.TakeWhile
import SqlWeave.Sql.Pieces

/-!
# Rendering

The text and the values that pieces add to a statement.  What a piece reads
like depends on the statement before it in one respect only: a value takes the
number of its placeholder from the values that are bound already.  Main
statement: writing pieces adds the text and the values of those before the
first fault, and ends with that fault if there is one.
-/

namespace SqlWeave

variable {Value : Type}

def placeholder (number : Nat) : String := "$" ++ toString number

/-- A name as a statement shows it. -/
def quotedName (name : String) : String := "\"" ++ name ++ "\""

/-- Different names differ between quotes too, as nothing inside them is escaped. -/
theorem quotedName_injective : Function.Injective quotedName :=
  fun _ _ heq => (String.append_right_inj _).1 ((String.append_left_inj _).1 heq)

namespace Piece

def value? (piece : Piece Value) : Option Value := piece.site?.bind Site.value?

def fault? (piece : Piece Value) : Option TreeFault := piece.site?.bind Site.fault?

/-- The text of a piece that binds no value. -/
def content : Piece Value → String
  | .text sql => sql
  | .site (.current (some column)) => quotedName column
  | .site (.enclosing (some table) column) => quotedName table ++ "." ++ quotedName column
  | .site _ => ""

def values (pieces : List (Piece Value)) : List Value := pieces.filterMap value?

/-- The text of pieces behind a statement that binds so many values. -/
def render (bound : Nat) : List (Piece Value) → String
  | [] => ""
  | piece :: rest =>
      match piece.value? with
      | some _ => placeholder (bound + 1) ++ render (bound + 1) rest
      | none => piece.content ++ render bound rest

def written (pieces : List (Piece Value)) : List (Piece Value) :=
  pieces.takeWhile fun piece => piece.fault?.isNone

def firstFault? (pieces : List (Piece Value)) : Option TreeFault := pieces.findSome? fault?

@[simp]
theorem values_append (front back : List (Piece Value)) :
    values (front ++ back) = values front ++ values back :=
  List.filterMap_append

/-- Values are bound at sites only, so literal text has no part in them. -/
theorem values_eq_filterMap_sites (pieces : List (Piece Value)) :
    values pieces = (sites pieces).filterMap Site.value? :=
  List.filterMap_filterMap.symm

theorem firstFault?_eq_findSome?_sites (pieces : List (Piece Value)) :
    firstFault? pieces = (sites pieces).findSome? Site.fault? := by
  induction pieces with
  | nil => rfl
  | cons piece rest ih =>
      rw [firstFault?] at ih ⊢
      cases piece with
      | text sql => exact ih
      | site place =>
          rw [sites_site, List.findSome?_cons, List.findSome?_cons, ih]
          rfl

/-- Without a fault all pieces are written. -/
theorem written_eq_self {pieces : List (Piece Value)} (hfault : firstFault? pieces = none) :
    written pieces = pieces := by
  rw [firstFault?, List.findSome?_eq_none_iff] at hfault
  rw [written, List.takeWhile_eq_self_iff]
  intro piece hpiece
  rw [hfault piece hpiece]
  rfl

/-- A site that cannot be written leaves a first fault. -/
theorem exists_firstFault?_of_mem_sites {pieces : List (Piece Value)} {place : Site Value}
    {fault : TreeFault} (hplace : place ∈ sites pieces) (hfault : place.fault? = some fault) :
    ∃ first, firstFault? pieces = some first := by
  rw [firstFault?_eq_findSome?_sites, ← Option.isSome_iff_exists, List.findSome?_isSome_iff]
  exact ⟨place, hplace, by rw [hfault]; rfl⟩

/-- The numbers of later pieces go on where those of earlier pieces end. -/
theorem render_append (bound : Nat) (front back : List (Piece Value)) :
    render bound (front ++ back) =
      render bound front ++ render (bound + (values front).length) back := by
  induction front generalizing bound with
  | nil => simp [render, values]
  | cons piece rest ih =>
      cases hvalue : piece.value? with
      | some value =>
          have hlength : bound + (values (piece :: rest)).length =
              bound + 1 + (values rest).length := by
            simp only [values, List.filterMap_cons, hvalue, List.length_cons]
            omega
          simp only [List.cons_append, render, hvalue, ih, hlength, String.append_assoc]
      | none =>
          have hvalues : values (piece :: rest) = values rest := by
            simp only [values, List.filterMap_cons, hvalue]
          simp only [List.cons_append, render, hvalue, ih, hvalues, String.append_assoc]

end Piece

def Compiled.extend (out : Compiled Value) (pieces : List (Piece Value)) : Compiled Value where
  text := out.text ++ Piece.render out.params.size pieces
  params := out.params ++ (Piece.values pieces).toArray

namespace Compiled

@[simp]
theorem extend_nil (out : Compiled Value) : out.extend [] = out := by
  simp [extend, Piece.render, Piece.values]

/-- Pieces can be put behind a statement in several goes. -/
theorem extend_append (out : Compiled Value) (front back : List (Piece Value)) :
    out.extend (front ++ back) = (out.extend front).extend back := by
  simp [extend, Piece.render_append, String.append_assoc, Array.append_assoc]

end Compiled

namespace Weave

/-- What comes after a walk that succeeds starts where it ends. -/
theorem run_bind_of_ok {Result Image : Type} {first : Weave Value Result}
    {next : Result → Weave Value Image} {out reached : Compiled Value} {result : Result}
    (hfirst : first.run out = .ok result reached) :
    (first >>= next).run out = (next result).run reached := by
  change EStateM.bind first next out = next result reached
  rw [EStateM.bind, show first out = _ from hfirst]

theorem run_bind_of_error {Result Image : Type} {first : Weave Value Result}
    {next : Result → Weave Value Image} {out reached : Compiled Value} {fault : TreeFault}
    (hfirst : first.run out = .error fault reached) :
    (first >>= next).run out = .error fault reached := by
  change EStateM.bind first next out = _
  rw [EStateM.bind, show first out = _ from hfirst]

theorem run_text (sql : String) (out : Compiled Value) :
    (text sql).run out = .ok () { out with text := out.text ++ sql } := rfl

theorem run_ident (name : String) (out : Compiled Value) :
    (ident name).run out = .ok () { out with text := out.text ++ quotedName name } := by
  have hquoted : out.text ++ "\"" ++ name ++ "\"" = out.text ++ quotedName name := by
    simp only [quotedName, String.append_assoc]
  rw [← hquoted]
  rfl

/-- The fault that a walk behind a statement ends with, or none if it succeeds. -/
def fault? (walk : Weave Value Unit) (before : Compiled Value) : Option TreeFault :=
  match walk.run before with
  | .ok _ _ => none
  | .error fault _ => some fault

/-- The statement that a walk leaves behind, whether it succeeds or not. -/
def reached (walk : Weave Value Unit) (before : Compiled Value) : Compiled Value :=
  match walk.run before with
  | .ok _ out | .error _ out => out

theorem exists_error_iff (walk : Weave Value Unit) (before : Compiled Value) :
    (∃ fault out, walk.run before = .error fault out) ↔ (fault? walk before).isSome := by
  rw [fault?]
  cases walk.run before <;> simp

end Weave

/-- One piece is written as it reads, or it fails and writes nothing. -/
theorem Piece.run_write (piece : Piece Value) (out : Compiled Value) :
    piece.write.run out =
      match piece.fault? with
      | none => .ok () (out.extend [piece])
      | some fault => .error fault out := by
  cases piece with
  | text sql => simp [write, fault?, site?, Weave.run_text, Compiled.extend, render, value?,
      content, values]
  | site place =>
      cases place with
      | bound value =>
          simp [write, Site.write, Weave.bind, fault?, site?, Site.fault?, Compiled.extend,
            render, value?, Site.value?, values, placeholder, String.append_assoc]
      | current column =>
          cases column with
          | none => rfl
          | some column =>
              simp [write, Site.write, Weave.selfColumn, Weave.run_ident, fault?, site?,
                Site.fault?, Compiled.extend, render, value?, Site.value?, values, content]
      | enclosing table column =>
          cases table with
          | none => rfl
          | some table =>
              rw [write, Site.write, Weave.parentColumn,
                Weave.run_bind_of_ok (Weave.run_ident table out),
                Weave.run_bind_of_ok (Weave.run_text "." _), Weave.run_ident]
              simp [fault?, site?, Site.fault?, Compiled.extend, render, value?, Site.value?,
                values, content, String.append_assoc]
      | comparedDefault column => rfl

/-- Writing pieces adds those before the first fault, and ends with that fault. -/
theorem Piece.run_writeAll (pieces : List (Piece Value)) (out : Compiled Value) :
    (writeAll pieces).run out =
      match firstFault? pieces with
      | none => .ok () (out.extend (written pieces))
      | some fault => .error fault (out.extend (written pieces)) := by
  induction pieces generalizing out with
  | nil => simp [writeAll, firstFault?, written]
  | cons piece rest ih =>
      have hpiece := run_write piece out
      rw [writeAll]
      cases hfault : piece.fault? with
      | some fault =>
          rw [hfault] at hpiece
          rw [Weave.run_bind_of_error hpiece]
          simp [firstFault?, written, hfault]
      | none =>
          rw [hfault] at hpiece
          have hwritten : written (piece :: rest) = [piece] ++ written rest := by
            simp [written, hfault]
          have hfirst : firstFault? (piece :: rest) = firstFault? rest := by
            simp [firstFault?, hfault]
          rw [Weave.run_bind_of_ok hpiece, ih, hfirst, hwritten, Compiled.extend_append]

theorem Piece.fault?_writeAll (pieces : List (Piece Value)) (before : Compiled Value) :
    Weave.fault? (writeAll pieces) before = firstFault? pieces := by
  rw [Weave.fault?, run_writeAll]
  cases firstFault? pieces <;> rfl

theorem Piece.reached_writeAll (pieces : List (Piece Value)) (before : Compiled Value) :
    Weave.reached (writeAll pieces) before = before.extend (written pieces) := by
  rw [Weave.reached, run_writeAll]
  cases firstFault? pieces <;> rfl

/-- A walk that meets no fault in the pieces in front goes on behind them. -/
theorem Piece.run_writeAll_append {front : List (Piece Value)} (hfront : firstFault? front = none)
    (back : List (Piece Value)) (out : Compiled Value) :
    (writeAll (front ++ back)).run out = (writeAll back).run (out.extend front) := by
  have hrun := run_writeAll front out
  rw [hfront, written_eq_self hfront] at hrun
  rw [writeAll_append]
  exact Weave.run_bind_of_ok hrun

/-- A parent reference with a table is written as both names. -/
theorem Piece.run_writeAll_reference (tableRef column : String) (back : List (Piece Value))
    (out : Compiled Value) :
    (writeAll (.site (.enclosing (some tableRef) column) :: back)).run out =
      (writeAll back).run
        { out with text := out.text ++ (quotedName tableRef ++ "." ++ quotedName column) } := by
  have hpiece := run_write (.site (.enclosing (some tableRef) column)) out
  have htext : out.extend [.site (.enclosing (some tableRef) column)] =
      { out with text := out.text ++ (quotedName tableRef ++ "." ++ quotedName column) } := by
    simp [Compiled.extend, render, value?, site?, Site.value?, values, content]
  rw [writeAll, ← htext]
  exact Weave.run_bind_of_ok hpiece

/-- A parent reference without a table ends the walk. -/
theorem Piece.run_writeAll_unresolved (column : String) (back : List (Piece Value))
    (out : Compiled Value) :
    (writeAll (.site (.enclosing none column) :: back)).run out =
      .error (.parentOutsideLateral column) out :=
  Weave.run_bind_of_error (run_write (.site (.enclosing none column)) out)

end SqlWeave
