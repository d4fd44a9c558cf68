import Mathlib.Data.List.Forall2
import SqlWeave.Proofs.Readings

/-!
# Parentheses

Which parentheses of a text belong together.  Texts are read from left to
right with the number of parentheses that are open; a text is balanced if
every one that it opens is closed in it and no other.  Main statements: what is
put together from balanced readings is balanced, and around a balanced text
the two parentheses next to it belong together.
-/

namespace SqlWeave

variable {Value : Type}

/-- A text with as many closing as opening parentheses, and not more of them in any prefix. -/
structure Balanced (text : String) : Prop where
  count_eq : text.toList.count '(' = text.toList.count ')'
  count_le : ∀ front, front <+: text.toList → front.count ')' ≤ front.count '('

/-- A text without parentheses. -/
def ParenthesisFree (text : String) : Prop := '(' ∉ text.toList ∧ ')' ∉ text.toList

instance : DecidablePred ParenthesisFree := fun text =>
  inferInstanceAs (Decidable ('(' ∉ text.toList ∧ ')' ∉ text.toList))

namespace Parentheses

/-- The number of open parentheses after a character, unless the character
closes one that was not opened. -/
def step (depth : Nat) (c : Char) : Option Nat :=
  if c = '(' then some (depth + 1)
  else if c = ')' then if depth = 0 then none else some (depth - 1)
  else some depth

/-- The number of open parentheses after a text. -/
def nest (depth : Nat) (text : List Char) : Option Nat := text.foldlM step depth

/-- The text up to the parenthesis that closes the one in front of it, and the
text behind that parenthesis, where so many were opened in between. -/
def closing (depth : Nat) : List Char → Option (List Char × List Char)
  | [] => none
  | c :: rest =>
    match step depth c with
    | none => some ([], rest)
    | some inside => (closing inside rest).map fun found => (c :: found.1, found.2)

theorem nest_append (depth : Nat) (front back : List Char) :
    nest depth (front ++ back) = (nest depth front).bind fun inside => nest inside back :=
  List.foldlM_append

theorem nest_cons (depth : Nat) (c : Char) (rest : List Char) :
    nest depth (c :: rest) = (step depth c).bind fun inside => nest inside rest :=
  List.foldlM_cons

theorem nest_eq_some_iff (depth inside : Nat) (text : List Char) :
    nest depth text = some inside ↔
      depth + text.count '(' = inside + text.count ')' ∧
      ∀ front, front <+: text → front.count ')' ≤ depth + front.count '(' := by
  induction text generalizing depth with
  | nil => simp [nest]
  | cons c rest ih =>
      have hprefix : (∀ front, front <+: c :: rest → front.count ')' ≤ depth + front.count '(') ↔
          ∀ front, front <+: rest →
            (c :: front).count ')' ≤ depth + (c :: front).count '(' := by
        simp only [List.prefix_cons_iff]
        constructor
        · exact fun h front hfront => h _ (.inr ⟨front, rfl, hfront⟩)
        · rintro h front (rfl | ⟨front, rfl, hfront⟩)
          · exact Nat.zero_le _
          · exact h front hfront
      rw [nest_cons, hprefix, step]
      by_cases hopen : c = '('
      · subst hopen
        simp only [if_true, Option.bind_some, ih, List.count_cons_self,
          List.count_cons_of_ne (show '(' ≠ ')' by decide)]
        exact and_congr (by omega) (forall_congr' fun front => imp_congr_right fun _ => by omega)
      · by_cases hclose : c = ')'
        · subst hclose
          simp only [hopen, if_false, if_true, List.count_cons_self,
            List.count_cons_of_ne (show ')' ≠ '(' by decide)]
          cases depth with
          | zero =>
              simp only [if_true, Option.bind_none, reduceCtorEq, false_iff, not_and]
              intro _ hfronts
              exact absurd (hfronts [] List.nil_prefix) (by simp)
          | succ depth =>
              simp only [Nat.add_one_ne_zero, if_false, Nat.add_sub_cancel, Option.bind_some, ih]
              exact and_congr (by omega)
                (forall_congr' fun front => imp_congr_right fun _ => by omega)
        · simp only [hopen, hclose, if_false, Option.bind_some, ih,
            List.count_cons_of_ne (show c ≠ '(' from hopen),
            List.count_cons_of_ne (show c ≠ ')' from hclose)]

/-- More parentheses may be open before a text. -/
theorem nest_add {depth inside : Nat} {text : List Char} (more : Nat)
    (htext : nest depth text = some inside) : nest (depth + more) text = some (inside + more) := by
  rw [nest_eq_some_iff] at htext ⊢
  obtain ⟨hcount, hfronts⟩ := htext
  refine ⟨by omega, fun front hfront => ?_⟩
  have := hfronts front hfront
  omega

theorem closing_append {depth inside : Nat} {text : List Char} (rest : List Char)
    (htext : nest depth text = some inside) :
    closing depth (text ++ rest) =
      (closing inside rest).map fun found => (text ++ found.1, found.2) := by
  induction text generalizing depth with
  | nil =>
      cases htext
      simp
  | cons c text ih =>
      rw [nest_cons, Option.bind_eq_some_iff] at htext
      obtain ⟨between, hstep, htext⟩ := htext
      rw [List.cons_append, closing, hstep]
      change (closing between (text ++ rest)).map _ = _
      rw [ih htext, Option.map_map]
      rfl

end Parentheses

open Parentheses

/-- A text is balanced exactly if it closes what it opens and nothing else. -/
theorem balanced_iff_nest (text : String) : Balanced text ↔ nest 0 text.toList = some 0 := by
  rw [nest_eq_some_iff, Nat.zero_add, Nat.zero_add]
  constructor
  · rintro ⟨hcount, hfronts⟩
    exact ⟨hcount, by simpa only [Nat.zero_add] using hfronts⟩
  · rintro ⟨hcount, hfronts⟩
    exact ⟨hcount, by simpa only [Nat.zero_add] using hfronts⟩

instance : DecidablePred Balanced := fun text => decidable_of_iff' _ (balanced_iff_nest text)

namespace Balanced

/-- A balanced text leaves as many parentheses open as there were. -/
theorem nest_eq {text : String} (htext : Balanced text) (depth : Nat) :
    nest depth text.toList = some depth := by
  have hmore := nest_add depth ((balanced_iff_nest text).1 htext)
  rwa [Nat.zero_add] at hmore

theorem append {front back : String} (hfront : Balanced front) (hback : Balanced back) :
    Balanced (front ++ back) := by
  rw [balanced_iff_nest, String.toList_append, nest_append, hfront.nest_eq, Option.bind_some,
    hback.nest_eq]

theorem parenthesized {inner : String} (hinner : Balanced inner) :
    Balanced ("(" ++ inner ++ ")") := by
  have hopen : nest 0 "(".toList = some 1 := by decide
  have hclose : nest 1 ")".toList = some 0 := by decide
  rw [balanced_iff_nest, String.toList_append, String.toList_append, nest_append, nest_append,
    hopen, Option.bind_some, hinner.nest_eq, Option.bind_some, hclose]

/-- The parenthesis before a balanced text is closed by the one behind it. -/
theorem closing_eq {inner : String} (hinner : Balanced inner) (back : String) :
    closing 0 (inner ++ ")" ++ back).toList = some (inner.toList, back.toList) := by
  rw [String.toList_append, String.toList_append, List.append_assoc,
    closing_append _ (hinner.nest_eq 0)]
  simp [closing, step]

theorem of_parenthesisFree {text : String} (htext : ParenthesisFree text) : Balanced text := by
  obtain ⟨hopen, hclose⟩ := htext
  refine ⟨by rw [List.count_eq_zero.2 hopen, List.count_eq_zero.2 hclose], fun front hfront => ?_⟩
  rw [List.count_eq_zero.2 fun hmem => hclose (hfront.subset hmem)]
  exact Nat.zero_le _

end Balanced

namespace ParenthesisFree

theorem append {front back : String} (hfront : ParenthesisFree front)
    (hback : ParenthesisFree back) : ParenthesisFree (front ++ back) := by
  simp only [ParenthesisFree, String.toList_append, List.mem_append, not_or] at *
  exact ⟨⟨hfront.1, hback.1⟩, hfront.2, hback.2⟩

theorem quotedName {name : String} (hname : ParenthesisFree name) :
    ParenthesisFree (quotedName name) :=
  (append (by decide) hname).append (by decide)

theorem repr (number : Nat) : ParenthesisFree number.repr := by
  have hdigit : ∀ c ∈ number.repr.toList, c.isDigit := by
    intro c hmem
    rw [Nat.toList_repr] at hmem
    exact Nat.isDigit_of_mem_toDigits (by decide) (by decide) hmem
  exact ⟨fun hmem => absurd (hdigit _ hmem) (by decide),
    fun hmem => absurd (hdigit _ hmem) (by decide)⟩

theorem placeholder (number : Nat) : ParenthesisFree (placeholder number) :=
  append (by decide) (repr number)

end ParenthesisFree

/-- Whatever the numbers of the placeholders, the same parentheses are open behind a text. -/
theorem Piece.nest_render (depth bound other : Nat) (pieces : List (Piece Value)) :
    nest depth (render bound pieces).toList = nest depth (render other pieces).toList := by
  induction pieces generalizing depth bound other with
  | nil => rfl
  | cons piece rest ih =>
      have hplaceholder : ∀ number, nest depth (placeholder number).toList = some depth :=
        fun number => (Balanced.of_parenthesisFree (.placeholder number)).nest_eq depth
      cases hvalue : piece.value? with
      | some value =>
          simp only [render, hvalue, String.toList_append, nest_append, hplaceholder,
            Option.bind_some]
          exact ih depth _ _
      | none =>
          simp only [render, hvalue, String.toList_append, nest_append]
          congr 1
          funext inside
          exact ih inside _ _

namespace Reading

/-- A reading whose text is balanced if it can be written. -/
def Balanced (reading : Reading Value) : Prop :=
  reading.fault? = none → ∀ bound, SqlWeave.Balanced (reading.text bound)

namespace Balanced

theorem literal {sql : String} (hsql : SqlWeave.Balanced sql) :
    (Reading.literal sql : Reading Value).Balanced :=
  fun _ _ => hsql

theorem name {name : String} (hname : ParenthesisFree name) :
    (Reading.name name : Reading Value).Balanced :=
  literal (.of_parenthesisFree hname.quotedName)

theorem append {front back : Reading Value} (hfront : front.Balanced) (hback : back.Balanced) :
    (front ++ back).Balanced := by
  intro hfault bound
  rw [fault?_append, Option.or_eq_none_iff] at hfault
  exact (hfront hfault.1 bound).append (hback hfault.2 _)

theorem parenthesized {inner : Reading Value} (hinner : inner.Balanced) :
    inner.parenthesized.Balanced := by
  intro hfault bound
  rw [text_parenthesized]
  refine (hinner ?_ bound).parenthesized
  rwa [fault?, ← sites_parenthesized, ← fault?]

theorem concat {readings : List (Reading Value)}
    (hreadings : ∀ reading ∈ readings, reading.Balanced) : (Reading.concat readings).Balanced := by
  induction readings with
  | nil => exact literal (by decide)
  | cons first rest ih =>
      rw [List.forall_mem_cons] at hreadings
      exact append hreadings.1 (ih hreadings.2)

theorem separated {separator : String} (hseparator : SqlWeave.Balanced separator)
    {readings : List (Reading Value)} (hreadings : ∀ reading ∈ readings, reading.Balanced) :
    (Reading.separated separator readings).Balanced := by
  cases readings with
  | nil => exact literal (by decide)
  | cons first rest =>
      rw [List.forall_mem_cons] at hreadings
      refine append hreadings.1 (concat ?_)
      simp only [List.mem_map, forall_exists_index, and_imp, forall_apply_eq_imp_iff₂]
      exact fun reading hmem => append (literal hseparator) (hreadings.2 reading hmem)

/-- Names stand in a list without parentheses. -/
theorem names {names : List String} (hnames : ∀ name ∈ names, ParenthesisFree name) :
    (Reading.separated ", " (names.map Reading.name) : Reading Value).Balanced := by
  refine separated (by decide) ?_
  simp only [List.mem_map, forall_exists_index, and_imp, forall_apply_eq_imp_iff₂]
  exact fun name hmem => Balanced.name (hnames name hmem)

end Balanced

/-- Readings that stand in a reading between parentheses of their own, in the order of
the opening ones.  Nothing says that they are all that stand so. -/
inductive Encloses : Reading Value → List (Reading Value) → Prop where
  | nothing (reading : Reading Value) : Encloses reading []
  | append {front back : Reading Value} {inFront inBack : List (Reading Value)} :
      Encloses front inFront → Encloses back inBack →
        Encloses (front ++ back) (inFront ++ inBack)
  | parenthesized {inner : Reading Value} {inside : List (Reading Value)} :
      Encloses inner inside → Encloses inner.parenthesized (inner :: inside)

namespace Encloses

theorem append_left {front : Reading Value} {inside : List (Reading Value)}
    (hfront : Encloses front inside) (back : Reading Value) : Encloses (front ++ back) inside := by
  simpa only [List.append_nil] using hfront.append (nothing back)

theorem append_right {back : Reading Value} {inside : List (Reading Value)}
    (front : Reading Value) (hback : Encloses back inside) : Encloses (front ++ back) inside :=
  (nothing front).append hback

/-- What stands inside of parentheses stands there without them. -/
theorem inside_parenthesized {inner : Reading Value} {inside : List (Reading Value)}
    (hinner : Encloses inner inside) : Encloses inner.parenthesized inside :=
  append_left (append_right _ hinner) _

theorem concat {Item : Type} (items : List Item) (reading : Item → Reading Value)
    (inside : Item → List (Reading Value)) (hitems : ∀ item, Encloses (reading item) (inside item)) :
    Encloses (Reading.concat (items.map reading)) (items.flatMap inside) := by
  induction items with
  | nil => exact nothing _
  | cons item rest ih => exact append (hitems item) ih

theorem separated {Item : Type} (separator : String) (items : List Item)
    (reading : Item → Reading Value) (inside : Item → List (Reading Value))
    (hitems : ∀ item, Encloses (reading item) (inside item)) :
    Encloses (Reading.separated separator (items.map reading)) (items.flatMap inside) := by
  cases items with
  | nil => exact nothing _
  | cons item rest =>
      refine append (hitems item) ?_
      rw [List.map_map]
      exact concat rest _ inside fun item => append_right _ (hitems item)

/-- Every enclosed reading has its place, and no two have the same. -/
theorem exists_places {reading : Reading Value} {inside : List (Reading Value)}
    (hencloses : Encloses reading inside) :
    ∃ places : List (Reading Value × Reading Value),
      List.Forall₂ (fun inner place => reading = place.1 ++ inner.parenthesized ++ place.2)
        inside places ∧
      ∀ bound,
        (places.Pairwise fun earlier later =>
          (earlier.1.text bound).length < (later.1.text bound).length) ∧
        ∀ place ∈ places, (place.1.text bound).length < (reading.text bound).length := by
  induction hencloses with
  | nothing reading => exact ⟨[], .nil, fun _ => ⟨.nil, fun _ hmem => nomatch hmem⟩⟩
  | @append front back inFront inBack _ _ ihFront ihBack =>
      obtain ⟨early, hearly, hearlyOrder⟩ := ihFront
      obtain ⟨late, hlate, hlateOrder⟩ := ihBack
      refine ⟨early.map (fun place => (place.1, place.2 ++ back)) ++
        late.map (fun place => (front ++ place.1, place.2)), List.rel_append ?_ ?_,
        fun bound => ?_⟩
      · refine List.forall₂_map_right_iff.2 (hearly.imp fun inner place hplace => ?_)
        simp only [hplace, append_assoc]
      · refine List.forall₂_map_right_iff.2 (hlate.imp fun inner place hplace => ?_)
        simp only [hplace, append_assoc]
      · obtain ⟨hearlyPairs, hearlyEnd⟩ := hearlyOrder bound
        obtain ⟨hlatePairs, hlateEnd⟩ := hlateOrder (bound + front.values.length)
        simp only [List.pairwise_append, List.pairwise_map, List.mem_append, List.mem_map,
          text_append, String.length_append]
        refine ⟨⟨hearlyPairs, hlatePairs.imp fun hless => Nat.add_lt_add_left hless _, ?_⟩, ?_⟩
        · rintro _ ⟨earlier, hmem, rfl⟩ _ ⟨later, -, rfl⟩
          rw [text_append, String.length_append]
          exact Nat.lt_add_right _ (hearlyEnd earlier hmem)
        · rintro _ (⟨place, hmem, rfl⟩ | ⟨place, hmem, rfl⟩)
          · exact Nat.lt_add_right _ (hearlyEnd place hmem)
          · rw [text_append, String.length_append]
            exact Nat.add_lt_add_left (hlateEnd place hmem) _
  | @parenthesized inner inside _ ih =>
      obtain ⟨places, hplaces, horder⟩ := ih
      refine ⟨(Reading.literal "", Reading.literal "") :: places.map fun place =>
        (Reading.literal "(" ++ place.1, place.2 ++ Reading.literal ")"), .cons ?_ ?_,
        fun bound => ?_⟩
      · rw [empty_append, append_empty]
      · refine List.forall₂_map_right_iff.2 (hplaces.imp fun within place hplace => ?_)
        simp only [hplace, Reading.parenthesized, append_assoc]
      · obtain ⟨hpairs, hend⟩ := horder bound
        simp only [List.pairwise_cons, List.pairwise_map, List.mem_map, List.forall_mem_cons,
          text_append, text_parenthesized, text_literal, values_literal, List.length_nil,
          Nat.add_zero, String.length_append]
        have hopen : "(".length = 1 := rfl
        have hnone : "".length = 0 := rfl
        refine ⟨⟨?_, hpairs.imp fun hless => Nat.add_lt_add_left hless _⟩, by omega, ?_⟩
        · rintro _ ⟨place, -, rfl⟩
          rw [text_append, text_literal, String.length_append]
          omega
        · rintro _ ⟨place, hmem, rfl⟩
          rw [text_append, text_literal, String.length_append]
          exact Nat.lt_add_right _ (Nat.add_lt_add_left (hend place hmem) _)

end Encloses

end Reading

end SqlWeave
