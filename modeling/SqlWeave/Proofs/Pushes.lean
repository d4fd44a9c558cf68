import SqlWeave.Sql.Compile

/-!
# Pushes

A fragment as it is built: text and nodes are pushed behind each other.  The
laws below say what a push adds to the walk over the fragment, and that nothing
depends on how the text is divided into literals.  Main statements: a fragment
compiles to what it held before its pushes, and then to what each of them adds;
and every fragment is what pushes of its own literals and nodes build.
-/

namespace SqlWeave

variable {Value : Type}

namespace Weave

@[simp]
theorem text_empty : (text "" : Weave Value Unit) = pure () := by
  funext out
  have htext : out.text ++ "" = out.text := String.append_empty
  change EStateM.Result.ok () { out with text := out.text ++ "" } = EStateM.Result.ok () out
  rw [htext]

/-- Neighbouring texts are written like one. -/
theorem text_append (front back : String) :
    text (front ++ back) = ((do text front; text back) : Weave Value Unit) := by
  funext out
  have htext : out.text ++ (front ++ back) = out.text ++ front ++ back :=
    String.append_assoc.symm
  change EStateM.Result.ok () { out with text := out.text ++ (front ++ back) } =
    EStateM.Result.ok () { out with text := out.text ++ front ++ back }
  rw [htext]

end Weave

theorem weaveSegments_append (scope : Scope) (front back : List (String × Node Value)) :
    weaveSegments scope (front ++ back) =
      (do weaveSegments scope front; weaveSegments scope back) := by
  induction front with
  | nil => simp [weaveSegments]
  | cons segment rest ih => simp [weaveSegments, ih]

theorem weaveItems_append (scope : Scope) (front back : List (Node Value)) :
    weaveItems scope (front ++ back) =
      (do weaveItems scope front; weaveItems scope back) := by
  induction front with
  | nil => simp [weaveItems]
  | cons node rest ih => simp [weaveItems, ih]

/-- One step of building a fragment. -/
inductive Push (Value : Type) where
  | text (sql : String)
  | node (node : Node Value)
  | shape (shape : ResultShape)

/-- What a push adds to the walk over a fragment. -/
def Push.weave (scope : Scope) : Push Value → Weave Value Unit
  | .text sql => Weave.text sql
  | .node child => child.weave scope
  | .shape _ => pure ()

def weavePushes (scope : Scope) : List (Push Value) → Weave Value Unit
  | [] => pure ()
  | push :: rest => do
    push.weave scope
    weavePushes scope rest

theorem weavePushes_append (scope : Scope) (front back : List (Push Value)) :
    weavePushes scope (front ++ back) =
      (do weavePushes scope front; weavePushes scope back) := by
  induction front with
  | nil => simp [weavePushes]
  | cons push rest ih => simp [weavePushes, ih]

namespace Fragment

def pushOne (fragment : Fragment Value) : Push Value → Fragment Value
  | .text sql => fragment.push sql
  | .node node => fragment.pushNode node
  | .shape shape => fragment.withShape shape

/-- A fragment with pushes made one after the other. -/
def pushAll (fragment : Fragment Value) (pushes : List (Push Value)) : Fragment Value :=
  pushes.foldl pushOne fragment

theorem weave_eq (scope : Scope) (fragment : Fragment Value) :
    fragment.weave scope = (do
      weaveSegments (scope.enter fragment.parentAlias) fragment.segments
      Weave.text fragment.last) := by
  obtain ⟨segments, last, shape, parentAlias⟩ := fragment
  rw [weave]

@[simp]
theorem weave_ofText (scope : Scope) (sql : String) :
    (ofText sql : Fragment Value).weave scope = Weave.text sql := by
  simp [weave_eq, ofText, weaveSegments]

@[simp]
theorem weave_empty (scope : Scope) : (empty : Fragment Value).weave scope = pure () := by
  rw [empty, weave_ofText, Weave.text_empty]

theorem weave_push (scope : Scope) (fragment : Fragment Value) (sql : String) :
    (fragment.push sql).weave scope = (do fragment.weave scope; Weave.text sql) := by
  simp [weave_eq, push, Weave.text_append]

/-- A node that is pushed stands under the alias of the fragment. -/
theorem weave_pushNode (scope : Scope) (fragment : Fragment Value) (node : Node Value) :
    (fragment.pushNode node).weave scope =
      (do fragment.weave scope; node.weave (scope.enter fragment.parentAlias)) := by
  simp [weave_eq, pushNode, weaveSegments_append, weaveSegments]

@[simp]
theorem parentAlias_pushOne (fragment : Fragment Value) (push : Push Value) :
    (fragment.pushOne push).parentAlias = fragment.parentAlias := by
  cases push <;> rfl

theorem weave_pushOne (scope : Scope) (fragment : Fragment Value) (push : Push Value) :
    (fragment.pushOne push).weave scope =
      (do fragment.weave scope; push.weave (scope.enter fragment.parentAlias)) := by
  cases push with
  | text sql => exact weave_push scope fragment sql
  | node node => exact weave_pushNode scope fragment node
  | shape shape => simp [weave_eq, pushOne, withShape, Push.weave]

@[simp]
theorem parentAlias_pushAll (fragment : Fragment Value) (pushes : List (Push Value)) :
    (fragment.pushAll pushes).parentAlias = fragment.parentAlias := by
  induction pushes generalizing fragment with
  | nil => rfl
  | cons push rest ih =>
    exact (ih (fragment.pushOne push)).trans (fragment.parentAlias_pushOne push)

/-- Pushes compile behind what the fragment held before, under its alias. -/
theorem weave_pushAll (scope : Scope) (fragment : Fragment Value) (pushes : List (Push Value)) :
    (fragment.pushAll pushes).weave scope =
      (do fragment.weave scope; weavePushes (scope.enter fragment.parentAlias) pushes) := by
  induction pushes generalizing fragment with
  | nil => simp [pushAll, weavePushes]
  | cons push rest ih =>
      have hrest : fragment.pushAll (push :: rest) = (fragment.pushOne push).pushAll rest := rfl
      rw [hrest, ih, weave_pushOne, parentAlias_pushOne]
      simp [weavePushes]

theorem weave_pushAll_empty (scope : Scope) (pushes : List (Push Value)) :
    (empty.pushAll pushes).weave scope = weavePushes scope pushes := by
  rw [weave_pushAll, weave_empty, pure_bind]
  rfl

theorem weave_pushNode_empty (scope : Scope) (node : Node Value) :
    (empty.pushNode node).weave scope = node.weave scope := by
  rw [weave_pushNode, weave_empty, pure_bind]
  rfl

/-- The pushes that build a fragment. -/
def pushes (fragment : Fragment Value) : List (Push Value) :=
  (fragment.segments.flatMap fun segment => [.text segment.1, .node segment.2]) ++
    [.text fragment.last, .shape fragment.shape]

theorem pushAll_append (fragment : Fragment Value) (front back : List (Push Value)) :
    fragment.pushAll (front ++ back) = (fragment.pushAll front).pushAll back :=
  List.foldl_append

/-- Pushing literals and nodes alternately puts segments behind a fragment. -/
theorem pushAll_segments (front segments : List (String × Node Value)) :
    (⟨front, "", .all, none⟩ : Fragment Value).pushAll
        (segments.flatMap fun segment => [.text segment.1, .node segment.2]) =
      ⟨front ++ segments, "", .all, none⟩ := by
  induction segments generalizing front with
  | nil => rw [List.append_nil]; rfl
  | cons segment rest ih =>
      obtain ⟨literal, node⟩ := segment
      calc (⟨front, "", .all, none⟩ : Fragment Value).pushAll
            (((literal, node) :: rest).flatMap fun segment => [.text segment.1, .node segment.2])
          = (⟨front ++ [("" ++ literal, node)], "", .all, none⟩ : Fragment Value).pushAll
              (rest.flatMap fun segment => [.text segment.1, .node segment.2]) := rfl
        _ = ⟨front ++ (literal, node) :: rest, "", .all, none⟩ := by
            rw [ih, String.empty_append, List.append_assoc]
            rfl

/-- Every fragment without an alias is built by pushes, from the one without text. -/
theorem pushAll_pushes (fragment : Fragment Value) (halias : fragment.parentAlias = none) :
    Fragment.empty.pushAll fragment.pushes = fragment := by
  obtain ⟨segments, last, shape, parentAlias⟩ := fragment
  cases halias
  have hsegments := pushAll_segments [] segments
  rw [pushes, pushAll_append, empty, ofText, hsegments]
  change Fragment.mk segments ("" ++ last) shape none = _
  rw [String.empty_append]

end Fragment

end SqlWeave
