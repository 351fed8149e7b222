import BlitzLens.Proofs.Line.Parenthesis
import BlitzLens.Query.Signature

/-!
# The argument that is being written

Signature help shows which argument of a call is being written at the caret. The call is that of the
last parenthesis that is open in front of the caret, and the argument is the last of the pieces into
which top-level commas split the text behind that parenthesis
(`Signature.activeParameter_eq_pieces`).
-/

namespace BlitzLens.Signature

open Line

/-- The arguments that are being written at the end of a text: what stands behind the last open
parenthesis, or the whole text if none is open. -/
def argumentText (text : Text) : Text :=
  match lastOpenParen? text with
  | some opening => text.drop (opening + 1)
  | none => text

/-- Arguments are counted by the commas that split them. -/
theorem activeParameter_eq_count (text : Text) :
    activeParameter text = countTopLevel ',' (argumentText text) := by
  rw [activeParameter, argumentText]
  cases lastOpenParen? text <;> rfl

/-- The call at the end of a text is opened by the last of the open parentheses, if one is open, and
the argument that is being written is the last piece of the text behind it. -/
theorem activeParameter_eq_pieces (text : Text) :
    (∀ i, lastOpenParen? text = some i ↔ IsGreatest {j | IsOpenParen text j} i) ∧
      (lastOpenParen? text = none ↔ ∀ i, ¬IsOpenParen text i) ∧
      activeParameter text = (splitTopLevel ',' (argumentText text)).length - 1 := by
  have hpieces : (splitTopLevel ',' (argumentText text)).length =
      countTopLevel ',' (argumentText text) + 1 :=
    length_splitFrom ',' .outermost (argumentText text)
  refine ⟨fun i => lastOpenParen?_eq_some_iff, lastOpenParen?_eq_none_iff, ?_⟩
  rw [hpieces, Nat.add_sub_cancel, activeParameter_eq_count]

/-- Behind an unbalanced text the third argument of the outer call is being written. -/
example : activeParameter "Foo(1, Bar(\"((\", 2), [3" = 2 := by decide

end BlitzLens.Signature
