import BlitzLens.Data.Checked
import Mathlib.Tactic.SplitIfs

/-!
# Reading checked data

Reading yields a value with the properties that were asked for, or at least one problem
(`Checked.Meets`). Each way to read has one lemma about this, so what a reader of a record
guarantees is put together from what the readers of its fields guarantee.
-/

namespace BlitzLens

variable {α β : Type} {P : α → Prop} {Q : β → Prop}

namespace Checked

/-- What was read has a property, or there are problems. -/
def Meets (P : α → Prop) : Checked α → Prop
  | .valid a => P a
  | .invalid problems => problems ≠ []

variable {checked : Checked α}

theorem meets_fault (kind : Fault) : (Checked.fault kind : Checked α).Meets P :=
  List.cons_ne_nil _ _

/-- What has a property has a weaker one. -/
theorem Meets.imp {P' : α → Prop} (h : checked.Meets P) (himp : ∀ a, P a → P' a) :
    checked.Meets P' := by
  cases checked with
  | valid a => exact himp a h
  | invalid problems => exact h

/-- A function that is read turns what its argument has into what its value has. -/
theorem Meets.seq {f : Checked (α → β)} (hf : f.Meets fun g => ∀ a, P a → Q (g a))
    (h : checked.Meets P) : (f <*> checked).Meets Q := by
  cases f with
  | valid g =>
    cases checked with
    | valid a => exact hf a h
    | invalid problems => exact h
  | invalid problems =>
    cases checked with
    | valid a => exact hf
    | invalid others => exact List.append_ne_nil_of_left_ne_nil hf others

theorem Meets.map {g : α → β} (h : checked.Meets P) (hg : ∀ a, P a → Q (g a)) :
    (g <$> checked).Meets Q :=
  Meets.seq (f := pure g) hg h

/-- A test that is required holds of the value. -/
theorem Meets.require {test : α → Bool} {kind : Fault} (h : checked.Meets P) :
    (checked.require test kind).Meets fun a => P a ∧ test a = true := by
  cases checked with
  | valid a =>
    show Meets _ (if test a then .valid a else .fault kind)
    split_ifs with htest
    · exact ⟨h, htest⟩
    · exact meets_fault kind
  | invalid problems => exact h

theorem Meets.under {step : Text} (h : checked.Meets P) : (checked.under step).Meets P := by
  cases checked with
  | valid a => exact h
  | invalid problems => exact fun hnil => h (List.map_eq_nil_iff.1 hnil)

end Checked

namespace Reader

open Checked

variable {reader : Reader α} {value : Value}

theorem meets_text : (Reader.text value).Meets fun _ => True := by
  unfold Reader.text
  split
  · trivial
  · exact meets_fault _

theorem meets_optional (h : ∀ value, (reader value).Meets P) :
    (Reader.optional reader value).Meets fun found => ∀ a ∈ found, P a := by
  unfold Reader.optional
  split
  · intro a ha
    cases ha
  · refine (h value).map fun a ha b hb => ?_
    cases hb
    exact ha

theorem meets_boolOfInt (n : Int) : (boolOfInt n).Meets fun _ => True := by
  unfold boolOfInt
  split_ifs
  · trivial
  · trivial
  · exact meets_fault _
  · exact meets_fault _

theorem meets_intOfFloat (x : Binary64) : (intOfFloat x).Meets fun _ => True := by
  unfold intOfFloat
  split
  · split_ifs
    · trivial
    · exact meets_fault _
  · exact meets_fault _
  · exact meets_fault _

theorem meets_bool : (Reader.bool value).Meets fun _ => True := by
  unfold Reader.bool
  split
  · trivial
  · exact meets_boolOfInt _
  · split
    · exact meets_boolOfInt _
    · exact meets_fault _
  · split
    · trivial
    · exact meets_fault _
  · exact meets_fault _

theorem meets_int : (Reader.int value).Meets fun _ => True := by
  unfold Reader.int
  split
  · trivial
  · trivial
  · exact meets_intOfFloat _
  · split
    · trivial
    · exact meets_fault _
  · exact meets_fault _

theorem meets_items (h : ∀ value, (reader value).Meets P) (index : Nat) (values : List Value) :
    (items reader index values).Meets fun found => ∀ a ∈ found, P a := by
  induction values generalizing index with
  | nil => exact fun a ha => absurd ha List.not_mem_nil
  | cons value values ih =>
    refine Meets.seq ((h value).under.map fun a ha found hfound => ?_) (ih (index + 1))
    exact List.forall_mem_cons.2 ⟨ha, hfound⟩

theorem meets_list (h : ∀ value, (reader value).Meets P) :
    (Reader.list reader value).Meets fun found => ∀ a ∈ found, P a := by
  unfold Reader.list
  split
  · exact meets_items h 0 _
  · exact meets_fault _

/-- A field with a default meets what its reader and the default meet. -/
theorem meets_withDefault {name : Text} {default : α} (h : ∀ value, (reader value).Meets P)
    (hdefault : P default) : (withDefault name reader default value).Meets P := by
  unfold withDefault
  split
  · exact (h _).under
  · exact hdefault

theorem meets_record (h : ∀ value, (reader value).Meets P) : (record reader value).Meets P := by
  unfold record
  split
  · exact h _
  · exact meets_fault _

theorem meets_extraFields (names : List Text) : (extraFields names value).Meets fun _ => True := by
  unfold extraFields
  split
  · split
    · trivial
    · next h => exact fun hnil => h (List.map_eq_nil_iff.1 hnil)
  · trivial

end Reader

end BlitzLens
