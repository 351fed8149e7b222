import BlitzLens.Proofs.Extraction.Order

/-!
# The slots of open loops

The iterator of a loop is inserted late, at a slot that was remembered when the loop was opened. A
list that grows in between is made of items, each with some elements of the list and with a `Mark`,
the place that it is ordered by. `Slotted` says that the slots of all open loops fall between items,
in front of everything that was added since; it follows the stack of loops, so that what an inner
loop inserts is behind the slots of the loops around it.

## Main results

* `Slotted.append`: what is added at the end leaves every slot where it is.
* `Slotted.exists_insert`: the slot of the innermost loop divides the items, and inserting its
  iterator there leaves the slots of the loops around it where they are.
* `Arranged`: the items are ordered by their marks, and the open loops keep their slots. This is
  kept by adding items (`Arranged.append`), by opening a loop (`Arranged.push`) and by closing one
  (`Arranged.tail`, `Arranged.exists_insert`).
-/

namespace BlitzLens

/-! ## Marks -/

/-- The place that an item of a list is ordered by: a line, and for a variable its column. -/
structure Mark where
  /-- The line. -/
  line : Int
  /-- The column of a variable. -/
  column : Option Int
  deriving DecidableEq, Repr

/-- An item may stand in front of another one: its line is not behind that of the other one, and
two variables of one line go from left to right. -/
structure Mark.Precedes (m n : Mark) : Prop where
  /-- The lines do not decrease. -/
  le : m.line ≤ n.line
  /-- The columns of variables increase. -/
  lt : ∀ c ∈ m.column, ∀ d ∈ n.column, m.line = n.line → c < d

namespace Mark.Precedes

variable {m n k : Mark}

/-- An item of an earlier line stands in front. -/
theorem of_lt (h : m.line < n.line) : m.Precedes n :=
  ⟨Int.le_of_lt h, fun _ _ _ _ heq => absurd heq (Int.ne_of_lt h)⟩

/-- An item stands in front of what is no variable, if its line is not behind. -/
theorem of_le (h : m.line ≤ n.line) (hcolumn : n.column = none) : m.Precedes n := by
  refine ⟨h, fun _ _ d hd => ?_⟩
  rw [hcolumn] at hd
  cases hd

/-- What stands in front of a variable stands in front of everything behind the variable. -/
theorem trans {column : Int} (h : m.Precedes n) (h' : n.Precedes k)
    (hcolumn : n.column = some column) : m.Precedes k := by
  have hle := h.le
  have hle' := h'.le
  refine ⟨by omega, fun c hc d hd heq => ?_⟩
  have hfirst := h.lt c hc column hcolumn (by omega)
  have hsecond := h'.lt column hcolumn d hd (by omega)
  omega

end Mark.Precedes

/-- The mark of a variable: where it is declared. -/
def Variable.mark (v : Variable) : Mark :=
  ⟨v.range.startLine, some v.range.startCol⟩

/-- The mark that the iterator of an open loop will have. -/
def OpenIterator.mark (iterator : OpenIterator) : Mark :=
  ⟨iterator.line, some iterator.column⟩

/-- An iterator is marked where its loop was opened, wherever the loop is closed. -/
@[simp]
theorem OpenIterator.mark_close (iterator : OpenIterator) (source : Source) (storage : Storage)
    (last : Nat) : (iterator.close source storage last).mark = iterator.mark :=
  rfl

/-- The variables that one line declares are marked from left to right. -/
theorem pairwise_mark_of_increasing {number : Nat} {added : List Variable}
    (hline : ∀ v ∈ added, v.range.startLine = number)
    (h : added.Pairwise fun v w => v.range.startCol < w.range.startCol) :
    added.Pairwise fun v w => v.mark.Precedes w.mark := by
  refine h.imp_of_mem fun {v w} hv hw hlt => ⟨?_, fun c hc d hd _ => ?_⟩
  · exact Int.le_of_eq ((hline v hv).trans (hline w hw).symm)
  · cases hc
    cases hd
    exact hlt

/-! ## Slots -/

section Items

variable {α β : Type} {mark : β → Mark} {content : β → List α} {items added : List β}
  {loop : OpenLoop} {loops : List OpenLoop} {iterator : OpenIterator} {bound bound' : Nat}

/-- The slots of open loops, innermost first, fall between the items of a list: a loop divides it
into what was there when the loop was opened, where the loops around have their slots, and what was
added since. -/
inductive Slotted (mark : β → Mark) (content : β → List α) : List β → List OpenLoop → Prop
  /-- No loop is open. -/
  | nil (items : List β) : Slotted mark content items []
  /-- A loop without an iterator has no slot. -/
  | skip {items : List β} {loops : List OpenLoop} (h : Slotted mark content items loops) :
      Slotted mark content items (none :: loops)
  /-- The slot of a loop is behind the elements of the items in front. -/
  | slot {front behind : List β} {loops : List OpenLoop} {iterator : OpenIterator}
      (h : Slotted mark content front loops)
      (hslot : iterator.slot = (front.flatMap content).length)
      (hfront : ∀ item ∈ front, (mark item).Precedes iterator.mark)
      (hbehind : ∀ item ∈ behind, iterator.mark.Precedes (mark item))
      (houter : ∀ outer, some outer ∈ loops → outer.mark.Precedes iterator.mark) :
      Slotted mark content (front ++ behind) (some iterator :: loops)

namespace Slotted

/-- Items that are added behind all others leave the slots where they are. -/
theorem append (h : Slotted mark content items loops)
    (hadded : ∀ item ∈ added, ∀ iterator, some iterator ∈ loops →
      iterator.mark.Precedes (mark item)) :
    Slotted mark content (items ++ added) loops := by
  induction h with
  | nil => exact .nil _
  | skip _ ih => exact .skip (ih fun item hitem iterator hmem =>
      hadded item hitem iterator (List.mem_cons_of_mem _ hmem))
  | slot h hslot hfront hbehind houter =>
    -- what the loops around see is in front, and does not change
    rw [List.append_assoc]
    refine .slot h hslot hfront (fun item hitem => ?_) houter
    rcases List.mem_append.1 hitem with hold | hnew
    · exact hbehind item hold
    · exact hadded item hnew _ List.mem_cons_self

/-- The slot of the innermost loop divides the items. When an item with the mark of the iterator is
put there, the slots of the loops around it stay where they are. -/
theorem exists_insert (h : Slotted mark content items (some iterator :: loops)) (new : β) {a : α}
    (hmark : mark new = iterator.mark) (hcontent : content new = [a]) :
    ∃ front behind, items = front ++ behind ∧
      (items.flatMap content).insertIdx iterator.slot a =
        (front ++ new :: behind).flatMap content ∧
      (∀ item ∈ front, (mark item).Precedes (mark new)) ∧
      (∀ item ∈ behind, (mark new).Precedes (mark item)) ∧
      Slotted mark content (front ++ new :: behind) loops := by
  cases h with
  | @slot front behind _ _ h hslot hfront hbehind houter =>
    have hlength : (front.flatMap content).length ≤ ((front ++ behind).flatMap content).length := by
      rw [List.flatMap_append, List.length_append]
      exact Nat.le_add_right _ _
    refine ⟨front, behind, rfl, ?_, hmark ▸ hfront, hmark ▸ hbehind,
      h.append fun item hitem outer hmem => ?_⟩
    · rw [hslot, insertIdx_eq_append a hlength, List.flatMap_append, List.take_left,
        List.drop_left, List.flatMap_append, List.flatMap_cons, hcontent]
      rfl
    · -- the loops around were opened in front of the iterator, and so of all that it stands before
      rcases List.mem_cons.1 hitem with rfl | hbehind'
      · rw [hmark]
        exact houter outer hmem
      · exact (houter outer hmem).trans (hbehind item hbehind') rfl

end Slotted

/-! ## Lists in order -/

/-- The items of a list stand in order in front of a line, and the open loops keep their slots. -/
structure Arranged (mark : β → Mark) (content : β → List α) (bound : Nat) (items : List β)
    (loops : List OpenLoop) : Prop where
  /-- Every item may stand in front of those behind it. -/
  pairwise : items.Pairwise fun item later => (mark item).Precedes (mark later)
  /-- The slots fall between the items. -/
  slotted : Slotted mark content items loops
  /-- The items belong to lines in front of the bound. -/
  line_lt : ∀ item ∈ items, (mark item).line < bound
  /-- The loops were opened in front of the bound. -/
  loop_lt : ∀ iterator, some iterator ∈ loops → iterator.line < bound

namespace Arranged

theorem nil : Arranged mark content bound [] [] :=
  ⟨.nil, .nil [], fun _ => (nomatch ·), fun _ => (nomatch ·)⟩

/-- What is in order in front of a line is so in front of a later one. -/
theorem mono (h : Arranged mark content bound items loops) (hle : bound ≤ bound') :
    Arranged mark content bound' items loops where
  pairwise := h.pairwise
  slotted := h.slotted
  line_lt item hitem := by
    have hlt := h.line_lt item hitem
    omega
  loop_lt iterator hmem := Nat.lt_of_lt_of_le (h.loop_lt iterator hmem) hle

/-- Items that stand behind everything in front of the bound are added. -/
theorem append (h : Arranged mark content bound items loops) (hle : bound ≤ bound')
    (hadded : added.Pairwise fun item later => (mark item).Precedes (mark later))
    (hfirst : ∀ item ∈ added, ∀ m : Mark, m.line < bound → m.Precedes (mark item))
    (hlast : ∀ item ∈ added, (mark item).line < bound') :
    Arranged mark content bound' (items ++ added) loops where
  pairwise := List.pairwise_append.2 ⟨h.pairwise, hadded, fun item hitem later hlater =>
    hfirst later hlater _ (h.line_lt item hitem)⟩
  slotted := h.slotted.append fun item hitem iterator hmem =>
    hfirst item hitem _ (Int.ofNat_lt.2 (h.loop_lt iterator hmem))
  line_lt item hitem := (List.mem_append.1 hitem).elim ((h.mono hle).line_lt item) (hlast item)
  loop_lt := (h.mono hle).loop_lt

/-- A loop is opened on the line of the bound; its slot is behind all items. -/
theorem push (h : Arranged mark content bound items loops)
    (hloop : ∀ iterator, loop = some iterator →
      iterator.line = bound ∧ iterator.slot = (items.flatMap content).length) :
    Arranged mark content (bound + 1) items (loop :: loops) where
  pairwise := h.pairwise
  slotted := by
    cases loop with
    | none => exact .skip h.slotted
    | some iterator =>
      obtain ⟨hline, hslot⟩ := hloop iterator rfl
      rw [← List.append_nil items]
      refine .slot h.slotted hslot (fun item hitem => .of_lt ?_) (fun _ => (nomatch ·))
        fun outer hmem => .of_lt ?_
      · have hlt := h.line_lt item hitem
        rwa [← hline] at hlt
      · have hlt := h.loop_lt outer hmem
        rw [← hline] at hlt
        exact Int.ofNat_lt.2 hlt
  line_lt := (h.mono (Nat.le_succ bound)).line_lt
  loop_lt iterator hmem := by
    rcases List.mem_cons.1 hmem with heq | hold
    · rw [(hloop iterator heq.symm).1]
      exact Nat.lt_succ_self bound
    · exact Nat.lt_succ_of_lt (h.loop_lt iterator hold)

/-- The innermost loop is closed without an iterator. -/
theorem tail (h : Arranged mark content bound items (none :: loops)) :
    Arranged mark content bound items loops where
  pairwise := h.pairwise
  slotted := by
    cases h.slotted with
    | skip hslotted => exact hslotted
  line_lt := h.line_lt
  loop_lt iterator hmem := h.loop_lt iterator (List.mem_cons_of_mem _ hmem)

/-- The innermost loop is closed, and its iterator takes its place among the items. -/
theorem exists_insert (h : Arranged mark content bound items (some iterator :: loops)) (new : β)
    {a : α} (hmark : mark new = iterator.mark) (hcontent : content new = [a]) :
    ∃ front behind, items = front ++ behind ∧
      (items.flatMap content).insertIdx iterator.slot a =
        (front ++ new :: behind).flatMap content ∧
      Arranged mark content bound (front ++ new :: behind) loops := by
  obtain ⟨front, behind, rfl, hinsert, hfront, hbehind, hslotted⟩ :=
    h.slotted.exists_insert new hmark hcontent
  obtain ⟨hpairwiseFront, hpairwiseBehind, hcross⟩ := List.pairwise_append.1 h.pairwise
  refine ⟨front, behind, rfl, hinsert, ?_, hslotted, fun item hitem => ?_, fun outer hmem =>
    h.loop_lt outer (List.mem_cons_of_mem _ hmem)⟩
  · refine List.pairwise_append.2 ⟨hpairwiseFront, List.pairwise_cons.2 ⟨hbehind,
      hpairwiseBehind⟩, fun item hitem later hlater => ?_⟩
    rcases List.mem_cons.1 hlater with rfl | hold
    · exact hfront item hitem
    · exact hcross item hitem later hold
  · simp only [List.mem_append, List.mem_cons] at hitem
    rcases hitem with hold | rfl | hold
    · exact h.line_lt item (List.mem_append_left _ hold)
    · rw [hmark]
      exact Int.ofNat_lt.2 (h.loop_lt iterator List.mem_cons_self)
    · exact h.line_lt item (List.mem_append_right _ hold)

end Arranged

end Items

end BlitzLens
