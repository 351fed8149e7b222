import BlitzLens.Line.Nesting
import BlitzLens.Proofs.Scope.Reading

/-!
# A group behind a word

Behind any word of the expression in front of a field marker there may stand a group: arguments in
parentheses or subscripts in square brackets. The words that the expression is made of should be
the same with the group as without it. The search passes over parentheses only, it counts those in
strings as well, and it passes over one group behind a word at most. So a group that is put in
behind a word changes nothing exactly if it is passed over as a whole and there is none behind the
word yet (`Scope.memberChain?_insert_iff`).

## Main definitions

* `Line.Enclosed`, `Line.IsGroup`: texts that are balanced, with strings that are closed.
* `Line.BalancesBack`: texts that are passed over.
* `Line.insertAt`, `Word.afterInsert`: a text that is put in, and where a word stands then.

## Main results

* `Scope.endBeforeGroup?_eq_zero_iff`: which groups are passed over.
* `Scope.not_balancesBack_square`: those in square brackets never are.
* `Scope.balancesBack_round`: those in parentheses are, if there are no strings in them.
* `Scope.memberChain?_insert_iff`: when a group behind a word changes nothing.
-/

namespace BlitzLens

/-- A text that may stand between brackets: every bracket is closed by one of its kind, every string
is closed as well, and a string may hold anything. -/
inductive Line.Enclosed : Text → Prop
  | nil : Enclosed []
  | char {c : Char} {text : Text} (hc : Nesting.delimits c = false) (htext : Enclosed text) :
      Enclosed (c :: text)
  | string {inside text : Text} (hinside : '"' ∉ inside) (htext : Enclosed text) :
      Enclosed ('"' :: (inside ++ '"' :: text))
  | round {inside text : Text} (hinside : Enclosed inside) (htext : Enclosed text) :
      Enclosed ('(' :: (inside ++ ')' :: text))
  | square {inside text : Text} (hinside : Enclosed inside) (htext : Enclosed text) :
      Enclosed ('[' :: (inside ++ ']' :: text))

/-- A group of arguments or of subscripts. -/
inductive Line.IsGroup : Text → Prop
  | round {inside : Text} (hinside : Enclosed inside) : IsGroup ('(' :: (inside ++ [')']))
  | square {inside : Text} (hinside : Enclosed inside) : IsGroup ('[' :: (inside ++ [']']))

/-- Counted from the back, and with those in strings, the parentheses in a text balance at its first
character and not before. -/
def Line.BalancesBack (text : Text) : Prop :=
  text.count '(' = text.count ')' ∧
    ∀ n < text.length, 0 < n → (text.drop n).count '(' < (text.drop n).count ')'

instance (text : Text) : Decidable (Line.BalancesBack text) :=
  inferInstanceAs (Decidable (_ ∧ _))

/-- A line with a text put in at a column. -/
def Line.insertAt (line : Text) (column : Nat) (group : Text) : Text :=
  line.take column ++ (group ++ line.drop column)

/-- A word on the line once a text of some width has been put in at a column. -/
def Word.afterInsert (column : Int) (width : Nat) (word : Word) : Word :=
  if column ≤ word.start then word.shift width else word

open Line

namespace Scope

variable {inside group text : Text}

/-! ## Passing over a group -/

/-- A closing parenthesis is counted. -/
theorem openingBack?_closing (depth : Nat) (rest : Text) :
    openingBack? depth (')' :: rest) = openingBack? (depth + 1) rest := rfl

/-- An opening parenthesis that is not the last one closes a group. -/
theorem openingBack?_opening {depth : Nat} (hdepth : 0 < depth) (rest : Text) :
    openingBack? (depth + 1) ('(' :: rest) = openingBack? depth rest := by
  rw [openingBack?, if_neg (by decide), if_pos (by decide), if_neg (by simpa using hdepth.ne')]
  rfl

/-- Other characters are not looked at, whatever brackets or quotes they are. -/
theorem openingBack?_other {c : Char} (hclosing : c ≠ ')') (hopening : c ≠ '(') (depth : Nat)
    (rest : Text) : openingBack? depth (c :: rest) = openingBack? depth rest := by
  rw [openingBack?, if_neg (by simpa using hclosing), if_neg (by simpa using hopening)]

/-- Between parentheses, a balanced text without strings is passed over. -/
theorem openingBack?_enclosed (h : Enclosed inside) (hquote : '"' ∉ inside) {depth : Nat}
    (hdepth : 0 < depth) (rest : Text) :
    openingBack? depth (inside.reverse ++ rest) = openingBack? depth rest := by
  induction h generalizing depth rest with
  | nil => rfl
  | @char c text hc htext ih =>
    simp only [Nesting.delimits, Bool.or_eq_false_iff, beq_eq_false_iff_ne] at hc
    obtain ⟨⟨⟨⟨-, hopening⟩, -⟩, hclosing⟩, -⟩ := hc
    rw [List.mem_cons, not_or] at hquote
    rw [List.reverse_cons, List.append_assoc, ih hquote.2 hdepth, List.singleton_append,
      openingBack?_other hclosing hopening]
  | string => exact absurd List.mem_cons_self hquote
  | @round inside text hinside htext ihinside ihtext =>
    simp only [List.mem_cons, List.mem_append, not_or] at hquote
    obtain ⟨-, hin, -, hout⟩ := hquote
    have hreverse : ('(' :: (inside ++ ')' :: text)).reverse ++ rest =
        text.reverse ++ (')' :: (inside.reverse ++ ('(' :: rest))) := by simp
    rw [hreverse, ihtext hout hdepth, openingBack?_closing, ihinside hin (Nat.succ_pos _),
      openingBack?_opening hdepth]
  | @square inside text hinside htext ihinside ihtext =>
    simp only [List.mem_cons, List.mem_append, not_or] at hquote
    obtain ⟨-, hin, -, hout⟩ := hquote
    have hreverse : ('[' :: (inside ++ ']' :: text)).reverse ++ rest =
        text.reverse ++ (']' :: (inside.reverse ++ ('[' :: rest))) := by simp
    rw [hreverse, ihtext hout hdepth, openingBack?_other (by decide) (by decide),
      ihinside hin hdepth, openingBack?_other (by decide) (by decide)]

/-- Behind the closing parenthesis of a group, the one that opens it is searched for. -/
theorem endBeforeGroup?_round (inside : Text) :
    endBeforeGroup? ('(' :: (inside ++ [')'])) = openingBack? 1 ('(' :: inside).reverse := by
  have hlast : ('(' :: (inside ++ [')'])).getLast? = some ')' :=
    List.getLast?_concat (l := '(' :: inside)
  have hreverse : ('(' :: (inside ++ [')'])).reverse = ')' :: ('(' :: inside).reverse := by simp
  rw [endBeforeGroup?, if_pos (by rw [hlast]; rfl), hreverse, openingBack?_closing]

/-- With some groups open, the search ends in front of a text exactly if the parentheses in it close
them there and not before. -/
theorem openingBack?_eq_zero_iff {depth : Nat} (hdepth : 0 < depth) {back : Text} :
    openingBack? depth back = some 0 ↔ back.count '(' = depth + back.count ')' ∧
      ∀ n < back.length, (back.take n).count '(' < depth + (back.take n).count ')' := by
  induction back generalizing depth with
  | nil => simp [openingBack?, hdepth.ne]
  | cons c back ih =>
    -- in front of the first character, the groups are still open
    have hcons : (∀ n < (c :: back).length,
        ((c :: back).take n).count '(' < depth + ((c :: back).take n).count ')') ↔
        ∀ n < back.length,
          (c :: back.take n).count '(' < depth + (c :: back.take n).count ')' := by
      constructor
      · exact fun h n hn => h (n + 1) (Nat.succ_lt_succ hn)
      · intro h n hn
        cases n with
        | zero => simpa using hdepth
        | succ n => exact h n (Nat.lt_of_succ_lt_succ hn)
    rw [hcons]
    by_cases hclosing : c = ')'
    · subst hclosing
      rw [openingBack?_closing, ih (Nat.succ_pos depth)]
      simp only [List.count_cons_self, List.count_cons_of_ne (show ')' ≠ '(' by decide)]
      exact and_congr (by omega) (forall₂_congr fun n _ => by omega)
    by_cases hopening : c = '('
    · subst hopening
      simp only [List.count_cons_self, List.count_cons_of_ne (show '(' ≠ ')' by decide)]
      by_cases hone : depth = 1
      · subst hone
        -- the first group is closed, so nothing may be left
        have hzero : openingBack? 1 ('(' :: back) = some back.length := rfl
        rw [hzero, Option.some.injEq, List.length_eq_zero_iff]
        constructor
        · rintro rfl
          exact ⟨rfl, fun n hn => absurd hn (Nat.not_lt_zero n)⟩
        · rintro ⟨-, hopen⟩
          by_contra hne
          exact absurd (hopen 0 (List.length_pos_iff.2 hne)) (by simp)
      · obtain ⟨d, rfl⟩ : ∃ d, depth = d + 1 := ⟨depth - 1, by omega⟩
        rw [openingBack?_opening (by omega), ih (by omega)]
        exact and_congr (by omega) (forall₂_congr fun n _ => by omega)
    · simp only [List.count_cons_of_ne hclosing, List.count_cons_of_ne hopening]
      rw [openingBack?_other hclosing hopening, ih hdepth]

/-- A text in square brackets is not balanced from the back. -/
theorem not_balancesBack_square (inside : Text) : ¬BalancesBack ('[' :: (inside ++ [']'])) := by
  rintro ⟨-, h⟩
  have hlast := h (inside.length + 1) (by simp) (Nat.succ_pos _)
  rw [List.drop_succ_cons, List.drop_left] at hlast
  exact absurd hlast (by decide)

/-- A group is passed over exactly if its parentheses balance at its first character, counted from
the back. -/
theorem endBeforeGroup?_eq_zero_iff (h : IsGroup group) :
    endBeforeGroup? group = some 0 ↔ BalancesBack group := by
  cases h with
  | @square inside =>
    refine iff_of_false (fun h => ?_) (not_balancesBack_square inside)
    cases (IsPassedOver.mk (List.cons_ne_nil _ _) h).head?_eq
  | @round inside =>
    rw [endBeforeGroup?_round, openingBack?_eq_zero_iff Nat.one_pos, ← List.cons_append]
    generalize '(' :: inside = front
    -- the characters that are passed over make a suffix of the group
    have hopening (text : Text) : (text ++ [')']).count '(' = text.count '(' := by
      simp [List.count_append]
    have hclosing (text : Text) : (text ++ [')']).count ')' = text.count ')' + 1 := by
      simp [List.count_append]
    have hsuffix {n : Nat} (hn : n ≤ front.length) (c : Char) :
        (front.reverse.take (front.length - n)).count c = (front.drop n).count c := by
      rw [List.take_reverse, List.count_reverse, Nat.sub_sub_self hn]
    rw [BalancesBack, hopening, hclosing, List.count_reverse, List.count_reverse,
      List.length_reverse, List.length_append, List.length_singleton]
    refine and_congr (by omega) ⟨fun h n hn hpos => ?_, fun h n hn => ?_⟩
    · have hle : n ≤ front.length := Nat.le_of_lt_succ hn
      have hlt := h (front.length - n) (by omega)
      rw [hsuffix hle, hsuffix hle] at hlt
      rw [List.drop_append_of_le_length hle, hopening, hclosing]
      omega
    · have hlt := h (front.length - n) (by omega) (by omega)
      rw [List.drop_append_of_le_length (Nat.sub_le _ _), hopening, hclosing,
        ← hsuffix (Nat.sub_le _ _), ← hsuffix (Nat.sub_le _ _),
        Nat.sub_sub_self (Nat.le_of_lt hn)] at hlt
      omega

/-- In parentheses, a balanced text without strings is balanced from the back as well. -/
theorem balancesBack_round (h : Enclosed inside) (hquote : '"' ∉ inside) :
    BalancesBack ('(' :: (inside ++ [')'])) := by
  rw [← endBeforeGroup?_eq_zero_iff (.round h), endBeforeGroup?_round, List.reverse_cons,
    openingBack?_enclosed h hquote Nat.one_pos]
  rfl

end Scope

namespace Line.IsGroup

variable {group : Text}

/-- A group starts with a bracket. -/
theorem exists_eq_cons (h : IsGroup group) :
    ∃ c rest, group = c :: rest ∧ isWordChar c = false ∧ isSpaceOrTab c = false := by
  cases h with
  | round => exact ⟨_, _, rfl, by decide, by decide⟩
  | square => exact ⟨_, _, rfl, by decide, by decide⟩

/-- A group ends with a bracket. -/
theorem exists_eq_concat (h : IsGroup group) :
    ∃ init c, group = init ++ [c] ∧ isSpaceOrTab c = false := by
  cases h with
  | @round inside => exact ⟨'(' :: inside, _, rfl, by decide⟩
  | @square inside => exact ⟨'[' :: inside, _, rfl, by decide⟩

/-- No word goes on in a group. -/
theorem startsWord_append (h : IsGroup group) (text : Text) :
    Text.startsWord (group ++ text) = false := by
  obtain ⟨c, rest, rfl, hword, -⟩ := h.exists_eq_cons
  rw [List.cons_append, Text.startsWord_cons, hword]

end Line.IsGroup

namespace Scope

/-! ## Between a word and the marker behind it -/

variable {trail : Text}

/-- A trail that does not start with a blank is a group, and is passed over as a whole. -/
theorem Trail.endBeforeGroup?_eq_zero {c : Char} (h : Trail text) (hfirst : text.head? = some c)
    (hc : isSpaceOrTab c = false) :
    endBeforeGroup? (Text.dropEndWhile isSpaceOrTab text) = some 0 := by
  have hgap {gap : Text} (h : ∀ c ∈ gap, isSpaceOrTab c = true) : gap.head? ≠ some c := by
    intro hhead
    rw [h c (List.mem_of_head? hhead)] at hc
    cases hc
  cases h with
  | gap h => exact absurd hfirst (hgap h)
  | @group front paren back hfront hparen hback =>
    obtain rfl : front = [] := by
      by_contra hne
      rw [List.head?_append_of_ne_nil _ hne] at hfirst
      exact hgap hfront hfirst
    rw [List.nil_append, dropEndWhile_append_gap (by decide) hparen.getLast?_eq hback]
    exact hparen.passes

/-- A group may stand between a word and what is behind it exactly if it is passed over and there is
no other group behind it. -/
theorem trail_group_append_iff (hgroup : IsGroup group) (htrail : Trail trail) :
    Trail (group ++ trail) ↔
      endBeforeGroup? group = some 0 ∧ (trail.dropWhile isSpaceOrTab).head? ≠ some '(' := by
  obtain ⟨c, rest, hcons, -, hblank⟩ := hgroup.exists_eq_cons
  obtain ⟨init, d, hconcat, hblank'⟩ := hgroup.exists_eq_concat
  have hne : group ≠ [] := by simp [hcons]
  have hfirst (trail : Text) : (group ++ trail).head? = some c := by simp [hcons]
  cases htrail with
  | gap hgap =>
    rw [List.dropWhile_eq_nil_iff.2 hgap]
    constructor
    · intro h
      have hlast : group.getLast? = some d := hconcat ▸ List.getLast?_concat
      have hpasses := h.endBeforeGroup?_eq_zero (hfirst _) hblank
      rw [dropEndWhile_append_gap hblank' hlast hgap] at hpasses
      exact ⟨hpasses, nofun⟩
    · rintro ⟨hpasses, -⟩
      rw [← List.nil_append (group ++ trail)]
      exact .group nofun ⟨hne, hpasses⟩ hgap
  | @group gap paren gap' hgap hparen hgap' =>
    refine iff_of_false (fun h => ?_) fun h => h.2 ?_
    · -- the search stops at the group that is there, and the other one is left
      have hpasses := h.endBeforeGroup?_eq_zero (hfirst _) hblank
      have hlast : (group ++ gap ++ paren).getLast? = some ')' := by
        rw [List.getLast?_append_of_ne_nil _ hparen.ne_nil, hparen.getLast?_eq]
      rw [← List.append_assoc, ← List.append_assoc,
        dropEndWhile_append_gap (by decide) hlast hgap', hparen.endBeforeGroup?_append] at hpasses
      have hlength := Option.some.inj hpasses
      rw [List.length_append] at hlength
      exact hne (List.length_eq_zero_iff.1 (by omega))
    · obtain ⟨rest, rfl⟩ : ∃ rest, paren = '(' :: rest :=
        List.head?_eq_some_iff.1 hparen.head?_eq
      rw [List.dropWhile_append_of_pos hgap]
      rfl

/-- A field marker and what is behind it are no part of the trail in front of it. -/
theorem head?_dropWhile_marker (gap rest : Text) :
    ((gap ++ '\\' :: rest).dropWhile isSpaceOrTab).head? ≠ some '(' ↔
      (gap.dropWhile isSpaceOrTab).head? ≠ some '(' := by
  rw [List.dropWhile_append]
  split
  · next hnone =>
    rw [List.isEmpty_iff.1 hnone, List.dropWhile_cons_of_neg (by decide)]
    exact iff_of_true (by simp) nofun
  · next hsome => rw [List.head?_append_of_ne_nil _ (by simpa using hsome)]

/-! ## Putting a group in -/

section Insert

variable {before behind : Text} {column k : Nat}

/-- Behind the end of a word, the word is read if nothing but a trail is in between. -/
theorem readsWord_iff_trail (hbefore : Text.endsWord before = false) (htext : Text.IsWord text)
    (hbehind : Text.startsWord behind = false) :
    ReadsWord (before ++ text ++ behind) ((before ++ text).length + k)
        (.ofText before.length text) ↔ k ≤ behind.length ∧ Trail (behind.take k) := by
  have htake : (before ++ text ++ behind).take ((before ++ text).length + k) =
      before ++ text ++ behind.take k := List.take_length_add_append _
  have hpos := htext.length_pos
  constructor
  · rintro ⟨hinside, caret, start, text', heq, hcaret, hlt, htrail⟩
    obtain rfl : before.length = start := Int.ofNat_inj.1 (congrArg Word.start heq)
    obtain rfl : text = text' := congrArg Word.text heq
    have hle : caret + 1 ≤ (before ++ text).length := by
      rw [List.length_append]
      exact hcaret.lt_stop
    rw [htake, List.drop_append_of_le_length hle] at htrail
    -- the caret is on the last character of the word, for a trail does not go on with the word
    have hlast : (before ++ text).drop (caret + 1) = [] := by
      by_contra hne
      have hword : Text.IsWord ((before ++ text).drop (caret + 1)) := by
        refine ⟨hne, fun c hc => htext.all_word c ?_⟩
        rw [List.drop_append, List.drop_eq_nil_of_le] at hc
        · exact List.mem_of_mem_drop hc
        · exact Nat.le_succ_of_le hcaret.start_le
      have hstarts := htrail.startsWord
      rw [hword.startsWord_append] at hstarts
      cases hstarts
    rw [hlast, List.nil_append] at htrail
    rw [@List.length_append _ (before ++ text)] at hinside
    exact ⟨by omega, htrail⟩
  · rintro ⟨hk, htrail⟩
    refine ⟨?_, (before ++ text).length - 1, before.length, text, rfl, ?_, ?_, ?_⟩
    · rw [@List.length_append _ (before ++ text)]
      omega
    · refine ⟨?_, htext, ?_, ?_⟩
      · rw [List.append_assoc]
        exact .of_append hbefore hbehind
      · rw [List.length_append]
        omega
      · rw [List.length_append]
        omega
    · rw [List.length_append]
      omega
    · rw [htake, Nat.sub_add_cancel (by rw [List.length_append]; omega), List.drop_left]
      exact htrail

/-- A word is read across a group behind it exactly if the group is passed over and there is no
other group behind it. -/
theorem readsWord_insert_iff (hbefore : Text.endsWord before = false) (htext : Text.IsWord text)
    (hbehind : Text.startsWord behind = false) (hgroup : IsGroup group)
    (h : ReadsWord (before ++ text ++ behind) ((before ++ text).length + k)
      (.ofText before.length text)) :
    ReadsWord (before ++ text ++ (group ++ behind)) ((before ++ text).length + k + group.length)
        (.ofText before.length text) ↔
      endBeforeGroup? group = some 0 ∧
        ((behind.take k).dropWhile isSpaceOrTab).head? ≠ some '(' := by
  obtain ⟨hk, htrail⟩ := (readsWord_iff_trail hbefore htext hbehind).1 h
  rw [Nat.add_assoc, Nat.add_comm k, readsWord_iff_trail hbefore htext (hgroup.startsWord_append _),
    List.take_length_add_append, List.length_append, trail_group_append_iff hgroup htrail]
  exact and_iff_right (by omega)

/-- The marker in front of the last word, and everything behind it, stand further to the right when
the text in front of the marker is a longer one. -/
theorem readsChain_shift_concat_iff {front front' : Text} {width : Nat} {word : Word}
    {words : List Word} (hwidth : front'.length = front.length + width)
    (hword : ReadsWord (front ++ '\\' :: behind) column word)
    (hmarker : memberMarker? (front ++ '\\' :: behind) word.start = .ok (some front.length)) :
    ReadsChain (front' ++ '\\' :: behind) (column + width) (words ++ [word.shift width]) ↔
      ReadsChain (front' ++ '\\' :: behind) front'.length words := by
  obtain ⟨hword', hmarker'⟩ := readsWord_shift hwidth hword hmarker
  rw [readsChain_concat_iff, hmarker']
  constructor
  · rintro ⟨-, ⟨-, hnone⟩ | ⟨marker, hfound, hread⟩⟩
    · cases hnone
    · cases hfound
      exact hread
  · exact fun hread => ⟨hword', .inr ⟨_, rfl, hread⟩⟩

/-- Words in front of a column stay where they are when something is put in there. -/
theorem map_afterInsert_of_lt {column : Int} {width : Nat} {words : List Word}
    (h : ∀ word ∈ words, word.start < column) : words.map (Word.afterInsert column width) = words :=
  (List.map_congr_left fun word hword => if_neg (Int.not_le.2 (h word hword))).trans (List.map_id _)

section Chain

variable {words : List Word} (hbefore : Text.endsWord before = false) (htext : Text.IsWord text)
  (hbehind : Text.startsWord behind = false) (hgroup : IsGroup group)

include htext in
/-- The field marker behind one of the words stands behind the end of the word. -/
theorem exists_eq_marker {marker : Nat} {word : Word}
    (hword : ReadsWord (before ++ text ++ behind) column word)
    (hmarker : memberMarker? (before ++ text ++ behind) word.start = .ok (some marker))
    (hrest : ReadsChain (before ++ text ++ behind) marker words)
    (hmem : Word.ofText before.length text ∈ words) :
    ∃ mid rest, behind = mid ++ '\\' :: rest ∧ marker = (before ++ text).length + mid.length := by
  obtain ⟨start, hstart, hlt⟩ := hword.start_lt
  have hinside := hword.inside
  rw [hstart] at hmarker
  obtain ⟨init, gap, htake, hinit, -⟩ := (memberMarker?_eq_some_iff (by omega)).1 hmarker
  have hsplit : before ++ text ++ behind =
      init ++ '\\' :: (gap ++ (before ++ text ++ behind).drop start) := by
    conv_lhs => rw [← List.take_append_drop start (before ++ text ++ behind), htake]
    simp
  rcases List.append_eq_append_iff.1 hsplit with ⟨mid, hmid, hbehind⟩ | ⟨excess, hexcess, hrest'⟩
  · exact ⟨mid, _, hbehind, by rw [← hinit, hmid, List.length_append]⟩
  · cases excess with
    | nil =>
      rw [List.append_nil] at hexcess
      exact ⟨[], _, hrest'.symm, by rw [hexcess, hinit]; rfl⟩
    | cons c excess =>
      -- otherwise the marker would be a part of the word
      obtain rfl := (List.cons.inj hrest').1
      have hle : before.length ≤ init.length := by
        have := hrest.start_lt _ hmem
        rw [Word.ofText_start] at this
        omega
      have hmem : '\\' ∈ text := by
        have := congrArg (List.drop before.length) hexcess
        rw [List.drop_left, List.drop_append_of_le_length hle] at this
        simp [this]
      have hword : isWordChar '\\' = true := htext.all_word _ hmem
      exact absurd hword (by decide)

include hbefore htext hbehind hgroup

/-- Words of which the last one has a group behind it are read as without the group exactly if the
last word is. -/
theorem readsChain_insert_last_iff
    (h : ReadsChain (before ++ text ++ behind) ((before ++ text).length + k)
      (words ++ [Word.ofText before.length text])) :
    ReadsChain (before ++ text ++ (group ++ behind)) ((before ++ text).length + k + group.length)
        ((words ++ [Word.ofText before.length text]).map
          (Word.afterInsert (before ++ text).length group.length)) ↔
      endBeforeGroup? group = some 0 ∧
        ((behind.take k).dropWhile isSpaceOrTab).head? ≠ some '(' := by
  have hlength : before.length < (before ++ text).length := by
    have := htext.length_pos
    rw [List.length_append]
    omega
  have hgroup' := hgroup.startsWord_append behind
  obtain ⟨hword, hrest⟩ := readsChain_concat_iff.1 h
  have hmarker : memberMarker? (before ++ text ++ behind) (Word.ofText before.length text).start =
      memberMarker? (before ++ text ++ (group ++ behind))
        (Word.ofText before.length text).start :=
    memberMarker?_congr (Nat.le_of_lt hlength)
  have hlt (word : Word) (hmem : word ∈ words ++ [Word.ofText before.length text]) :
      word.start < (before ++ text).length := by
    rcases List.mem_append.1 hmem with hmem | hmem
    · rcases hrest with ⟨rfl, -⟩ | ⟨marker, hfound, hrest⟩
      · cases hmem
      · have := hrest.start_lt word hmem
        have := hword.marker_le hfound
        rw [Word.ofText_start] at this
        omega
    · rw [List.mem_singleton.1 hmem]
      exact Int.ofNat_lt.2 hlength
  rw [map_afterInsert_of_lt hlt, readsChain_concat_iff, ← hmarker, and_iff_left]
  · exact readsWord_insert_iff hbefore htext hbehind hgroup hword
  · -- the words in front of the last one are read as they are without the group
    refine hrest.imp_right fun ⟨marker, hfound, hrest⟩ => ⟨marker, hfound, ?_⟩
    have hle := hword.marker_le hfound
    rw [Word.ofText_start] at hle
    exact hrest.congr hbehind hgroup' (by omega)

/-- Words of which one has a group behind it are read as without the group exactly if that word
is. -/
theorem readsChain_insert_iff
    (h : ReadsChain (before ++ text ++ behind) ((before ++ text).length + k) words)
    (hmem : Word.ofText before.length text ∈ words) :
    ReadsChain (before ++ text ++ (group ++ behind)) ((before ++ text).length + k + group.length)
        (words.map (Word.afterInsert (before ++ text).length group.length)) ↔
      endBeforeGroup? group = some 0 ∧
        ((behind.take k).dropWhile isSpaceOrTab).head? ≠ some '(' := by
  generalize hcolumn : (before ++ text).length + k = column at h
  generalize hline : before ++ text ++ behind = line at h
  -- the marker behind the word splits the words, and all that is behind it moves as one
  induction h generalizing k with
  | last hword hmarker =>
    subst hcolumn hline
    obtain rfl := List.mem_singleton.1 hmem
    have h := ReadsChain.last hword hmarker
    rw [← List.nil_append [Word.ofText before.length text]] at h ⊢
    exact readsChain_insert_last_iff hbefore htext hbehind hgroup h
  | @step column marker word words hword hmarker hrest ih =>
    subst hcolumn hline
    by_cases hlast : word = .ofText before.length text
    · subst hlast
      exact readsChain_insert_last_iff hbefore htext hbehind hgroup (.step hword hmarker hrest)
    · have hmem : Word.ofText before.length text ∈ words := by
        rcases List.mem_append.1 hmem with hmem | hmem
        · exact hmem
        · exact absurd (List.mem_singleton.1 hmem).symm hlast
      obtain ⟨mid, rest, rfl, rfl⟩ := exists_eq_marker htext hword hmarker hrest hmem
      have hlt := hword.marker_lt hmarker
      obtain ⟨j, rfl⟩ := Nat.exists_eq_add_of_lt (Nat.lt_of_add_lt_add_left hlt)
      have hle := hword.marker_le hmarker
      have hmoved : Word.afterInsert (before ++ text).length group.length word =
          word.shift group.length := if_pos (by omega)
      have hline (front : Text) : before ++ text ++ (front ++ '\\' :: rest) =
          before ++ text ++ front ++ '\\' :: rest := by simp
      have hline' : before ++ text ++ (group ++ (mid ++ '\\' :: rest)) =
          before ++ text ++ (group ++ mid) ++ '\\' :: rest := by simp
      have hfront : (before ++ text ++ (group ++ mid)).length =
          (before ++ text ++ mid).length + group.length := by
        simp only [List.length_append]
        omega
      rw [hline] at hword
      rw [hline, ← List.length_append] at hmarker
      rw [List.map_append, List.map_singleton, hmoved, hline',
        readsChain_shift_concat_iff hfront hword hmarker, ← hline', hfront,
        @List.length_append _ (before ++ text), ih hmem rfl, List.take_left, Nat.add_assoc,
        List.take_length_add_append, List.take_succ_cons, head?_dropWhile_marker]

end Chain

end Insert

variable {line : Text} {words : List Word} {word : Word}

/-- A group that is put in behind a word of an expression leaves the words of the expression as they
are exactly if it is passed over as a whole and no other group in parentheses stands behind the
word. -/
theorem memberChain?_insert_iff {marker : Nat}
    (h : memberChain? line (marker : Int) = .ok (some words)) (hword : word ∈ words)
    (hgroup : IsGroup group) :
    memberChain? (insertAt line word.stop.toNat group)
        (if (marker : Int) < word.stop then marker else marker + group.length) =
      .ok (some (words.map (Word.afterInsert word.stop group.length))) ↔
    (word.stop ≤ marker → BalancesBack group ∧
      (((line.take marker).drop word.stop.toNat).dropWhile isSpaceOrTab).head? ≠ some '(') := by
  have hread := memberChain?_eq_ok_iff.1 h
  obtain ⟨place, hplace, hreads⟩ := hread.exists_readsWord word hword
  obtain ⟨caret, start, text, rfl, hcaret, hlt, -⟩ := hreads.caret
  obtain ⟨before, behind, rfl, rfl, hbefore, hbehind⟩ := hcaret.exists_append
  rw [← List.append_assoc] at hread ⊢
  have hstop : (Word.ofText before.length text).stop = ((before ++ text).length : Nat) := by
    rw [Word.ofText_stop, List.length_append]
  have hinsert : insertAt (before ++ text ++ behind) (before ++ text).length group =
      before ++ text ++ (group ++ behind) := by
    rw [insertAt, List.take_left, List.drop_left]
  rw [hstop, Int.toNat_natCast, hinsert]
  by_cases hmarker : marker < (before ++ text).length
  · -- the group stands behind the marker
    have hmoved : words.map (Word.afterInsert (before ++ text).length group.length) = words := by
      refine map_afterInsert_of_lt fun word hword => ?_
      have := hread.start_lt word hword
      omega
    rw [if_pos (Int.ofNat_lt.2 hmarker), hmoved, memberChain?_eq_ok_iff]
    refine iff_of_true ?_ fun hle => absurd hmarker (Nat.not_lt.2 (Int.ofNat_le.1 hle))
    exact hread.congr hbehind (hgroup.startsWord_append _) (Nat.le_of_lt hmarker)
  · obtain ⟨k, rfl⟩ := Nat.exists_eq_add_of_le (Nat.le_of_not_lt hmarker)
    have hstop : (((before ++ text).length : Nat) : Int) ≤ ((before ++ text).length + k : Nat) :=
      Int.ofNat_le.2 (Nat.le_add_right _ _)
    rw [if_neg (Int.not_lt.2 hstop), ← Int.natCast_add, memberChain?_eq_ok_iff,
      readsChain_insert_iff hbefore hcaret.isWord hbehind hgroup hread hword,
      endBeforeGroup?_eq_zero_iff hgroup, List.take_length_add_append, List.drop_left]
    exact ⟨fun hgroup _ => hgroup, fun hgroup => hgroup hstop⟩

/-- A call behind the first word leaves both words as they are. -/
theorem memberChain?_insert_call :
    memberChain? "a\\b\\".toList 3 = .ok (some [⟨0, 1, "a"⟩, ⟨2, 3, "b"⟩]) ∧
      IsGroup "(1, f(2))".toList ∧ BalancesBack "(1, f(2))".toList ∧
      memberChain? "a(1, f(2))\\b\\".toList 12 = .ok (some [⟨0, 1, "a"⟩, ⟨11, 12, "b"⟩]) := by
  have hchain : memberChain? "a\\b\\".toList (3 : Nat) =
      .ok (some [⟨0, 1, "a"⟩, ⟨2, 3, "b"⟩]) := by
    decide +kernel
  have hinside : Enclosed ['1', ',', ' ', 'f', '(', '2', ')'] :=
    .char rfl (.char rfl (.char rfl (.char rfl (.round (.char rfl .nil) .nil))))
  have hgroup : IsGroup "(1, f(2))".toList := .round hinside
  refine ⟨hchain, hgroup, by decide +kernel, ?_⟩
  exact (memberChain?_insert_iff hchain List.mem_cons_self hgroup).2 (by decide +kernel)

/-- A subscript in square brackets hides the word in front of it. -/
theorem memberChain?_insert_subscript :
    memberChain? "a\\b".toList 1 = .ok (some [⟨0, 1, "a"⟩]) ∧ IsGroup "[1]".toList ∧
      insertAt "a\\b".toList 1 "[1]".toList = "a[1]\\b".toList ∧
      memberChain? "a[1]\\b".toList 4 = .ok none := by
  refine ⟨by decide +kernel, ?_, by decide +kernel, by decide +kernel⟩
  have hinside : Enclosed ['1'] := .char rfl .nil
  exact .square hinside

end Scope

end BlitzLens
