import BlitzLens.Data.Toml.Document
import Mathlib.Data.List.Infix
import Mathlib.Tactic.SplitIfs

/-!
# Long numbers in settings files

A document is read from front to back: what a reader leaves is the end of what it was given. So a
whole number on which the reading stops, for it has more digits than a number may have, stands in
the document, and a document with fewer digits than that is read to its end or is not well formed
(`Toml.digits_of_longNumber`).

## Main definitions

* `Toml.Leaves`: what a parser leaves is the end of what it is given.
* `Toml.Within`: the same for what a decoder yields, which besides stops on a long number only
  where there are enough digits.

## Main results

* `Toml.within_nested`: values, lists and tables on one line, which are nested in each other.
* `Toml.digits_of_longNumber`: documents.
-/

namespace BlitzLens.Toml

variable {α β : Type} {text ending rest : Text} {fuel : Nat}

/-! ## What is left -/

/-- If something was found, an end of `text` is left. -/
def EndsIn (text : Text) : Option (α × Text) → Prop
  | some (_, rest) => rest <:+ text
  | none => True

/-- What a parser leaves is the end of what it is given. -/
def Leaves (parser : Parser α) : Prop :=
  ∀ text, EndsIn text (parser text)

namespace EndsIn

variable {found : Option (α × Text)}

theorem suffix {a : α} (h : EndsIn text found) (hfound : found = some (a, rest)) :
    rest <:+ text := by
  rw [hfound] at h
  exact h

/-- What is read of the end of a text is read of the text. -/
theorem mono (h : EndsIn ending found) (hending : ending <:+ text) : EndsIn text found :=
  match found, h with
  | none, _ => trivial
  | some _, h => List.IsSuffix.trans h hending

/-- Reading goes on at what was left. -/
theorem bind {next : α × Text → Option (β × Text)} (h : EndsIn text found)
    (hnext : ∀ a rest, rest <:+ text → EndsIn text (next (a, rest))) :
    EndsIn text (found.bind next) :=
  match found, h with
  | none, _ => trivial
  | some (a, rest), h => hnext a rest h

/-- What is made of something that was read leaves what was left. -/
theorem map {f : α → β} (h : EndsIn text found) :
    EndsIn text (found.map fun read => (f read.1, read.2)) :=
  match found, h with
  | none, _ => trivial
  | some _, h => h

/-- Reading goes on where something else is known. -/
theorem bind_of_some {known : Option β} {next : β → Option (α × Text)}
    (hnext : ∀ b, EndsIn text (next b)) : EndsIn text (known.bind next) :=
  match known with
  | none => trivial
  | some b => hnext b

end EndsIn

/-! ## Gaps and comments -/

theorem skipGaps_suffix (text : Text) : skipGaps text <:+ text :=
  List.dropWhile_suffix _

/-- Behind a comment stands the end of the text. -/
theorem skipComment?_suffix (h : skipComment? text = some rest) : rest <:+ text := by
  unfold skipComment? at h
  split at h
  · split_ifs at h
    cases h
    exact (List.dropWhile_suffix _).trans (List.suffix_cons _ _)
  · cases h
    exact List.suffix_rfl

/-- Behind gaps, line feeds and comments stands the end of the text. -/
theorem skipLines?_suffix (h : skipLines? fuel text = some rest) : rest <:+ text := by
  induction fuel generalizing text with
  | zero =>
    cases h
    exact List.suffix_rfl
  | succ fuel ih =>
    rw [skipLines?] at h
    have hdrop : (text.dropWhile fun c => isGap c || c == '\n') <:+ text :=
      List.dropWhile_suffix _
    split at h
    · next heq =>
      rw [heq] at hdrop
      obtain ⟨behind, hbehind, h⟩ := Option.bind_eq_some_iff.1 h
      exact ((ih h).trans (skipComment?_suffix hbehind)).trans hdrop
    · cases h
      exact hdrop

/-! ## Texts and keys -/

theorem leaves_hexChar (count : Nat) : Leaves (hexChar count) := by
  intro text
  unfold hexChar
  dsimp only
  split_ifs
  · trivial
  · refine EndsIn.bind_of_some fun code => EndsIn.bind_of_some fun c => ?_
    exact List.drop_suffix _ _

theorem leaves_escape (several : Bool) : Leaves (escape several) := by
  intro text
  cases text with
  | nil => trivial
  | cons c text =>
    have htail : text <:+ c :: text := List.suffix_cons _ _
    rw [escape]
    split_ifs
    · -- the end of a line is passed over, and the blanks in front of the next word
      have hdrop : ((c :: text).dropWhile isGap) <:+ c :: text := List.dropWhile_suffix _
      split
      · exact List.nil_suffix
      · next heq =>
        rw [heq] at hdrop
        exact ((List.dropWhile_suffix _).trans (List.suffix_cons _ _)).trans hdrop
      · trivial
    · exact ((leaves_hexChar 4 text).mono htail).map (f := fun c => [c])
    · exact ((leaves_hexChar 8 text).mono htail).map (f := fun c => [c])
    · cases escape? c with
      | none => trivial
      | some d => exact htail

theorem leaves_basicText (several : Bool) (fuel : Nat) : Leaves (basicText several fuel) := by
  induction fuel with
  | zero => exact fun text => trivial
  | succ fuel ih =>
    intro text
    cases text with
    | nil => trivial
    | cons c text =>
      have htail : text <:+ c :: text := List.suffix_cons _ _
      have hrest := (ih text).mono htail
      rw [basicText.eq_def]
      dsimp only
      split_ifs
      · exact htail
      · -- three quotes close a text over several lines, a single one belongs to it
        split
        · exact ((List.suffix_cons _ _).trans (List.suffix_cons _ _)).trans htail
        · exact hrest.map
      · refine ((leaves_escape several text).mono htail).bind fun escaped rest h => ?_
        exact ((ih rest).mono h).bind fun t rest h => h
      · trivial
      · exact hrest.map

theorem leaves_literalText : Leaves literalText := by
  intro text
  unfold literalText
  dsimp only
  split_ifs
  · trivial
  · split
    · trivial
    · next heq => exact (List.suffix_cons _ _).trans (heq ▸ List.drop_suffix _ _)

theorem leaves_literalLines : Leaves literalLines := by
  intro text
  induction text with
  | nil => trivial
  | cons c text ih =>
    have htail : text <:+ c :: text := List.suffix_cons _ _
    rw [literalLines.eq_def]
    dsimp only
    split
    · exact ((List.suffix_cons _ _).trans (List.suffix_cons _ _)).trans htail
    · split_ifs
      · trivial
      · exact (ih.mono htail).map

theorem dropLineFeed_suffix (text : Text) : dropLineFeed text <:+ text := by
  unfold dropLineFeed
  split
  · exact List.suffix_cons _ _
  · exact List.suffix_rfl

/-- Up to two more quotes are taken from what a text in three quotes leaves. -/
theorem EndsIn.extraQuotes {found : Option (Text × Text)} (quote : Char) (h : EndsIn text found) :
    EndsIn text (found.map fun read => Toml.extraQuotes quote read.1 read.2) :=
  match found, h with
  | none, _ => trivial
  | some _, h => (List.drop_suffix _ _).trans h

theorem leaves_quotedText : Leaves quotedText := by
  intro text
  have hfeed (a b c : Char) (text : Text) : dropLineFeed text <:+ a :: b :: c :: text :=
    (dropLineFeed_suffix text).trans ⟨[a, b, c], rfl⟩
  unfold quotedText
  split
  · exact ((leaves_basicText _ _ _).mono (hfeed ..)).extraQuotes '"'
  · exact (leaves_basicText _ _ _).mono (List.suffix_cons _ _)
  · exact ((leaves_literalLines _).mono (hfeed ..)).extraQuotes '\x27'
  · exact (leaves_literalText _).mono (List.suffix_cons _ _)
  · trivial

theorem leaves_keyName : Leaves keyName := by
  intro text
  cases text with
  | nil => trivial
  | cons c text =>
    have htail : text <:+ c :: text := List.suffix_cons _ _
    rw [keyName]
    split_ifs
    · exact (List.dropWhile_suffix _).trans htail
    · exact (leaves_basicText _ _ _).mono htail
    · exact (leaves_literalText _).mono htail
    · trivial

theorem leaves_key (fuel : Nat) : Leaves (key fuel) := by
  induction fuel with
  | zero => exact fun text => trivial
  | succ fuel ih =>
    intro text
    rw [key]
    refine (leaves_keyName text).bind fun name rest h => ?_
    have hgaps := (skipGaps_suffix rest).trans h
    dsimp only
    split
    · next heq =>
      rw [heq] at hgaps
      have hnext := ((skipGaps_suffix _).trans (List.suffix_cons _ _)).trans hgaps
      exact ((ih _).mono hnext).bind fun names rest h => h
    · exact hgaps

/-! ## Numbers and moments -/

/-- Digits come from the text, and behind them stands its end. -/
theorem digitRun_spec (isDigit : Char → Bool) (text : Text) :
    (digitRun isDigit text).2 <:+ text ∧
      (digitRun isDigit text).1.length ≤ text.countP isDigit := by
  -- an underscore is passed over together with the digit behind it
  induction hlength : text.length using Nat.strongRecOn generalizing text with
  | ind length ih =>
    cases text with
    | nil => exact ⟨List.suffix_rfl, Nat.le_refl _⟩
    | cons c text =>
      rw [List.length_cons] at hlength
      rw [digitRun.eq_def]
      dsimp only
      split_ifs with hc
      · obtain ⟨hrest, hfound⟩ := ih text.length (by omega) text rfl
        rw [List.countP_cons_of_pos hc]
        exact ⟨hrest.trans (List.suffix_cons _ _), Nat.succ_le_succ hfound⟩
      · rw [List.countP_cons_of_neg hc]
        split
        · next d text =>
          rw [List.length_cons] at hlength
          split_ifs with hd
          · obtain ⟨hrest, hfound⟩ := ih text.length (by omega) text rfl
            rw [List.countP_cons_of_pos hd]
            exact ⟨(hrest.trans (List.suffix_cons _ _)).trans (List.suffix_cons _ _),
              Nat.succ_le_succ hfound⟩
          · exact ⟨List.suffix_rfl, Nat.zero_le _⟩
        · exact ⟨List.suffix_rfl, Nat.zero_le _⟩

theorem digits_spec (isDigit : Char → Bool) (text : Text) :
    (digits isDigit text).2 <:+ text ∧
      (digits isDigit text).1.length ≤ text.countP isDigit := by
  unfold digits
  split
  · exact ⟨List.suffix_rfl, Nat.zero_le _⟩
  · split_ifs
    · exact digitRun_spec isDigit _
    · exact ⟨List.suffix_rfl, Nat.zero_le _⟩

theorem leaves_basedDigits (base : Nat) (isDigit : Char → Bool) :
    Leaves (basedDigits base isDigit) := by
  intro text
  have hrest := (digits_spec isDigit text).1
  unfold basedDigits
  split
  · trivial
  · next heq =>
    rw [heq] at hrest
    exact hrest

theorem leaves_basedNumber : Leaves basedNumber := by
  intro text
  unfold basedNumber
  split
  · exact (leaves_basedDigits _ _ _).mono ⟨['0', 'x'], rfl⟩
  · exact (leaves_basedDigits _ _ _).mono ⟨['0', 'o'], rfl⟩
  · exact (leaves_basedDigits _ _ _).mono ⟨['0', 'b'], rfl⟩
  · trivial

theorem sign_suffix (text : Text) : (sign text).2 <:+ text := by
  unfold sign
  split
  · exact List.suffix_cons _ _
  · exact List.suffix_cons _ _
  · exact List.suffix_rfl

theorem leaves_specialNumber : Leaves specialNumber := by
  intro text
  have hsign := sign_suffix text
  unfold specialNumber
  dsimp only
  split
  · next heq => exact List.IsSuffix.trans ⟨['i', 'n', 'f'], heq.symm⟩ hsign
  · next heq => exact List.IsSuffix.trans ⟨['n', 'a', 'n'], heq.symm⟩ hsign
  · trivial

/-- Behind marked digits, which may be missing, stands the end of the text. -/
theorem markedDigits_suffix (isMark : Char → Bool) (signed : Bool) (text : Text) :
    ((markedDigits isMark signed text).map fun found => found.2.2).getD text <:+ text := by
  cases hfound : markedDigits isMark signed text with
  | none => exact List.suffix_rfl
  | some found =>
    obtain ⟨negative, found, rest⟩ := found
    show rest <:+ text
    cases text with
    | nil => cases hfound
    | cons c text =>
      have hsign : (if signed then sign text else (false, text)).2 <:+ text := by
        split_ifs
        · exact sign_suffix text
        · exact List.suffix_rfl
      rw [markedDigits] at hfound
      dsimp only at hfound
      generalize (if signed then sign text else (false, text)) = signed at hsign hfound
      have hrest := (digits_spec Char.isDigit signed.2).1
      split_ifs at hfound
      split at hfound
      · cases hfound
      · next heq =>
        rw [heq] at hrest
        cases hfound
        exact (hrest.trans hsign).trans (List.suffix_cons _ _)

theorem wholeDigits_spec (text : Text) :
    (wholeDigits text).2 <:+ text ∧ (wholeDigits text).1.length ≤ text.countP Char.isDigit := by
  unfold wholeDigits
  split
  · next rest =>
    refine ⟨List.suffix_cons _ _, ?_⟩
    rw [List.countP_cons_of_pos (by decide)]
    exact Nat.succ_le_succ (Nat.zero_le _)
  · exact digits_spec Char.isDigit text

theorem leaves_fixedNumber (count : Nat) : Leaves (fixedNumber count) := by
  intro text
  unfold fixedNumber
  dsimp only
  split_ifs
  · exact List.drop_suffix _ _
  · trivial

theorem leaves_mark (c : Char) : Leaves (mark c) := by
  intro text
  cases text with
  | nil => trivial
  | cons d text =>
    rw [mark]
    split_ifs
    · exact List.suffix_cons _ _
    · trivial

theorem leaves_timeOfDay : Leaves timeOfDay := by
  intro text
  refine (leaves_fixedNumber 2 text).bind fun hour rest h => ?_
  refine ((leaves_mark ':' rest).mono h).bind fun _ rest h => ?_
  refine ((leaves_fixedNumber 2 rest).mono h).bind fun minute rest h => ?_
  refine ((leaves_mark ':' rest).mono h).bind fun _ rest h => ?_
  refine ((leaves_fixedNumber 2 rest).mono h).bind fun second rest h => ?_
  dsimp only
  split_ifs
  · trivial
  · -- a fraction of the second may follow
    split
    · split_ifs
      · exact ((List.dropWhile_suffix _).trans ⟨['.', _], rfl⟩).trans h
      · exact h
    · exact h

theorem skipZone_suffix (text : Text) : skipZone text <:+ text := by
  have hzone (c : Char) (rest : Text) : (skipZone.zone rest).getD (c :: rest) <:+ c :: rest := by
    cases hzone : skipZone.zone rest with
    | none => exact List.suffix_rfl
    | some behind =>
      unfold skipZone.zone at hzone
      obtain ⟨⟨hour, rest₁⟩, h₁, h⟩ := Option.bind_eq_some_iff.1 hzone
      obtain ⟨⟨_, rest₂⟩, h₂, h⟩ := Option.bind_eq_some_iff.1 h
      obtain ⟨⟨minute, rest₃⟩, h₃, h⟩ := Option.bind_eq_some_iff.1 h
      dsimp only at h
      split_ifs at h
      cases h
      have hhour := (leaves_fixedNumber 2 rest).suffix h₁
      have hminute := ((leaves_fixedNumber 2 rest₂).suffix h₃).trans
        ((leaves_mark ':' rest₁).suffix h₂)
      exact (hminute.trans hhour).trans (List.suffix_cons _ _)
  unfold skipZone
  split
  · exact List.suffix_cons _ _
  · exact List.suffix_cons _ _
  · exact hzone '+' _
  · exact hzone '-' _
  · exact List.suffix_rfl

theorem leaves_date : Leaves date := by
  intro text
  refine (leaves_fixedNumber 4 text).bind fun year rest h => ?_
  refine ((leaves_mark '-' rest).mono h).bind fun _ rest h => ?_
  refine ((leaves_fixedNumber 2 rest).mono h).bind fun month rest h => ?_
  refine ((leaves_mark '-' rest).mono h).bind fun _ rest h => ?_
  refine ((leaves_fixedNumber 2 rest).mono h).bind fun day rest h => ?_
  dsimp only
  split_ifs
  · trivial
  · exact h

theorem skipTime_suffix (text : Text) : skipTime text <:+ text := by
  unfold skipTime
  split
  · exact List.suffix_rfl
  · split_ifs
    · split
      · next h =>
        exact ((skipZone_suffix _).trans ((leaves_timeOfDay _).suffix h)).trans
          (List.suffix_cons _ _)
      · exact List.suffix_rfl
    · exact List.suffix_rfl

theorem leaves_truth : Leaves truth := by
  intro text
  have hword (word : String) (b : Bool) :
      EndsIn text ((Text.dropLead? word text).map fun rest => (Value.bool b, rest)) := by
    unfold Text.dropLead?
    split_ifs
    · exact List.drop_suffix _ _
    · trivial
  unfold truth
  cases htrue : Text.dropLead? "true" text with
  | none => exact hword "false" false
  | some behind =>
    have hbehind := hword "true" true
    rw [htrue] at hbehind
    exact hbehind

/-! ## Numbers with too many digits -/

/-- What reading `text` may come to: the end of it is left, or a number is too long that has its
digits in it. -/
def Within (text : Text) : Except Fault (α × Text) → Prop
  | .ok (_, rest) => rest <:+ text
  | .error .longNumber => mostDigits < text.countP Char.isDigit
  | .error .malformed => True

namespace Within

variable {result : Except Fault (α × Text)}

/-- What reading the end of a text comes to, reading the text may come to. -/
theorem mono (h : Within ending result) (hending : ending <:+ text) : Within text result :=
  match result, h with
  | .ok _, h => List.IsSuffix.trans h hending
  | .error .longNumber, h => Nat.lt_of_lt_of_le h hending.sublist.countP_le
  | .error .malformed, _ => trivial

/-- Reading goes on at what was left. -/
theorem bind {next : α × Text → Except Fault (β × Text)} (h : Within text result)
    (hnext : ∀ a rest, rest <:+ text → Within text (next (a, rest))) :
    Within text (result >>= next) :=
  match result, h with
  | .ok (a, rest), h => hnext a rest h
  | .error .longNumber, h => h
  | .error .malformed, _ => trivial

end Within

/-- A parser is no decoder that stops on a long number. -/
theorem EndsIn.required {found : Option (α × Text)} (h : EndsIn text found) :
    Within text (Toml.required found) :=
  match found, h with
  | none, _ => trivial
  | some _, h => h

/-- Reading goes on with what has to be there. -/
theorem within_required_bind {found : Option α} {next : α → Except Fault (β × Text)}
    (hnext : ∀ a, found = some a → Within text (next a)) :
    Within text (required found >>= next) := by
  cases found with
  | none => trivial
  | some a => exact hnext a rfl

/-- A decimal number is the one place where too many digits stop the reading. -/
theorem within_decimalNumber (text : Text) : Within text (decimalNumber text) := by
  have hsign := sign_suffix text
  obtain ⟨hwhole, hfound⟩ := wholeDigits_spec (sign text).2
  have hfraction := ((markedDigits_suffix (· == '.') false _).trans hwhole).trans hsign
  have hexponent := (markedDigits_suffix (fun c => c == 'e' || c == 'E') true _).trans hfraction
  unfold decimalNumber
  dsimp only
  split
  · trivial
  · split
    · split
      · next hlong => exact Nat.lt_of_lt_of_le hlong (Nat.le_trans hfound hsign.sublist.countP_le)
      · exact hexponent
    · exact hexponent

theorem within_scalar (text : Text) : Within text (scalar text) := by
  unfold scalar
  split
  · next h => exact (skipTime_suffix _).trans ((leaves_date text).suffix h)
  · trivial
  · split
    · next h => exact (leaves_timeOfDay text).suffix h
    · split
      · next found h =>
        cases hbased : basedNumber text with
        | none =>
          rw [hbased] at h
          exact (leaves_specialNumber text).suffix h
        | some based =>
          rw [hbased] at h
          cases h
          exact (leaves_basedNumber text).suffix hbased
      · exact within_decimalNumber text

/-! ## Values -/

section Nested

variable (hvalue : ∀ text, Within text (value fuel text))
  (hitems : ∀ text, Within text (items fuel text))
  (hpairs : ∀ state text, Within text (pairs fuel state text))

include hitems hpairs in
/-- A list, a table on one line, a text, a truth value, or anything else. -/
theorem within_value_succ (text : Text) : Within text (value (fuel + 1) text) := by
  rw [value.eq_def]
  dsimp only
  split
  · next rest =>
    refine within_required_bind fun behind hbehind => ?_
    have hopen := (skipLines?_suffix hbehind).trans (List.suffix_cons '[' rest)
    exact ((hitems behind).mono hopen).bind fun found rest h => h
  · next rest =>
    have hgaps := (skipGaps_suffix rest).trans (List.suffix_cons '{' rest)
    split
    · next heq =>
      rw [heq] at hgaps
      exact (List.suffix_cons _ _).trans hgaps
    · exact ((hpairs ([], []) _).mono hgaps).bind fun found rest h => h
  · split
    · next h => exact (leaves_quotedText text).suffix h
    · split
      · next h => exact (leaves_truth text).suffix h
      · exact within_scalar text

include hvalue hitems in
/-- The end of a list, or an item and then the end or a comma and more items. -/
theorem within_items_succ (text : Text) : Within text (items (fuel + 1) text) := by
  rw [items.eq_def]
  dsimp only
  split
  · exact List.suffix_cons _ _
  · refine (hvalue text).bind fun item rest h => ?_
    refine within_required_bind fun behind hbehind => ?_
    have hbehind := (skipLines?_suffix hbehind).trans h
    split
    · exact (List.suffix_cons _ _).trans hbehind
    · refine within_required_bind fun next hnext => ?_
      have hnext := ((skipLines?_suffix hnext).trans (List.suffix_cons _ _)).trans hbehind
      exact ((hitems next).mono hnext).bind fun found rest h => h
    · trivial

include hvalue hpairs in
/-- A pair, and then the end of a table or a comma and more pairs. -/
theorem within_pairs_succ (state : Fields × Marks) (text : Text) :
    Within text (pairs (fuel + 1) state text) := by
  rw [pairs.eq_def]
  dsimp only
  refine (leaves_key _ text).required.bind fun name rest h => ?_
  refine ((leaves_mark '=' rest).mono h).required.bind fun _ rest h => ?_
  refine ((hvalue _).mono ((skipGaps_suffix rest).trans h)).bind fun found rest h => ?_
  refine within_required_bind fun state _ => ?_
  have hgaps := (skipGaps_suffix rest).trans h
  split
  · next heq =>
    rw [heq] at hgaps
    exact (List.suffix_cons _ _).trans hgaps
  · next heq =>
    rw [heq] at hgaps
    have hnext := ((skipGaps_suffix _).trans (List.suffix_cons _ _)).trans hgaps
    exact (hpairs state _).mono hnext
  · trivial

end Nested

/-- Values, the items of lists and the pairs of tables are read within their text. -/
theorem within_nested (fuel : Nat) :
    (∀ text, Within text (value fuel text)) ∧ (∀ text, Within text (items fuel text)) ∧
      ∀ state text, Within text (pairs fuel state text) := by
  -- the three call each other with less fuel
  induction fuel with
  | zero => exact ⟨fun _ => trivial, fun _ => trivial, fun _ _ => trivial⟩
  | succ fuel ih =>
    obtain ⟨hvalue, hitems, hpairs⟩ := ih
    exact ⟨within_value_succ hitems hpairs, within_items_succ hvalue hitems,
      within_pairs_succ hvalue hpairs⟩

/-! ## Documents -/

namespace Document

theorem within_readHeader (document : Document) (text : Text) :
    Within text (document.readHeader text) := by
  unfold readHeader
  split
  · next rest =>
    have hopen : skipGaps rest <:+ '[' :: '[' :: rest :=
      (skipGaps_suffix rest).trans ⟨['[', '['], rfl⟩
    refine ((leaves_key _ _).mono hopen).required.bind fun name behind h => ?_
    dsimp only
    split
    · refine within_required_bind fun document _ => ?_
      exact ((List.suffix_cons _ _).trans (List.suffix_cons _ _)).trans h
    · trivial
  · next rest _ =>
    have hopen : skipGaps rest <:+ '[' :: rest :=
      (skipGaps_suffix rest).trans (List.suffix_cons _ _)
    refine ((leaves_key _ _).mono hopen).required.bind fun name behind h => ?_
    refine ((leaves_mark ']' behind).mono h).required.bind fun _ behind h => ?_
    exact within_required_bind fun document _ => h
  · trivial

theorem within_readPair (document : Document) (text : Text) :
    Within text (document.readPair text) := by
  unfold readPair
  refine (leaves_key _ text).required.bind fun name rest h => ?_
  refine ((leaves_mark '=' rest).mono h).required.bind fun _ rest h => ?_
  have hvalue := (within_nested (text.length + 1)).1 (skipGaps rest)
  refine (hvalue.mono ((skipGaps_suffix rest).trans h)).bind fun found rest h => ?_
  exact within_required_bind fun document _ => h

theorem within_readStatement (document : Document) (text : Text) :
    Within text (document.readStatement text) := by
  unfold readStatement
  split
  · trivial
  · split_ifs
    · exact within_readPair document _
    · exact within_readHeader document _
    · exact List.suffix_rfl
    · trivial

/-- The statements of a text are read up to its end, so only a number in it can be too long. -/
theorem digits_of_readStatements {document : Document}
    (h : readStatements fuel document text = .error .longNumber) :
    mostDigits < text.countP Char.isDigit := by
  induction fuel generalizing document text with
  | zero => cases h
  | succ fuel ih =>
    -- where the reading goes on, what is left has the digits, and so has the text
    have hbehind {document : Document} {rest : Text} (hrest : '\n' :: rest <:+ text)
        (h : readStatements fuel document rest = .error .longNumber) :
        mostDigits < text.countP Char.isDigit :=
      Nat.lt_of_lt_of_le (ih h) ((List.suffix_cons _ _).trans hrest).sublist.countP_le
    have hgaps := skipGaps_suffix text
    rw [readStatements] at h
    split at h
    · cases h
    · next rest heq => exact hbehind (heq ▸ hgaps) h
    · have hstatement := (within_readStatement document (skipGaps text)).mono hgaps
      cases hread : document.readStatement (skipGaps text) with
      | error fault =>
        rw [hread] at h hstatement
        cases h
        exact hstatement
      | ok read =>
        rw [hread] at h hstatement
        simp only [bind, Except.bind] at h
        cases hcomment : skipComment? (skipGaps read.2) with
        | none =>
          rw [hcomment] at h
          cases h
        | some behind =>
          have hrest := (skipComment?_suffix hcomment).trans (skipGaps_suffix read.2)
          rw [hcomment] at h
          simp only [required] at h
          split at h
          · cases h
          · exact hbehind (hrest.trans hstatement) h
          · cases h

end Document

theorem withoutReturns_sublist (text : Text) : List.Sublist (withoutReturns text) text := by
  fun_induction withoutReturns text with
  | case1 => exact .slnil
  | case2 rest ih => exact (ih.cons_cons _).cons _
  | case3 c rest _ ih => exact ih.cons_cons _

/-- A document is too much for the reading of numbers only if it has more digits than a number may
have. -/
theorem digits_of_longNumber (h : decode text = .error .longNumber) :
    mostDigits < text.countP Char.isDigit := by
  unfold decode at h
  dsimp only at h
  cases hread : Document.readStatements ((withoutReturns text).length + 1) .empty
    (withoutReturns text) with
  | error fault =>
    rw [hread] at h
    cases h
    exact Nat.lt_of_lt_of_le (Document.digits_of_readStatements hread)
      (withoutReturns_sublist text).countP_le
  | ok document =>
    rw [hread] at h
    cases h

end BlitzLens.Toml
