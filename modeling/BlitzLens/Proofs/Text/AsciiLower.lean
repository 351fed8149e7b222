import BlitzLens.Declaration.Part
import BlitzLens.Line.Comment
import BlitzLens.Line.Nesting
import BlitzLens.Line.Word
import BlitzLens.Proofs.Text.Word
import BlitzLens.Text.Lines
import Mathlib.Data.List.Forall2

/-!
# Texts up to the case of their ASCII letters

`Text.asciiLower` replaces every ASCII capital by its lower case. Two texts with the same result
differ in nothing but the case of ASCII letters. No operation by which lines are cut into pieces can
tell such texts apart: each of them commutes with `asciiLower`, and so does the full mapping to
lower case (`Text.lower_asciiLower`).
-/

namespace BlitzLens

/-! ## Characters -/

/-- What is the same of every ASCII capital and its lower case is the same of every character and
its ASCII lower case. -/
theorem apply_toLower {α : Type} {f : Char → α}
    (h : ∀ n < 26, f (Char.ofNat (97 + n)) = f (Char.ofNat (65 + n))) (c : Char) :
    f c.toLower = f c := by
  by_cases hcapital : 65 ≤ c.toNat ∧ c.toNat ≤ 90
  · obtain ⟨n, hn⟩ := Nat.exists_eq_add_of_le hcapital.1
    have hlt : n < 26 := by omega
    have hlower : ∀ n < 26, (Char.ofNat (65 + n)).toLower = Char.ofNat (97 + n) := by decide
    rw [← Char.ofNat_toNat c, hn, hlower n hlt, h n hlt]
  · rw [toLower_of_not_capital (by omega)]

@[simp]
theorem isBlank_toLower (c : Char) : isBlank c.toLower = isBlank c :=
  apply_toLower (by decide) c

@[simp]
theorem isWordChar_toLower (c : Char) : isWordChar c.toLower = isWordChar c :=
  apply_toLower (by decide) c

@[simp]
theorem isIdentifierStart_toLower (c : Char) : isIdentifierStart c.toLower = isIdentifierStart c :=
  apply_toLower (by decide) c

@[simp]
theorem caseless_toLower (c : Char) : caseless c.toLower = caseless c :=
  apply_toLower (by decide) c

@[simp]
theorem isTypeSign_toLower (c : Char) : isTypeSign c.toLower = isTypeSign c :=
  apply_toLower (by decide) c

@[simp]
theorem lowerChar_toLower (c : Char) : lowerChar c.toLower = lowerChar c :=
  apply_toLower (by decide) c

/-- Whether a character is no ASCII letter. -/
def isNoAsciiLetter (c : Char) : Bool :=
  c.toNat < 65 || 90 < c.toNat && c.toNat < 97 || 122 < c.toNat

/-- Lower case does not tell whether a character is a given one that is no letter. -/
theorem toLower_beq {d : Char} (h : isNoAsciiLetter d = true) (c : Char) :
    (c.toLower == d) = (c == d) := by
  refine apply_toLower (f := (· == d)) (fun n hn => ?_) c
  have hne (m : Nat) (hm : m < 123) (hletter : ¬(m < 65 ∨ 90 < m ∧ m < 97)) :
      (Char.ofNat m == d) = false := by
    rw [beq_eq_false_iff_ne]
    rintro rfl
    have hsmall : ∀ m < 123, (Char.ofNat m).toNat = m := by decide
    rw [isNoAsciiLetter, hsmall m hm] at h
    simp only [Bool.or_eq_true, Bool.and_eq_true, decide_eq_true_eq] at h
    omega
  rw [hne (97 + n) (by omega) (by omega), hne (65 + n) (by omega) (by omega)]

/-- Nor does it tell whether a character differs from such a one. -/
theorem toLower_bne {d : Char} (h : isNoAsciiLetter d = true) (c : Char) :
    (c.toLower != d) = (c != d) :=
  congrArg not (toLower_beq h c)

/-- So a character that differs from such a one does so in lower case. -/
theorem toLower_ne {c d : Char} (h : isNoAsciiLetter d = true) (hne : c ≠ d) : c.toLower ≠ d := by
  rwa [← bne_iff_ne, toLower_bne h, bne_iff_ne]

namespace Text

/-- The text with the lower case of its ASCII letters. -/
def asciiLower (text : Text) : Text :=
  text.map Char.toLower

@[simp]
theorem asciiLower_nil : asciiLower [] = [] := rfl

@[simp]
theorem asciiLower_cons (c : Char) (text : Text) :
    asciiLower (c :: text) = c.toLower :: asciiLower text := rfl

@[simp]
theorem asciiLower_append (left right : Text) :
    asciiLower (left ++ right) = asciiLower left ++ asciiLower right :=
  List.map_append

@[simp]
theorem length_asciiLower (text : Text) : (asciiLower text).length = text.length :=
  List.length_map _

@[simp]
theorem isEmpty_asciiLower (text : Text) : (asciiLower text).isEmpty = text.isEmpty :=
  List.isEmpty_map

@[simp]
theorem take_asciiLower (n : Nat) (text : Text) :
    (asciiLower text).take n = asciiLower (text.take n) :=
  (List.map_take ..).symm

@[simp]
theorem drop_asciiLower (n : Nat) (text : Text) :
    (asciiLower text).drop n = asciiLower (text.drop n) :=
  (List.map_drop ..).symm

/-! ## Cutting texts -/

section Cuts

variable {p : Char → Bool} (hp : ∀ c, p c.toLower = p c) (text : Text)

include hp

theorem dropWhile_asciiLower : (asciiLower text).dropWhile p = asciiLower (text.dropWhile p) := by
  rw [asciiLower, List.dropWhile_map, show p ∘ Char.toLower = p from funext hp, asciiLower]

theorem takeWhile_asciiLower : (asciiLower text).takeWhile p = asciiLower (text.takeWhile p) := by
  rw [asciiLower, List.takeWhile_map, show p ∘ Char.toLower = p from funext hp, asciiLower]

theorem dropEndWhile_asciiLower :
    (asciiLower text).dropEndWhile p = asciiLower (text.dropEndWhile p) := by
  have hdrop := dropWhile_asciiLower hp text.reverse
  unfold asciiLower at hdrop
  rw [dropEndWhile, dropEndWhile, asciiLower, asciiLower, ← List.map_reverse, hdrop,
    List.map_reverse]

theorem takeEndWhile_asciiLower :
    (asciiLower text).takeEndWhile p = asciiLower (text.takeEndWhile p) := by
  have htake := takeWhile_asciiLower hp text.reverse
  unfold asciiLower at htake
  rw [takeEndWhile, takeEndWhile, asciiLower, asciiLower, ← List.map_reverse, htake,
    List.map_reverse]

end Cuts

variable (text : Text)

@[simp]
theorem trimStart_asciiLower : trimStart (asciiLower text) = asciiLower text.trimStart :=
  dropWhile_asciiLower isBlank_toLower text

@[simp]
theorem trimEnd_asciiLower : trimEnd (asciiLower text) = asciiLower text.trimEnd :=
  dropEndWhile_asciiLower isBlank_toLower text

@[simp]
theorem trim_asciiLower : trim (asciiLower text) = asciiLower text.trim := by
  rw [trim, trimStart_asciiLower, trimEnd_asciiLower, trim]

/-- A character that is no letter stands in both texts, or in none. -/
theorem contains_asciiLower {d : Char} (hd : isNoAsciiLetter d = true) :
    (asciiLower text).contains d = text.contains d := by
  induction text with
  | nil => rfl
  | cons c text ih =>
    rw [asciiLower_cons, List.contains_cons, List.contains_cons, ih, BEq.comm, toLower_beq hd,
      BEq.comm]

/-- A character that is no letter is found at the same column. -/
theorem indexFrom?_asciiLower {d : Char} (hd : isNoAsciiLetter d = true) (start : Nat) :
    (asciiLower text).indexFrom? d start = text.indexFrom? d start := by
  rw [indexFrom?, indexFrom?, drop_asciiLower, asciiLower, List.findIdx?_map]
  refine congrArg (Option.map _) (congrArg (List.findIdx? · _) (funext fun c => ?_))
  exact toLower_beq hd c

@[simp]
theorem clamp_asciiLower (column : Int) : (asciiLower text).clamp column = text.clamp column := by
  unfold clamp
  rw [length_asciiLower]

@[simp]
theorem slice_asciiLower (start stop : Int) :
    (asciiLower text).slice start stop = asciiLower (text.slice start stop) := by
  rw [slice, slice, clamp_asciiLower, clamp_asciiLower, take_asciiLower, drop_asciiLower]

@[simp]
theorem upTo_asciiLower (column : Int) :
    (asciiLower text).upTo column = asciiLower (text.upTo column) := by
  rw [upTo, upTo, clamp_asciiLower, take_asciiLower]

@[simp]
theorem startingAt_asciiLower (column : Int) :
    (asciiLower text).startingAt column = asciiLower (text.startingAt column) := by
  rw [startingAt, startingAt, clamp_asciiLower, drop_asciiLower]

/-! ## Names and keywords -/

@[simp]
theorem identifier?_asciiLower :
    identifier? (asciiLower text) = text.identifier?.map asciiLower := by
  cases text with
  | nil => rfl
  | cons c text =>
    rw [asciiLower_cons, identifier?, identifier?, isIdentifierStart_toLower]
    split_ifs
    · rw [takeWhile_asciiLower isWordChar_toLower]
      rfl
    · rfl

@[simp]
theorem looseIdentifier?_asciiLower : looseIdentifier? (asciiLower text) =
    (looseIdentifier? text).map (Prod.map asciiLower asciiLower) := by
  cases text with
  | nil => rfl
  | cons c text =>
    rw [asciiLower_cons, looseIdentifier?, looseIdentifier?, caseless_toLower]
    split_ifs
    · rw [takeWhile_asciiLower isWordChar_toLower, dropWhile_asciiLower isWordChar_toLower]
      rfl
    · rfl

/-- A text counts as the same when case is disregarded. -/
theorem map_caseless_asciiLower : (asciiLower text).map caseless = text.map caseless := by
  rw [asciiLower, List.map_map]
  exact List.map_congr_left fun c _ => caseless_toLower c

@[simp]
theorem spells_asciiLower (keyword : Text) :
    (asciiLower text).spells keyword = text.spells keyword := by
  rw [spells, spells, map_caseless_asciiLower]

@[simp]
theorem dropKeyword?_asciiLower (keyword : Text) :
    dropKeyword? keyword (asciiLower text) = (dropKeyword? keyword text).map asciiLower := by
  rw [dropKeyword?, dropKeyword?, take_asciiLower, map_caseless_asciiLower, drop_asciiLower]
  split_ifs <;> rfl

@[simp]
theorem dropWholeKeyword?_asciiLower (keyword : Text) :
    dropWholeKeyword? keyword (asciiLower text) =
      (dropWholeKeyword? keyword text).map asciiLower := by
  rw [dropWholeKeyword?, dropWholeKeyword?, dropKeyword?_asciiLower]
  cases dropKeyword? keyword text with
  | none => rfl
  | some rest =>
    cases rest with
    | nil => rfl
    | cons c rest =>
      change (if isWordChar c.toLower then none else _) =
        Option.map _ (if isWordChar c then _ else _)
      rw [isWordChar_toLower]
      split_ifs <;> rfl

@[simp]
theorem dropBlanks?_asciiLower :
    dropBlanks? (asciiLower text) = (dropBlanks? text).map asciiLower := by
  cases text with
  | nil => rfl
  | cons c text =>
    rw [asciiLower_cons, dropBlanks?, dropBlanks?, isBlank_toLower, ← asciiLower_cons,
      trimStart_asciiLower]
    split_ifs <;> rfl

/-! ## Lower case -/

/-- The neighbours of a character have case in both texts, or in none. -/
theorem hasCasedNeighbour_asciiLower :
    hasCasedNeighbour (asciiLower text) = hasCasedNeighbour text := by
  have hignorable (c : Char) : CodeRange.memberOf caseIgnorableRanges c.toLower =
      CodeRange.memberOf caseIgnorableRanges c := apply_toLower (by decide +kernel) c
  have hcased (c : Char) : CodeRange.memberOf casedRanges c.toLower =
      CodeRange.memberOf casedRanges c := apply_toLower (by decide +kernel) c
  rw [hasCasedNeighbour, hasCasedNeighbour, dropWhile_asciiLower hignorable]
  cases text.dropWhile (CodeRange.memberOf caseIgnorableRanges) with
  | nil => rfl
  | cons c rest => exact hcased c

/-- The full lower case of a text disregards the case of its ASCII letters. -/
theorem lowerAfter_asciiLower (before : Text) :
    lowerAfter (asciiLower before) (asciiLower text) = lowerAfter before text := by
  induction text generalizing before with
  | nil => rfl
  | cons c text ih =>
    have hbetween : lowerBetween (asciiLower before) c.toLower (asciiLower text) =
        lowerBetween before c text := by
      rw [lowerBetween, lowerBetween, toLower_beq (by decide), toLower_beq (by decide),
        hasCasedNeighbour_asciiLower, hasCasedNeighbour_asciiLower, lowerChar_toLower]
    rw [asciiLower_cons, lowerAfter, lowerAfter, hbetween, ← asciiLower_cons, ih]

@[simp]
theorem lower_asciiLower : lower (asciiLower text) = text.lower :=
  lowerAfter_asciiLower text []

/-- Texts that differ in the case of ASCII letters only have the same lower case. -/
theorem lower_eq_of_asciiLower_eq {text text' : Text} (h : text.asciiLower = text'.asciiLower) :
    text.lower = text'.lower := by
  rw [← lower_asciiLower text, h, lower_asciiLower]

/-! ## Lines -/

/-- A text has the same lines. -/
theorem linesAfter_asciiLower (returned : Bool) :
    linesAfter returned (asciiLower text) = (linesAfter returned text).map asciiLower := by
  induction text generalizing returned with
  | nil => rfl
  | cons c text ih =>
    rw [asciiLower_cons, linesAfter, linesAfter, toLower_beq (by decide), toLower_beq (by decide)]
    split_ifs
    · exact ih false
    · rw [ih]
      rfl
    · rw [ih]
      cases linesAfter false text <;> rfl

@[simp]
theorem lines_asciiLower : (asciiLower text).lines = text.lines.map asciiLower :=
  linesAfter_asciiLower text false

/-- Texts that differ in the case of ASCII letters only have lines that differ so, one by one. -/
theorem forall₂_lines_of_asciiLower_eq {text text' : Text}
    (h : text.asciiLower = text'.asciiLower) :
    List.Forall₂ (fun line line' => asciiLower line = asciiLower line') text.lines text'.lines := by
  have hlines := lines_asciiLower text
  rw [h, lines_asciiLower, ← List.forall₂_eq_eq_eq, List.forall₂_map_left_iff,
    List.forall₂_map_right_iff] at hlines
  exact hlines.flip.imp fun _ _ hline => hline.symm

/-- Every line of one of them is a line of the other one, but for case. -/
theorem exists_mem_lines_of_asciiLower_eq {text text' : Text}
    (h : text.asciiLower = text'.asciiLower) {line : Text} (hline : line ∈ text.lines) :
    ∃ line' ∈ text'.lines, asciiLower line = asciiLower line' := by
  have hmem := List.mem_map_of_mem (f := asciiLower) hline
  rw [← lines_asciiLower, h, lines_asciiLower, List.mem_map] at hmem
  obtain ⟨line', hline', heq⟩ := hmem
  exact ⟨line', hline', heq.symm⟩

end Text

end BlitzLens
