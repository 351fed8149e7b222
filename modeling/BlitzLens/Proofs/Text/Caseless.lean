import BlitzLens.Text.Caseless
import BlitzLens.Text.Lowercase

/-!
# Keywords and lower case

Two ways to disregard case: `caseless`, by which keywords are recognised, and the full mapping to
lower case. They agree on ASCII (`Text.lower_of_isAscii`). Beyond ASCII there are four characters
that count as an ASCII letter (`eq_of_caseless_isAscii`), and the lower case of three of them is not
ASCII (`Text.not_isAscii_lower`), which is why a text may spell a keyword and have another lower
case.
-/

namespace BlitzLens

/-- Whether a text is ASCII. -/
def Text.IsAscii (text : Text) : Prop :=
  ∀ c ∈ text, c.toNat < 128

instance (text : Text) : Decidable text.IsAscii :=
  List.decidableBAll (fun c : Char => c.toNat < 128) text

/-! ## Characters -/

/-- A character that is no ASCII capital is its own ASCII lower case. -/
theorem toLower_of_not_capital {c : Char} (h : c.toNat < 65 ∨ 90 < c.toNat) : c.toLower = c := by
  have hval : ¬(c.val ≥ 'A'.val ∧ c.val ≤ 'Z'.val) := by
    rintro ⟨hfirst, hlast⟩
    have h₁ : 65 ≤ c.toNat := hfirst
    have h₂ : c.toNat ≤ 90 := hlast
    omega
  exact dif_neg hval

/-- But for four characters beyond ASCII, a character counts as its ASCII lower case. -/
theorem caseless_eq_toLower {c : Char} (h : c.toNat ∉ [305, 304, 383, 8490]) :
    caseless c = c.toLower := by
  have hne (d : Char) (hd : d.toNat ∈ [305, 304, 383, 8490]) : (c == d) = false := by
    rw [beq_eq_false_iff_ne]
    rintro rfl
    exact h hd
  rw [caseless, hne 'ı' (by decide), hne 'İ' (by decide), hne 'ſ' (by decide),
    hne '\u212a' (by decide)]
  rfl

/-- Only four characters beyond ASCII count as an ASCII character. -/
theorem eq_of_caseless_isAscii {c : Char} (h : (caseless c).toNat < 128) (hc : ¬c.toNat < 128) :
    c = 'ı' ∨ c = 'İ' ∨ c = 'ſ' ∨ c = '\u212a' := by
  unfold caseless at h
  simp only [Bool.or_eq_true, beq_iff_eq] at h
  split at h
  · next hi => exact hi.elim .inl fun h => .inr (.inl h)
  split at h
  · next hs => exact .inr (.inr (.inl hs))
  split at h
  · next hk => exact .inr (.inr (.inr hk))
  · rw [toLower_of_not_capital (by omega)] at h
    exact absurd h hc

/-- An ASCII character counts as its ASCII lower case. -/
theorem caseless_of_isAscii {c : Char} (h : c.toNat < 128) : caseless c = c.toLower := by
  apply caseless_eq_toLower
  simp only [List.mem_cons, List.not_mem_nil, or_false]
  omega

/-! ## Lower case -/

/-- What stands in the lower case of a character stands in that of the text. -/
theorem mem_lowerAfter {before text : Text} {c d : Char} (hc : c ∈ text)
    (h : ∀ left right, d ∈ lowerBetween left c right) : d ∈ lowerAfter before text := by
  induction text generalizing before with
  | nil => cases hc
  | cons first rest ih =>
    rw [lowerAfter, List.mem_append]
    rcases List.mem_cons.1 hc with rfl | hrest
    · exact .inl (h _ _)
    · exact .inr (ih hrest)

/-- The lower case of an ASCII text disregards case in the same way as keywords do. -/
theorem lowerAfter_of_isAscii {before text : Text} (h : text.IsAscii) :
    lowerAfter before text = text.map caseless := by
  induction text generalizing before with
  | nil => rfl
  | cons c rest ih =>
    have hc := h c List.mem_cons_self
    rw [lowerAfter, lowerBetween_ascii hc, ih fun d hd => h d (List.mem_cons_of_mem _ hd),
      List.map_cons, caseless_of_isAscii hc]
    rfl

namespace Text

/-- The lower case of an ASCII text disregards case in the same way as keywords do. -/
theorem lower_of_isAscii {text : Text} (h : text.IsAscii) : text.lower = text.map caseless :=
  lowerAfter_of_isAscii h

/-- Three of the letters that count as an ASCII letter have a lower case that is not ASCII. -/
theorem not_isAscii_lower {text : Text} (h : 'ı' ∈ text ∨ 'İ' ∈ text ∨ 'ſ' ∈ text) :
    ¬text.lower.IsAscii := by
  intro hascii
  have hdotless (left right : Text) : lowerBetween left 'ı' right = ['ı'] := by
    rw [lowerBetween, if_neg (by decide), if_neg (by decide), show lowerChar 'ı' = 'ı' by decide]
  have hdotted (left right : Text) : lowerBetween left 'İ' right = ['i', '\u0307'] := by
    rw [lowerBetween, if_neg (by decide), if_pos (by decide)]
  have hlong (left right : Text) : lowerBetween left 'ſ' right = ['ſ'] := by
    rw [lowerBetween, if_neg (by decide), if_neg (by decide), show lowerChar 'ſ' = 'ſ' by decide]
  rcases h with hmem | hmem | hmem
  · exact absurd (hascii 'ı' (mem_lowerAfter hmem fun _ _ => by rw [hdotless]; decide))
      (by decide)
  · exact absurd (hascii '\u0307' (mem_lowerAfter hmem fun _ _ => by rw [hdotted]; decide))
      (by decide)
  · exact absurd (hascii 'ſ' (mem_lowerAfter hmem fun _ _ => by rw [hlong]; decide))
      (by decide)

end Text

end BlitzLens
