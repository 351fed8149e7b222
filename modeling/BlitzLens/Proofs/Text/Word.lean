import BlitzLens.Proofs.Text.Caseless
import Mathlib.Data.List.TakeWhile
import Mathlib.Tactic.SplitIfs

/-!
# Words of a text

A word is a text of word characters. Blanks belong to no word, and an identifier at the start of a
text is a word that goes on as far as it can. Columns cut a text like numbers of characters.
-/

namespace BlitzLens

namespace Text

/-- Whether a text starts with a word character. -/
def startsWord (text : Text) : Bool :=
  text.head?.any isWordChar

/-- Whether a text ends with a word character. -/
def endsWord (text : Text) : Bool :=
  text.getLast?.any isWordChar

/-- A word: word characters, at least one. -/
structure IsWord (word : Text) : Prop where
  /-- There is a character. -/
  ne_nil : word ≠ []
  /-- All are word characters. -/
  all_word : ∀ c ∈ word, isWordChar c = true

@[simp]
theorem startsWord_nil : startsWord [] = false := rfl

@[simp]
theorem startsWord_cons (c : Char) (text : Text) : startsWord (c :: text) = isWordChar c := by
  simp [startsWord]

/-- A text ends like its second part, unless that is empty. -/
theorem endsWord_append {left right : Text} (h : right ≠ []) :
    endsWord (left ++ right) = endsWord right := by
  rw [endsWord, endsWord, List.getLast?_append, List.getLast?_eq_some_getLast h, Option.some_or]

@[simp]
theorem endsWord_concat (text : Text) (c : Char) : endsWord (text ++ [c]) = isWordChar c := by
  simp [endsWord]

/-- A text starts like its first part, unless that is empty. -/
theorem startsWord_append {left right : Text} (h : left ≠ []) :
    startsWord (left ++ right) = startsWord left := by
  rw [startsWord, startsWord, List.head?_append, List.head?_eq_some_head h, Option.some_or]

/-- A text whose parts do not start with a word character does not start with one. -/
theorem startsWord_append_eq_false {left right : Text} (hleft : startsWord left = false)
    (hright : startsWord right = false) : startsWord (left ++ right) = false := by
  cases left with
  | nil => exact hright
  | cons c left => rwa [startsWord_append (List.cons_ne_nil _ _)]

/-- A text whose parts do not end with a word character does not end with one. -/
theorem endsWord_append_eq_false {left right : Text} (hleft : endsWord left = false)
    (hright : endsWord right = false) : endsWord (left ++ right) = false := by
  by_cases h : right = []
  · rwa [h, List.append_nil]
  · rwa [endsWord_append h]

namespace IsWord

variable {word : Text}

/-- A word starts with a word character. -/
theorem startsWord_append (h : IsWord word) (text : Text) : startsWord (word ++ text) = true := by
  cases word with
  | nil => exact absurd rfl h.ne_nil
  | cons c word => simpa using h.all_word c List.mem_cons_self

/-- A word ends with a word character. -/
theorem endsWord (h : IsWord word) : endsWord word = true := by
  rw [Text.endsWord, List.getLast?_eq_some_getLast h.ne_nil]
  exact h.all_word _ (List.getLast_mem h.ne_nil)

/-- The last character of a text that ends with a word is a word character. -/
theorem exists_getLast? (h : IsWord word) (before : Text) :
    ∃ c, (before ++ word).getLast? = some c ∧ isWordChar c = true := by
  refine ⟨word.getLast h.ne_nil, ?_, h.all_word _ (List.getLast_mem h.ne_nil)⟩
  rw [List.getLast?_append, List.getLast?_eq_some_getLast h.ne_nil, Option.some_or]

/-- A word has a length. -/
theorem length_pos (h : IsWord word) : 0 < word.length :=
  List.length_pos_iff.2 h.ne_nil

end IsWord

/-- A word character and the word characters behind it are a word. -/
theorem isWord_cons_takeWhile {c : Char} (h : isWordChar c = true) (text : Text) :
    IsWord (c :: text.takeWhile isWordChar) := by
  refine ⟨List.cons_ne_nil _ _, fun d hd => ?_⟩
  rcases List.mem_cons.1 hd with rfl | hd
  · exact h
  · exact List.mem_takeWhile_imp hd

/-- Behind a longest run of word characters no word goes on. -/
theorem startsWord_dropWhile (text : Text) :
    startsWord (text.dropWhile isWordChar) = false := by
  induction text with
  | nil => rfl
  | cons c text ih =>
    cases hc : isWordChar c with
    | true => rwa [List.dropWhile_cons_of_pos hc]
    | false =>
      rw [List.dropWhile_cons_of_neg (by simp [hc]), startsWord_cons]
      exact hc

/-- Induction on a text from its start, by one character that belongs to no word or by one whole
word at a time. -/
@[elab_as_elim]
theorem wordInduction {motive : Text → Prop} (nil : motive [])
    (char : ∀ c text, isWordChar c = false → motive text → motive (c :: text))
    (word : ∀ run rest, IsWord run → startsWord rest = false → motive rest → motive (run ++ rest))
    (text : Text) : motive text := by
  induction hlength : text.length using Nat.strongRecOn generalizing text with
  | ind length ih =>
    cases text with
    | nil => exact nil
    | cons c text =>
      cases hc : isWordChar c with
      | false => exact char c text hc (ih text.length (by simp [← hlength]) text rfl)
      | true =>
        -- the first word goes on as far as there are word characters
        have hshort : (text.dropWhile isWordChar).length < length := by
          rw [← hlength, List.length_cons]
          exact Nat.lt_succ_of_le (List.length_dropWhile_le ..)
        have hwhole := word _ _ (isWord_cons_takeWhile hc text) (startsWord_dropWhile text)
          (ih _ hshort _ rfl)
        rwa [List.cons_append, List.takeWhile_append_dropWhile] at hwhole

/-- The word characters at the end of a text are those behind what no word reaches out of. -/
theorem takeEndWhile_append {before word : Text} (hbefore : endsWord before = false)
    (hword : ∀ c ∈ word, isWordChar c = true) :
    takeEndWhile isWordChar (before ++ word) = word := by
  have hreverse : ∀ c ∈ word.reverse, isWordChar c = true := fun c hc =>
    hword c (List.mem_reverse.1 hc)
  rw [takeEndWhile, List.reverse_append, List.takeWhile_append_of_pos hreverse,
    List.reverse_append, List.reverse_reverse]
  have hnil : (before.reverse.takeWhile isWordChar) = [] := by
    rw [endsWord, ← List.head?_reverse] at hbefore
    cases hlast : before.reverse with
    | nil => rfl
    | cons c rest =>
      rw [hlast] at hbefore
      exact List.takeWhile_cons_of_neg (by simpa using hbefore)
  rw [hnil, List.reverse_nil, List.nil_append]

/-- The word characters at the start of a text are those in front of what no word reaches out of. -/
theorem wordRun_append {word after : Text} (hword : ∀ c ∈ word, isWordChar c = true)
    (hafter : startsWord after = false) : wordRun (word ++ after) = word := by
  rw [wordRun, List.takeWhile_append_of_pos hword]
  cases after with
  | nil => simp
  | cons c after => simpa using hafter

/-- What stands before a column is as many characters as the column says. -/
theorem upTo_natCast {text : Text} {column : Nat} (h : column ≤ text.length) :
    text.upTo (column : Int) = text.take column := by
  change text.take (min column text.length) = _
  rw [Nat.min_eq_left h]

/-- Columns that are counted from the start cut a text like numbers of characters. -/
theorem slice_natCast (text : Text) (start stop : Nat) :
    text.slice start stop = (text.drop start).take (stop - start) := by
  have hclamp (column : Nat) : text.clamp (column : Int) = min column text.length := rfl
  rw [Text.slice, hclamp, hclamp, ← List.take_take, List.take_length, List.drop_take]
  rcases Nat.le_total start text.length with h | h
  · rw [Nat.min_eq_left h]
  · rw [Nat.min_eq_right h, List.drop_length, List.drop_eq_nil_of_le h, List.take_nil,
      List.take_nil]

end Text

/-! ## Characters -/

/-- A blank belongs to no word. -/
theorem isWordChar_of_isBlank {c : Char} (h : isBlank c = true) : isWordChar c = false := by
  have hpoints : ∀ n ∈ [9, 10, 11, 12, 13, 28, 29, 30, 31, 32, 133, 160, 5760, 8192, 8193, 8194,
      8195, 8196, 8197, 8198, 8199, 8200, 8201, 8202, 8232, 8233, 8239, 8287, 12288],
      isWordChar (Char.ofNat n) = false := by
    decide +kernel
  rw [← Char.ofNat_toNat c]
  refine hpoints c.toNat ?_
  simp only [isBlank, CodeRange.memberOf, blankRanges, CodeRange.contains, List.any_cons,
    List.any_nil, Bool.or_eq_true, Bool.and_eq_true, decide_eq_true_eq, Bool.or_false] at h
  simp only [List.mem_cons, List.not_mem_nil, or_false]
  omega

/-- A word character is no blank. -/
theorem isBlank_of_isWordChar {c : Char} (h : isWordChar c = true) : isBlank c = false := by
  by_contra hblank
  rw [Bool.not_eq_false] at hblank
  rw [isWordChar_of_isBlank hblank] at h
  cases h

/-- What counts as the start of an identifier when case is disregarded belongs to a word. -/
theorem isWordChar_of_isIdentifierStart_caseless {c : Char}
    (h : isIdentifierStart (caseless c) = true) : isWordChar c = true := by
  unfold caseless at h
  simp only [Bool.or_eq_true, beq_iff_eq] at h
  split at h
  · next hi => rcases hi with rfl | rfl <;> decide +kernel
  split at h
  · next hs => subst hs; decide +kernel
  split at h
  · next hk => subst hk; decide +kernel
  by_cases hcapital : 65 ≤ c.toNat ∧ c.toNat ≤ 90
  · have hcapitals : ∀ n < 91, 65 ≤ n → isWordChar (Char.ofNat n) = true := by decide
    rw [← Char.ofNat_toNat c]
    exact hcapitals c.toNat (by omega) hcapital.1
  · rw [toLower_of_not_capital (by omega)] at h
    exact isWordChar_of_isIdentifierStart h

namespace Text

/-! ## Identifiers -/

/-- An identifier at the start of a text is a word, and no word goes on behind it. -/
theorem identifier?_eq_some {text name : Text} (h : text.identifier? = some name) :
    ∃ rest, text = name ++ rest ∧ IsWord name ∧ startsWord rest = false := by
  cases text with
  | nil => cases h
  | cons c text =>
    rw [identifier?] at h
    split_ifs at h with hc
    cases h
    refine ⟨text.dropWhile isWordChar, ?_,
      isWord_cons_takeWhile (isWordChar_of_isIdentifierStart hc) text, startsWord_dropWhile text⟩
    rw [List.cons_append, List.takeWhile_append_dropWhile]

/-- The same holds when case is disregarded in the first character. -/
theorem looseIdentifier?_eq_some {text name rest : Text}
    (h : looseIdentifier? text = some (name, rest)) :
    text = name ++ rest ∧ IsWord name ∧ startsWord rest = false := by
  cases text with
  | nil => cases h
  | cons c text =>
    rw [looseIdentifier?] at h
    split_ifs at h with hc
    cases h
    refine ⟨?_, isWord_cons_takeWhile (isWordChar_of_isIdentifierStart_caseless hc) text,
      startsWord_dropWhile text⟩
    rw [List.cons_append, List.takeWhile_append_dropWhile]

/-- What spells a keyword of letters is a word. -/
theorem IsWord.of_spells {word keyword : Text} (h : word.spells keyword = true)
    (hne : keyword ≠ []) (hletters : keyword.all isIdentifierStart = true) : IsWord word := by
  have hmap : word.map caseless = keyword := by simpa [spells] using h
  refine ⟨fun hnil => hne ?_, fun c hc => isWordChar_of_isIdentifierStart_caseless ?_⟩
  · rw [← hmap, hnil, List.map_nil]
  · exact List.all_eq_true.1 hletters _ (hmap ▸ List.mem_map_of_mem hc)

/-- A text starts with one word at most. -/
theorem IsWord.eq_of_append_eq {word word' rest rest' : Text} (hword : IsWord word)
    (hword' : IsWord word') (hrest : startsWord rest = false) (hrest' : startsWord rest' = false)
    (h : word ++ rest = word' ++ rest') : word = word' := by
  -- both words are the word characters that the text starts with
  have htake {word rest : Text} (hword : IsWord word) (hrest : startsWord rest = false) :
      (word ++ rest).takeWhile isWordChar = word := by
    rw [List.takeWhile_append_of_pos hword.all_word]
    cases rest with
    | nil => simp
    | cons c rest => simpa using hrest
  rw [← htake hword hrest, h, htake hword' hrest']

/-- A text that ends with a blank does not end with a word. -/
theorem endsWord_of_isBlank {gap : Text} (h : ∀ c ∈ gap, isBlank c = true) :
    endsWord gap = false := by
  cases hlast : gap.getLast? with
  | none => rw [endsWord, hlast, Option.any_none]
  | some c =>
    rw [endsWord, hlast, Option.any_some]
    exact isWordChar_of_isBlank (h c (List.mem_of_getLast? hlast))

/-- A text of blanks does not start with a word. -/
theorem startsWord_of_isBlank {gap : Text} (h : ∀ c ∈ gap, isBlank c = true) :
    startsWord gap = false := by
  cases gap with
  | nil => rfl
  | cons c gap =>
    rw [startsWord_cons]
    exact isWordChar_of_isBlank (h c List.mem_cons_self)

end Text

end BlitzLens
