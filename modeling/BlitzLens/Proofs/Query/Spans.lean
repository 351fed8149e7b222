import BlitzLens.Proofs.Line.Pieces
import BlitzLens.Query.Signature

/-!
# The spans of parameters

Signature help points at each parameter in the label of a signature. It scans the label from its
first parenthesis to the one that closes it, and counts brackets below zero on the way, unlike the
scan that splits a list. If the list is properly nested both scans go through the same places, so
the spans are those of the pieces of the list, without the blanks around them.

## Main definitions

* `Signature.SpellsBetween`: spans that spell some texts, one behind the other.
* `Signature.Spells`: a signature whose parameters spell some declarations.

## Main results

* `Signature.spellsBetween_parameterSpans`: the spans of a label spell the pieces of its list.
* `Signature.spells_build`: so do the parameters of the signature that is built.
-/

namespace BlitzLens

/-- The parameters of a signature spell some declarations: there is one for each, in order, with a
span of the label that holds the declaration. -/
structure Signature.Spells (signature : Signature) (declarations : List Text) : Prop where
  /-- Each span holds its declaration. -/
  slices : signature.parameters.map (fun p => signature.label.slice p.label.1 p.label.2) =
    declarations
  /-- No span is empty. -/
  nonempty : ∀ p ∈ signature.parameters, p.label.1 < p.label.2
  /-- The spans are inside the label. -/
  inside : ∀ p ∈ signature.parameters, 0 ≤ p.label.1 ∧ p.label.2 ≤ signature.label.length
  /-- The spans increase and are disjoint. -/
  increasing : signature.parameters.Pairwise fun p later => p.label.2 < later.label.1

/-! ## Texts -/

namespace Text

/-- A text is its trimmed text with blanks around it. -/
theorem exists_eq_trim_append (text : Text) :
    ∃ trail, text = text.takeWhile isBlank ++ (text.trim ++ trail) ∧
      ∀ c ∈ trail, isBlank c = true := by
  obtain ⟨trail, htrail, hblank⟩ := Text.exists_trimEnd_append text.trimStart
  refine ⟨trail, ?_, hblank⟩
  rw [Text.trim, ← htrail, Text.blanks_append_trimStart]

/-- What stands between two texts is cut out at its columns. -/
theorem slice_append_append (before text after : Text) :
    (before ++ (text ++ after)).slice before.length ((before.length + text.length : Nat) : Int) =
      text := by
  rw [slice_natCast, List.drop_left, Nat.add_sub_cancel_left, List.take_left]

/-- What is found is the first one. -/
theorem indexFrom?_append {before : Text} {c : Char} (hbefore : c ∉ before) (after : Text) :
    (before ++ c :: after).indexFrom? c 0 = some before.length := by
  have hnone : before.findIdx? (· == c) = none :=
    List.findIdx?_eq_none_iff.2 fun d hd => beq_eq_false_iff_ne.2 fun h => hbefore (h ▸ hd)
  rw [indexFrom?, List.drop_zero, List.findIdx?_append, hnone, List.findIdx?_cons,
    if_pos (beq_self_eq_true c)]
  simp

/-- What is found behind a text stands in front of all others. -/
theorem exists_append_of_indexFrom? {before text : Text} {c : Char} {index : Nat}
    (h : (before ++ text).indexFrom? c before.length = some index) :
    ∃ mid after, text = mid ++ c :: after ∧ c ∉ mid ∧ index = (before ++ mid).length := by
  obtain ⟨distance, hdistance, rfl⟩ := Option.map_eq_some_iff.1 h
  rw [List.drop_left] at hdistance
  obtain ⟨hinside, hfound, hfirst⟩ := List.findIdx?_eq_some_iff_getElem.1 hdistance
  rw [beq_iff_eq] at hfound
  refine ⟨text.take distance, text.drop (distance + 1), ?_, fun hmem => ?_, ?_⟩
  · rw [← hfound, ← List.drop_eq_getElem_cons hinside, List.take_append_drop]
  · obtain ⟨i, hi, heq⟩ := List.getElem_of_mem hmem
    rw [List.length_take] at hi
    rw [List.getElem_take] at heq
    exact hfirst i (by omega) (beq_iff_eq.2 heq)
  · rw [List.length_append, List.length_take]
    omega

/-- What stands behind a character and a text in front of it is cut out by counting both. -/
theorem drop_take_cons (before text after : Text) (c : Char) :
    ((before ++ c :: (text ++ after)).take (before.length + 1 + text.length)).drop
      (before.length + 1) = text := by
  have hcons : before ++ c :: (text ++ after) = before ++ [c] ++ (text ++ after) := by simp
  have hlength : before.length + 1 = (before ++ [c]).length := by simp
  rw [hcons, hlength, List.drop_take, List.drop_left, Nat.add_sub_cancel_left, List.take_left]

end Text

namespace Signature

open Line

/-! ## The scan of a label -/

variable {label before after piece text : Text} {place : Nesting} {c : Char}
  {pieces : List Text}

/-- Where no bracket closes what is not open, the scan of a label goes from place to place like the
one that splits a list, and a comma that splits the list ends a parameter. -/
theorem spansFrom_cons (hclosing : place.quoted = false → c = ')' ∨ c = ']' → 0 < place.depth)
    (label : Text) (start column : Nat) (rest : Text) :
    spansFrom label start column place.depth place.quoted (c :: rest) =
      if place.divides ',' c then
        (trimmedSpan? label start column).toList ++
          spansFrom label (column + 1) (column + 1) place.depth place.quoted rest
      else
        spansFrom label start (column + 1) (place.after c).depth (place.after c).quoted rest := by
  by_cases hdivides : place.divides ',' c = true
  · obtain ⟨rfl, -, rfl⟩ := Nesting.divides_eq_true_iff.1 hdivides
    rw [if_pos hdivides]
    rfl
  · rw [if_neg hdivides, spansFrom, Nesting.after]
    split_ifs with hquote hquoted hopen hclose hcomma
    · rfl
    · rfl
    · rfl
    · rw [Bool.or_eq_true, beq_iff_eq, beq_iff_eq] at hclose
      have hpos := hclosing (Bool.eq_false_iff.2 hquoted) hclose
      rw [Int.ofNat_sub hpos]
      rfl
    · rw [Bool.and_eq_true, beq_iff_eq, beq_iff_eq, Int.natCast_eq_zero] at hcomma
      obtain ⟨rfl, hdepth⟩ := hcomma
      obtain ⟨quoted, depth⟩ := place
      subst hdepth
      cases Bool.eq_false_iff.2 hquoted
      exact absurd rfl hdivides
    · rfl

/-- The columns of the pieces of a label that stand one behind the other from a column on, with a
comma between them, without those that are blank. -/
def pieceSpans (label : Text) (column : Nat) : List Text → List (Nat × Nat)
  | [] => []
  | piece :: pieces =>
    (trimmedSpan? label column (column + piece.length)).toList ++
      pieceSpans label (column + piece.length + 1) pieces

/-- Where a list closes what is open and nothing else, the parameters are its pieces. -/
theorem spansFrom_eq_pieceSpans (hsettles : Settles place text)
    (hsplit : splitFrom ',' place text = piece :: pieces) (label : Text) (start column : Nat) :
    spansFrom label start column place.depth place.quoted (text ++ [',']) =
      (trimmedSpan? label start (column + piece.length)).toList ++
        pieceSpans label (column + piece.length + 1) pieces := by
  -- `column` is where the rest of the current piece starts, and `start` where the whole one does
  induction text generalizing place start column piece pieces with
  | nil =>
    cases hsplit
    rw [Settles] at hsettles
    subst hsettles
    rfl
  | cons c text ih =>
    obtain ⟨hclosing, hrest⟩ := hsettles
    rw [splitFrom_cons] at hsplit
    rw [List.cons_append, spansFrom_cons hclosing]
    split_ifs at hsplit ⊢ with hdivides
    · -- the comma ends the current piece, and the next one starts behind it
      obtain ⟨-, hc, -⟩ := Nesting.divides_eq_true_iff.1 hdivides
      rw [Nesting.after_of_delimits_eq_false hc] at hrest
      cases hsplit
      obtain ⟨next, more, hnext⟩ := List.exists_cons_of_ne_nil (splitFrom_ne_nil ',' place text)
      rw [ih hrest hnext, hnext]
      rfl
    · obtain ⟨next, more, hnext⟩ :=
        List.exists_cons_of_ne_nil (splitFrom_ne_nil ',' (place.after c) text)
      rw [hnext] at hsplit
      cases hsplit
      rw [ih hrest hnext, List.length_cons, Nat.add_right_comm, Nat.add_assoc column]

/-! ## What the spans spell -/

/-- Spans of a label that spell some texts, each behind the one before it, between two columns. -/
structure SpellsBetween (label : Text) (first last : Nat) (spans : List (Nat × Nat))
    (texts : List Text) : Prop where
  /-- The spans spell the texts, in order. -/
  slices : spans.map (fun span => label.slice span.1 span.2) = texts
  /-- No span is empty. -/
  nonempty : ∀ span ∈ spans, span.1 < span.2
  /-- The spans are not in front of the first column. -/
  first_le : ∀ span ∈ spans, first ≤ span.1
  /-- The spans end at the last column at the latest. -/
  le_last : ∀ span ∈ spans, span.2 ≤ last
  /-- The spans go from left to right, and something stands between them. -/
  apart : spans.Pairwise fun span later => span.2 < later.1

/-- The pieces of a list without blanks around them, and without those that are blank. -/
def barePieces (pieces : List Text) : List Text :=
  (pieces.map Text.trim).filter fun piece => !piece.isEmpty

namespace SpellsBetween

variable {first middle last : Nat} {spans later : List (Nat × Nat)} {texts more : List Text}

theorem nil (label : Text) (first last : Nat) : SpellsBetween label first last [] [] :=
  ⟨rfl, fun _ => (nomatch ·), fun _ => (nomatch ·), fun _ => (nomatch ·), .nil⟩

/-- A span spells what stands there. -/
theorem singleton (hpiece : piece ≠ []) (hfirst : first ≤ before.length)
    (hlast : before.length + piece.length ≤ last) :
    SpellsBetween (before ++ (piece ++ after)) first last
      [(before.length, before.length + piece.length)] [piece] where
  slices := by
    rw [List.map_singleton, Text.slice_append_append]
  nonempty span hspan := by
    rw [List.mem_singleton.1 hspan]
    exact Nat.lt_add_of_pos_right (List.length_pos_iff.2 hpiece)
  first_le span hspan := by rwa [List.mem_singleton.1 hspan]
  le_last span hspan := by rwa [List.mem_singleton.1 hspan]
  apart := List.pairwise_singleton _ _

/-- Spans in front of a separator and spans behind it are spans together. -/
theorem append (h : SpellsBetween label first middle spans texts)
    (hlater : SpellsBetween label (middle + 1) last later more) (hfirst : first ≤ middle)
    (hlast : middle ≤ last) : SpellsBetween label first last (spans ++ later) (texts ++ more) where
  slices := by rw [List.map_append, h.slices, hlater.slices]
  nonempty span hspan := (List.mem_append.1 hspan).elim (h.nonempty span) (hlater.nonempty span)
  first_le span hspan := (List.mem_append.1 hspan).elim (h.first_le span) fun hmem => by
    have := hlater.first_le span hmem
    omega
  le_last span hspan := (List.mem_append.1 hspan).elim (fun hmem =>
    Nat.le_trans (h.le_last span hmem) hlast) (hlater.le_last span)
  apart := by
    refine List.pairwise_append.2 ⟨h.apart, hlater.apart, fun span hspan next hnext => ?_⟩
    have := h.le_last span hspan
    have := hlater.first_le next hnext
    omega

end SpellsBetween

/-- The columns of a piece are those of its trimmed text, unless it is blank. -/
theorem spellsBetween_trimmedSpan? (before piece after : Text) :
    SpellsBetween (before ++ (piece ++ after)) before.length (before.length + piece.length)
      (trimmedSpan? (before ++ (piece ++ after)) before.length
        (before.length + piece.length)).toList (barePieces [piece]) := by
  have hlead : piece.length - piece.trimStart.length = (piece.takeWhile isBlank).length := by
    have := congrArg List.length (Text.blanks_append_trimStart piece)
    rw [List.length_append] at this
    omega
  rw [trimmedSpan?, Text.slice_append_append, hlead, barePieces, List.map_singleton]
  by_cases hempty : piece.trim.isEmpty = true
  · rw [if_pos hempty, List.filter_cons_of_neg (by simp [hempty])]
    exact .nil ..
  · rw [if_neg hempty, List.filter_cons_of_pos (by simpa using hempty)]
    obtain ⟨trail, htrail, -⟩ := Text.exists_eq_trim_append piece
    have hlength := congrArg List.length htrail
    have hlabel : before ++ (piece ++ after) =
        before ++ piece.takeWhile isBlank ++ (piece.trim ++ (trail ++ after)) := by
      conv_lhs => rw [htrail]
      simp only [List.append_assoc]
    have hstart : before.length + (piece.takeWhile isBlank).length =
        (before ++ piece.takeWhile isBlank).length := List.length_append.symm
    simp only [List.length_append] at hlength
    rw [hlabel, hstart]
    refine .singleton (by simpa using hempty) ?_ ?_ <;> rw [List.length_append] <;> omega

/-- The columns of the pieces of a label spell those that are not blank. -/
theorem spellsBetween_pieceSpans (hpieces : pieces ≠ []) (before after : Text) :
    SpellsBetween (before ++ (Text.joinWith [','] pieces ++ after)) before.length
      (before.length + (Text.joinWith [','] pieces).length)
      (pieceSpans (before ++ (Text.joinWith [','] pieces ++ after)) before.length pieces)
      (barePieces pieces) := by
  induction pieces generalizing before with
  | nil => exact absurd rfl hpieces
  | cons piece pieces ih =>
    cases pieces with
    | nil =>
      rw [Text.joinWith_singleton, pieceSpans, pieceSpans, List.append_nil]
      exact spellsBetween_trimmedSpan? before piece after
    | cons next pieces =>
      have hbare : barePieces (piece :: next :: pieces) =
          barePieces [piece] ++ barePieces (next :: pieces) := by
        rw [barePieces, ← List.singleton_append, List.map_append, List.filter_append]
        rfl
      -- the first piece and its comma stand in front of the others
      have hrest := ih (List.cons_ne_nil _ _) (before ++ (piece ++ [',']))
      have hpiece := spellsBetween_trimmedSpan? before piece
        ([','] ++ (Text.joinWith [','] (next :: pieces) ++ after))
      rw [Text.joinWith_cons_cons, pieceSpans, hbare]
      simp only [List.append_assoc, List.length_append, List.length_singleton,
        ← Nat.add_assoc] at hrest hpiece ⊢
      exact hpiece.append hrest (by omega) (by omega)

/-! ## The list of a label -/

/-- The parameters of a label are the pieces of the list that its first parenthesis opens. -/
theorem spellsBetween_parameterSpans {front list : Text} (hfront : '(' ∉ front)
    (hlist : Enclosed list) (back : Text) :
    SpellsBetween (front ++ '(' :: (list ++ ')' :: back)) (front.length + 1)
      (front.length + 1 + list.length)
      (parameterSpans (front ++ '(' :: (list ++ ')' :: back)))
      (barePieces (splitTopLevel ',' list)) := by
  have hlabel : front ++ '(' :: (list ++ ')' :: back) =
      front ++ ['('] ++ (list ++ ([')'] ++ back)) := by simp
  have hlength : front.length + 1 = (front ++ ['(']).length := by simp
  obtain ⟨piece, pieces, hsplit⟩ := List.exists_cons_of_ne_nil
    (splitFrom_ne_nil ',' .outermost list)
  have hspans : parameterSpans (front ++ '(' :: (list ++ ')' :: back)) =
      pieceSpans (front ++ '(' :: (list ++ ')' :: back)) (front.length + 1)
        (splitTopLevel ',' list) := by
    rw [parameterSpans, Text.indexFrom?_append hfront]
    simp only [closingParen?_enclosed hlist, Int.toNat_natCast, Text.drop_take_cons]
    refine (spansFrom_eq_pieceSpans hlist.settles hsplit _ _ _).trans ?_
    rw [splitTopLevel, hsplit, pieceSpans]
  have hjoin := joinWith_splitFrom ',' .outermost list
  have hspells := spellsBetween_pieceSpans (splitFrom_ne_nil ',' .outermost list) (front ++ ['('])
    ([')'] ++ back)
  rwa [hjoin, ← hlabel, ← hlength, ← splitTopLevel, ← hspans] at hspells

/-! ## The parameters of a signature -/

/-- There is documentation, or none, for each of the parameters. -/
theorem length_pairDocs (keys : List (Option Text)) (docs : List Text) :
    (pairDocs keys docs).length = keys.length := by
  rw [pairDocs, List.length_map, List.length_zipIdx]

variable (declaration : Text) (description docs : List Text)

/-- The keys of the parameters of a label. -/
def parameterKeys (label : Text) : List (Option Text) :=
  (parameterSpans label).map (spanKey? label)

/-- There is documentation, or none, for each span of the label. -/
theorem length_pairDocs_parameterKeys (label : Text) :
    (pairDocs (parameterKeys label) docs).length = (parameterSpans label).length := by
  rw [length_pairDocs, parameterKeys, List.length_map]

/-- The parameters of a signature have the spans of its label. -/
theorem map_label_build :
    (build declaration description docs).parameters.map ParameterInfo.label =
      (parameterSpans (labelOf declaration)).map fun span => ((span.1 : Int), (span.2 : Int)) := by
  have hzip := List.map_fst_zip (Nat.le_of_eq
    (length_pairDocs_parameterKeys docs (labelOf declaration)).symm)
  conv_rhs => rw [← hzip, List.map_map]
  exact List.map_map

/-- The parameters of a signature have the documentation that is paired with their keys. -/
theorem map_documentation_build :
    (build declaration description docs).parameters.map ParameterInfo.documentation =
      pairDocs (parameterKeys (labelOf declaration)) docs := by
  have hzip := List.map_snd_zip (Nat.le_of_eq
    (length_pairDocs_parameterKeys docs (labelOf declaration)))
  conv_rhs => rw [← hzip]
  exact List.map_map

variable {declaration}

/-- A signature spells what the spans of its label spell. -/
theorem spells_build {first last : Nat} {texts : List Text}
    (h : SpellsBetween (labelOf declaration) first last (parameterSpans (labelOf declaration))
      texts) (hlast : last ≤ (labelOf declaration).length) :
    (build declaration description docs).Spells texts := by
  have hmap := map_label_build declaration description docs
  have hmem (p : ParameterInfo) (hp : p ∈ (build declaration description docs).parameters) :
      ∃ span ∈ parameterSpans (labelOf declaration),
        p.label = ((span.1 : Int), (span.2 : Int)) := by
    have := List.mem_map_of_mem (f := ParameterInfo.label) hp
    rw [hmap] at this
    obtain ⟨span, hspan, heq⟩ := List.mem_map.1 this
    exact ⟨span, hspan, heq.symm⟩
  refine ⟨?_, fun p hp => ?_, fun p hp => ?_, ?_⟩
  · have hslices := congrArg (List.map fun span : Int × Int =>
      (labelOf declaration).slice span.1 span.2) hmap
    rw [List.map_map, List.map_map] at hslices
    exact hslices.trans h.slices
  · obtain ⟨span, hspan, heq⟩ := hmem p hp
    rw [heq]
    exact Int.ofNat_lt.2 (h.nonempty span hspan)
  · obtain ⟨span, hspan, heq⟩ := hmem p hp
    rw [heq]
    exact ⟨Int.natCast_nonneg _, Int.ofNat_le.2 (Nat.le_trans (h.le_last span hspan) hlast)⟩
  · have happart : ((build declaration description docs).parameters.map
        ParameterInfo.label).Pairwise fun span later => span.2 < later.1 := by
      rw [hmap, List.pairwise_map]
      exact h.apart.imp Int.ofNat_lt.2
    exact List.pairwise_map.1 happart

end Signature

end BlitzLens
