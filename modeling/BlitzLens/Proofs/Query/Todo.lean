import BlitzLens.Proofs.Line.Comment
import BlitzLens.Proofs.Query.Tokens
import BlitzLens.Query.Todo

/-!
# Tagged comments

A comment carries a tag if it starts with semicolons and perhaps blanks, and the tag stands behind
them (`Todo.Carries`). Where every tag starts with a word character, no tag can stand among the
semicolons and blanks, so there is one column at which a tag is looked for, and the comment is found
if a word ends there or starts there, but not both (`Todo.ofLine?_isSome_iff`). For a tag that ends
with a word character this means that no word character follows it. For any other tag it means that
one does.

## Main definitions

* `Todo.Carries`: the comment of a line carries a tag.
* `Todo.Marks`: the item of a comment that carries a tag.

## Main results

* `Todo.ofLine?_eq_map_tagAt?`: a tag is looked for at one column.
* `Todo.find_words`: which lines have items, and what the items say.
-/

namespace BlitzLens

open Line

namespace Todo

variable {tags : List Text} {line tag behind : Text} {start column number : Nat} {todo : Todo}

/-- The comment of a line carries a tag at a column: it starts with semicolons and perhaps blanks,
behind which the tag stands, and `behind` goes on behind the tag. -/
def Carries (line : Text) (column : Nat) (tag behind : Text) : Prop :=
  ∃ start semicolons blanks, commentStart? line = some start ∧
    line.drop start = semicolons ++ (blanks ++ (tag ++ behind)) ∧
    semicolons ≠ [] ∧ (∀ c ∈ semicolons, c = ';') ∧ (∀ c ∈ blanks, isBlank c = true) ∧
    column = start + (semicolons.length + blanks.length)

/-- What is left of a text without one leading colon. -/
def withoutColon (text : Text) : Text :=
  if text.head? == some ':' then text.drop 1 else text

/-- An item is that of a line whose comment carries its tag: it tells where the tag stands, and what
goes on behind the tag and perhaps a colon. -/
structure Marks (todo : Todo) (number : Nat) (line : Text) (column : Nat) (behind : Text) : Prop
    where
  /-- It has the number of the line. -/
  line_eq : todo.line = number
  /-- It has the column of the tag. -/
  character_eq : todo.character = column
  /-- The comment of the line carries the tag. -/
  carries : Carries line column todo.tag behind
  /-- The line shows the tag at the column of the item. -/
  slice_eq : line.slice todo.character (todo.character + todo.tag.length) = todo.tag
  /-- Its text is what goes on behind the tag, without a colon and surrounding blanks. -/
  text_eq : todo.text = Text.trim (withoutColon behind)

/-! ## A tag at a column -/

/-- What starts with a word is not empty. -/
theorem ne_nil_of_startsWord (h : Text.startsWord tag = true) : tag ≠ [] := by
  rintro rfl
  cases h

/-- A word ends or starts behind a piece of a line according to what the piece ends with and what
goes on behind it. -/
theorem isBoundary_eq (hdrop : line.drop column = tag ++ behind) (htag : tag ≠ []) :
    isBoundary line (column + tag.length) = (Text.endsWord tag != Text.startsWord behind) := by
  have htake : line.take (column + tag.length) = line.take column ++ tag := by
    rw [List.take_add, hdrop, List.take_left]
  have hrest : line.drop (column + tag.length) = behind := by
    rw [← List.drop_drop, hdrop, List.drop_left]
  have hends : wordEndsAt line (column + tag.length) = Text.endsWord tag := by
    rw [wordEndsAt, htake]
    exact Text.endsWord_append htag
  rw [isBoundary, hends, wordStartsAt, hrest]
  rfl

/-- A tag is found at a column if the line goes on with it and a word ends or starts behind it. -/
theorem fits_iff (htag : tag ≠ []) :
    (tag.isPrefixOf (line.drop column) && isBoundary line (column + tag.length)) = true ↔
      ∃ behind, line.drop column = tag ++ behind ∧
        Text.endsWord tag ≠ Text.startsWord behind := by
  rw [Bool.and_eq_true, List.isPrefixOf_iff_prefix]
  constructor
  · rintro ⟨⟨behind, hdrop⟩, hboundary⟩
    rw [isBoundary_eq hdrop.symm htag] at hboundary
    exact ⟨behind, hdrop.symm, bne_iff_ne.1 hboundary⟩
  · rintro ⟨behind, hdrop, hboundary⟩
    rw [isBoundary_eq hdrop htag]
    exact ⟨⟨behind, hdrop.symm⟩, bne_iff_ne.2 hboundary⟩

/-- Where no word starts, no tag that starts with a word character is found. -/
theorem tagAt?_eq_none (hwords : ∀ tag ∈ tags, Text.startsWord tag = true)
    (h : Text.startsWord (line.drop column) = false) : tagAt? tags line column = none := by
  rw [tagAt?, List.find?_eq_none]
  intro tag hmem hfits
  have hword := hwords tag hmem
  obtain ⟨behind, hdrop, -⟩ := (fits_iff (ne_nil_of_startsWord hword)).1 hfits
  rw [hdrop, Text.startsWord_append (ne_nil_of_startsWord hword), hword] at h
  cases h

/-! ## The start of a comment -/

/-- What is left of a comment without its semicolons and the blanks that follow them. -/
def body (comment : Text) : Text :=
  (comment.dropWhile (· == ';')).dropWhile isBlank

/-- A comment is semicolons, blanks and its body. -/
theorem exists_lead {comment : Text} (h : comment.head? = some ';') :
    ∃ semicolons blanks, comment = semicolons ++ (blanks ++ body comment) ∧ semicolons ≠ [] ∧
      (∀ c ∈ semicolons, c = ';') ∧ ∀ c ∈ blanks, isBlank c = true := by
  refine ⟨comment.takeWhile (· == ';'), (comment.dropWhile (· == ';')).takeWhile isBlank,
    ?_, ?_, ?_, ?_⟩
  · rw [body, List.takeWhile_append_dropWhile, List.takeWhile_append_dropWhile]
  · cases comment with
    | nil => cases h
    | cons c comment =>
      obtain rfl : c = ';' := by simpa using h
      simp
  · intro c hc
    simpa using List.mem_takeWhile_imp hc
  · intro c hc
    exact List.mem_takeWhile_imp hc

/-- What stands behind semicolons and blanks is the body, if a word starts there. -/
theorem body_append {semicolons blanks rest : Text} (hsemicolons : ∀ c ∈ semicolons, c = ';')
    (hblanks : ∀ c ∈ blanks, isBlank c = true) (hrest : Text.startsWord rest = true) :
    body (semicolons ++ (blanks ++ rest)) = rest := by
  obtain ⟨c, rest, rfl⟩ := List.exists_cons_of_ne_nil (ne_nil_of_startsWord hrest)
  rw [Text.startsWord_cons] at hrest
  have hc : isBlank c = false := isBlank_of_isWordChar hrest
  -- neither the blanks nor the word go on with a semicolon
  have hnext : (blanks ++ c :: rest).dropWhile (· == ';') = blanks ++ c :: rest := by
    cases blanks with
    | nil =>
      refine List.dropWhile_cons_of_neg ?_
      rw [beq_iff_eq]
      rintro rfl
      revert hrest
      decide
    | cons blank blanks =>
      refine List.dropWhile_cons_of_neg ?_
      rw [beq_iff_eq]
      rintro rfl
      have hblank := hblanks ';' List.mem_cons_self
      revert hblank
      decide
  rw [body, List.dropWhile_append_of_pos fun c hc => beq_iff_eq.2 (hsemicolons c hc), hnext,
    List.dropWhile_append_of_pos hblanks, List.dropWhile_cons_of_neg (by simp [hc])]

/-- The column of the body lies behind the semicolons and the blanks. -/
theorem bodyColumn_eq {lead : Text} (h : line.drop start = lead ++ body (line.drop start)) :
    bodyColumn line start = start + lead.length := by
  change start + ((line.drop start).length - (body (line.drop start)).length) = _
  have hlength := congrArg List.length h
  rw [List.length_append] at hlength
  omega

/-- The body starts at its column. -/
theorem drop_bodyColumn (line : Text) (start : Nat) :
    line.drop (bodyColumn line start) = body (line.drop start) := by
  have hsuffix : body (line.drop start) <:+ line.drop start :=
    (List.dropWhile_suffix _).trans (List.dropWhile_suffix _)
  obtain ⟨lead, hlead⟩ := hsuffix
  rw [bodyColumn_eq hlead.symm, ← List.drop_drop]
  conv_lhs => rw [← hlead]
  exact List.drop_left

/-- A comment carries a tag that starts with a word character exactly if the tag stands at the start
of its body. -/
theorem carries_iff (hword : Text.startsWord tag = true) :
    Carries line column tag behind ↔ ∃ start, commentStart? line = some start ∧
      column = bodyColumn line start ∧ line.drop column = tag ++ behind := by
  constructor
  · rintro ⟨start, semicolons, blanks, hstart, hdrop, -, hsemicolons, hblanks, rfl⟩
    have hrest : Text.startsWord (tag ++ behind) = true := by
      rwa [Text.startsWord_append (ne_nil_of_startsWord hword)]
    have hbody : body (line.drop start) = tag ++ behind := by
      rw [hdrop, body_append hsemicolons hblanks hrest]
    have hcolumn : bodyColumn line start = start + (semicolons ++ blanks).length :=
      bodyColumn_eq (by rw [hbody, hdrop, List.append_assoc])
    rw [List.length_append] at hcolumn
    exact ⟨start, hstart, hcolumn.symm, by rw [← hcolumn, drop_bodyColumn, hbody]⟩
  · rintro ⟨start, hstart, rfl, hdrop⟩
    obtain ⟨semicolons, blanks, hcomment, hne, hsemicolons, hblanks⟩ :=
      exists_lead (head?_drop_semicolonFrom? hstart)
    rw [drop_bodyColumn] at hdrop
    refine ⟨start, semicolons, blanks, hstart, ?_, hne, hsemicolons, hblanks, ?_⟩
    · rw [← hdrop]
      exact hcomment
    · rw [← List.length_append]
      exact bodyColumn_eq (by rw [List.append_assoc]; exact hcomment)

/-! ## The item of a line -/

/-- No tag is found behind columns at none of which a tag is found. -/
theorem lastTagged?_eq_none {count : Nat}
    (h : ∀ back < count, tagAt? tags line (start + (back + 1)) = none) :
    lastTagged? tags line start count = none := by
  induction count with
  | zero => rfl
  | succ count ih =>
    rw [lastTagged?, h count (Nat.lt_succ_self count)]
    exact ih fun back hback => h back (Nat.lt_succ_of_lt hback)

/-- A tag is looked for at the start of the body of the comment, and nowhere else. -/
theorem ofLine?_eq_map_tagAt? (hwords : ∀ tag ∈ tags, Text.startsWord tag = true)
    (hstart : commentStart? line = some start) (number : Nat) :
    ofLine? tags number line = (tagAt? tags line (bodyColumn line start)).map fun tag =>
      ⟨number, bodyColumn line start, tag,
        Text.trim (withoutColon (line.drop (bodyColumn line start + tag.length)))⟩ := by
  obtain ⟨semicolons, blanks, hcomment, hne, hsemicolons, hblanks⟩ :=
    exists_lead (head?_drop_semicolonFrom? hstart)
  rw [← List.append_assoc] at hcomment
  have hcolumn := bodyColumn_eq hcomment
  -- the semicolons and the blanks belong to no word
  have hlead : ∀ c ∈ semicolons ++ blanks, isWordChar c = false := by
    intro c hc
    rcases List.mem_append.1 hc with hc | hc
    · rw [hsemicolons c hc]
      decide
    · exact isWordChar_of_isBlank (hblanks c hc)
  have hfront : ∀ back < (semicolons ++ blanks).length,
      tagAt? tags line (start + back) = none := by
    intro back hback
    refine tagAt?_eq_none hwords ?_
    rw [← List.drop_drop, hcomment, List.drop_append_of_le_length (Nat.le_of_lt hback),
      List.drop_eq_getElem_cons hback, List.cons_append, Text.startsWord_cons]
    exact hlead _ (List.getElem_mem hback)
  obtain ⟨count, hcount⟩ : ∃ count, (semicolons ++ blanks).length = count + 1 :=
    Nat.exists_eq_add_one.2 (List.length_pos_of_ne_nil (List.append_ne_nil_of_left_ne_nil hne _))
  have hlast : lastTagged? tags line start (bodyColumn line start - start) =
      (tagAt? tags line (bodyColumn line start)).map fun tag => (bodyColumn line start, tag) := by
    rw [hcolumn, Nat.add_sub_cancel_left, hcount, lastTagged?]
    cases tagAt? tags line (start + (count + 1)) with
    | some tag => rfl
    | none => exact lastTagged?_eq_none fun back hback => hfront (back + 1) (by omega)
  rw [ofLine?, hstart]
  change (lastTagged? tags line start (bodyColumn line start - start)).bind _ = _
  rw [hlast]
  cases tagAt? tags line (bodyColumn line start) <;> rfl

/-- A line without a comment has no item. -/
theorem ofLine?_of_no_comment (h : commentStart? line = none) :
    ofLine? tags number line = none := by
  rw [ofLine?, h]
  rfl

/-- The item of a line marks a comment that carries one of the tags, and a word ends or starts
behind the tag. -/
theorem marks_of_ofLine? (hwords : ∀ tag ∈ tags, Text.startsWord tag = true)
    (h : ofLine? tags number line = some todo) :
    ∃ column behind, todo.Marks number line column behind ∧ todo.tag ∈ tags ∧
      Text.endsWord todo.tag ≠ Text.startsWord behind := by
  cases hstart : commentStart? line with
  | none =>
    rw [ofLine?_of_no_comment hstart] at h
    cases h
  | some start =>
    rw [ofLine?_eq_map_tagAt? hwords hstart] at h
    obtain ⟨tag, htag, rfl⟩ := Option.map_eq_some_iff.1 h
    have hmem : tag ∈ tags := List.mem_of_find?_eq_some htag
    have hword := hwords tag hmem
    have hfits := List.find?_some htag
    obtain ⟨behind, hdrop, hboundary⟩ := (fits_iff (ne_nil_of_startsWord hword)).1 hfits
    refine ⟨bodyColumn line start, behind, ⟨rfl, rfl, ?_, ?_, ?_⟩, hmem, hboundary⟩
    · exact (carries_iff hword).2 ⟨start, hstart, rfl, hdrop⟩
    · change line.slice ((bodyColumn line start : Nat) : Int)
        ((bodyColumn line start : Nat) + (tag.length : Nat)) = tag
      rw [← Int.natCast_add, Text.slice_natCast, hdrop, Nat.add_sub_cancel_left, List.take_left]
    · change Text.trim (withoutColon (line.drop (bodyColumn line start + tag.length))) = _
      rw [← List.drop_drop, hdrop, List.drop_left]

/-- A line has an item exactly if its comment carries one of the tags, and a word ends or starts
behind the tag. -/
theorem ofLine?_isSome_iff (hwords : ∀ tag ∈ tags, Text.startsWord tag = true) :
    (ofLine? tags number line).isSome = true ↔ ∃ tag ∈ tags, ∃ column behind,
      Carries line column tag behind ∧ Text.endsWord tag ≠ Text.startsWord behind := by
  constructor
  · intro h
    obtain ⟨todo, htodo⟩ := Option.isSome_iff_exists.1 h
    obtain ⟨column, behind, hmarks, hmem, hboundary⟩ := marks_of_ofLine? hwords htodo
    exact ⟨todo.tag, hmem, column, behind, hmarks.carries, hboundary⟩
  · rintro ⟨tag, hmem, column, behind, hcarries, hboundary⟩
    have hword := hwords tag hmem
    obtain ⟨start, hstart, rfl, hdrop⟩ := (carries_iff hword).1 hcarries
    rw [ofLine?_eq_map_tagAt? hwords hstart, Option.isSome_map, tagAt?, List.find?_isSome]
    exact ⟨tag, hmem, (fits_iff (ne_nil_of_startsWord hword)).2 ⟨behind, hdrop, hboundary⟩⟩

/-! ## The items of a text -/

/-- The items of a text are those of its lines. -/
theorem mem_find_iff {text : Text} :
    todo ∈ find text tags ↔ ∃ number line, text.lines[number]? = some line ∧
      ofLine? tags number line = some todo := by
  rw [find, List.mem_filterMap]
  constructor
  · rintro ⟨⟨line, number⟩, hmem, htodo⟩
    exact ⟨number, line, List.mem_zipIdx_iff_getElem?.1 hmem, htodo⟩
  · rintro ⟨number, line, hline, htodo⟩
    exact ⟨(line, number), List.mem_zipIdx_iff_getElem?.2 hline, htodo⟩

/-- The item of a line has the number of the line. -/
theorem line_of_ofLine? (h : ofLine? tags number line = some todo) : todo.line = number := by
  obtain ⟨start, -, h⟩ := Option.bind_eq_some_iff.1 h
  obtain ⟨⟨column, tag⟩, -, h⟩ := Option.bind_eq_some_iff.1 h
  cases h
  rfl

/-- The items come line by line, and no line has two. -/
theorem pairwise_find (text : Text) (tags : List Text) :
    (find text tags).Pairwise fun a b => a.line < b.line := by
  refine List.pairwise_filterMap.2 ((Highlight.pairwise_zipIdx text.lines).imp ?_)
  rintro ⟨line, number⟩ ⟨line', number'⟩ hlt todo htodo todo' htodo'
  rw [line_of_ofLine? htodo, line_of_ofLine? htodo']
  exact Int.ofNat_lt.2 hlt

/-- A line of a text has an item exactly if it has one by itself. -/
theorem exists_mem_find_iff {text : Text} (hline : text.lines[number]? = some line) :
    (∃ todo ∈ find text tags, todo.line = number) ↔ (ofLine? tags number line).isSome = true := by
  rw [Option.isSome_iff_exists]
  constructor
  · rintro ⟨todo, hmem, hnumber⟩
    obtain ⟨number', line', hline', htodo⟩ := mem_find_iff.1 hmem
    -- the item has the number of one line only
    obtain rfl : number' = number := Int.ofNat.inj ((line_of_ofLine? htodo).symm.trans hnumber)
    rw [hline, Option.some.injEq] at hline'
    exact ⟨todo, hline' ▸ htodo⟩
  · rintro ⟨todo, htodo⟩
    exact ⟨todo, mem_find_iff.2 ⟨number, line, hline, htodo⟩, line_of_ofLine? htodo⟩

/-- **Tagged comments are found.** Take any text, and tags that start with word characters. A line
of the text has an item exactly if its comment carries one of the tags, and either the tag ends with
a word character and none follows it, or the tag ends with another character and a word character
follows. So if all tags end with word characters, these are the lines whose comments carry a tag
that no word character follows. The items come line by line, at most one for a line, and each marks
the comment of its line with one of the tags. -/
theorem find_words {text : Text} (hwords : ∀ tag ∈ tags, Text.startsWord tag = true) :
    (∀ (number : Nat) (line : Text), text.lines[number]? = some line →
      ((∃ todo ∈ find text tags, todo.line = number) ↔ ∃ tag ∈ tags, ∃ column behind,
        Carries line column tag behind ∧ Text.endsWord tag ≠ Text.startsWord behind)) ∧
    ((∀ tag ∈ tags, Text.endsWord tag = true) →
      ∀ (number : Nat) (line : Text), text.lines[number]? = some line →
        ((∃ todo ∈ find text tags, todo.line = number) ↔ ∃ tag ∈ tags, ∃ column behind,
          Carries line column tag behind ∧ Text.startsWord behind = false)) ∧
    (find text tags).Pairwise (fun a b => a.line < b.line) ∧
    ∀ todo ∈ find text tags, todo.tag ∈ tags ∧ ∃ number line column behind,
      text.lines[number]? = some line ∧ todo.Marks number line column behind := by
  have hitems : ∀ (number : Nat) (line : Text), text.lines[number]? = some line →
      ((∃ todo ∈ find text tags, todo.line = number) ↔ ∃ tag ∈ tags, ∃ column behind,
        Carries line column tag behind ∧ Text.endsWord tag ≠ Text.startsWord behind) := by
    intro number line hline
    rw [exists_mem_find_iff hline, ofLine?_isSome_iff hwords]
  refine ⟨hitems, ?_, pairwise_find text tags, ?_⟩
  · intro hends number line hline
    rw [hitems number line hline]
    refine exists_congr fun tag => and_congr_right fun hmem => ?_
    simp [hends tag hmem]
  · intro todo hmem
    obtain ⟨number, line, hline, htodo⟩ := mem_find_iff.1 hmem
    obtain ⟨column, behind, hmarks, htag, -⟩ := marks_of_ofLine? hwords htodo
    exact ⟨htag, number, line, column, behind, hline, hmarks⟩

/-- A tag in a comment of two semicolons has an item, a longer word and a string do not. -/
theorem find_words_default :
    let text : Text := "x = 1 ;; TODO: rest\n; TODOS\nPrint \"; FIXME\""
    (find text defaultTags).map (fun todo => (todo.line, todo.character, todo.text)) =
        [(0, 9, "rest".toList)] ∧
      (∃ tag ∈ defaultTags, ∃ column behind,
        Carries "x = 1 ;; TODO: rest" column tag behind ∧ Text.startsWord behind = false) ∧
      (¬∃ tag ∈ defaultTags, ∃ column behind,
        Carries "; TODOS" column tag behind ∧ Text.startsWord behind = false) ∧
      ∀ todo ∈ find text defaultTags, todo.tag ∈ defaultTags ∧ ∃ number line column behind,
        text.lines[number]? = some line ∧ todo.Marks number line column behind := by
  intro text
  have hfind : (find text defaultTags).map (fun todo => (todo.line, todo.character, todo.text)) =
      [(0, 9, "rest".toList)] := by decide +kernel
  have hlines : ∀ todo ∈ find text defaultTags, todo.line = 0 := by decide +kernel
  have hwords : ∀ tag ∈ defaultTags, Text.startsWord tag = true := by decide +kernel
  obtain ⟨-, hitems, -, hmarks⟩ := @find_words defaultTags text hwords
  have hends : ∀ tag ∈ defaultTags, Text.endsWord tag = true := by decide +kernel
  refine ⟨hfind, ?_, ?_, hmarks⟩
  · refine (hitems hends 0 _ (by decide +kernel)).1 ?_
    cases hfound : find text defaultTags with
    | nil =>
      rw [hfound] at hfind
      cases hfind
    | cons todo todos =>
      exact ⟨todo, List.mem_cons_self, hlines todo (hfound ▸ List.mem_cons_self)⟩
  · intro h
    obtain ⟨todo, hmem, hnumber⟩ := (hitems hends 1 _ (by decide +kernel)).2 h
    rw [hlines todo hmem] at hnumber
    cases hnumber

/-- A tag that ends with a punctuation mark is not found in front of a blank. -/
theorem find_words_punctuation :
    ¬∀ (text : Text) (tags : List Text), tags ≠ [] →
      (∀ tag ∈ tags, Text.startsWord tag = true ∧ '\n' ∉ tag ∧ '\r' ∉ tag) →
      ∀ (number : Nat) (line : Text), text.lines[number]? = some line →
        ((∃ todo ∈ find text tags, todo.line = number) ↔ ∃ tag ∈ tags, ∃ column behind,
          Carries line column tag behind ∧ Text.startsWord behind = false) := by
  intro h
  have hitems := h "; TODO! fix" ["TODO!"] (by decide) (by decide +kernel) 0 "; TODO! fix"
    (by decide +kernel)
  have hnone : find "; TODO! fix" ["TODO!"] = [] := by decide +kernel
  have hcarries : Carries "; TODO! fix" 2 "TODO!" " fix" := by
    refine ⟨0, [';'], [' '], by decide +kernel, by decide +kernel, by decide, ?_, ?_, rfl⟩
    · simp
    · intro c hc
      obtain rfl := List.mem_singleton.1 hc
      decide
  obtain ⟨todo, hmem, -⟩ := hitems.2 ⟨_, List.mem_singleton_self _, 2, _, hcarries, by decide⟩
  rw [hnone] at hmem
  cases hmem

end Todo

end BlitzLens
