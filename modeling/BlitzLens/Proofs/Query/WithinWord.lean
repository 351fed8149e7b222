import BlitzLens.Proofs.Query.Completion
import BlitzLens.Proofs.Query.Everything
import BlitzLens.Proofs.Query.Hover

/-!
# Completion within a word

Completion reads the line up to the start of the word that the caret is in, so it offers the same
from every character of a word of the code, and from behind the last one, unless the comment starts
right there. Definition starts from the same place, and behind a field marker the two look at the
fields of one type.

## Main definitions

* `Completion.OffersFrom`: what is offered for a word, by what stands left of it.
* `Position.IsBehindMarker`: a position on a word of the code behind a field marker.

## Main results

* `complete_within_word`: what is offered from the characters and from the end of a word.
* `definition_agrees_complete`: definition finds the field that completion offers under the name.
-/

namespace BlitzLens

open Line

variable {symbols : List Symbol} {stubs : StubTable} {path : Text} {lines : List Text}
  {position : Position} {line text : Text} {column start marker : Nat} {number : Int}
  {trigger : Option Text} {brackets : Bool}

/-! ## What completion reads -/

/-- From a caret inside a word or at one of its ends, the word is read back to its start. -/
theorem Line.StandsAt.wordStart_eq (h : StandsAt line start text) (hword : Text.IsWord text)
    (hstart : start ≤ column) (hstop : column ≤ start + text.length) :
    Completion.wordStart line (column : Int) = (start : Nat) := by
  obtain ⟨before, after, rfl, rfl, hbefore, -⟩ := h.exists_append
  obtain ⟨cut, rfl⟩ := Nat.exists_eq_add_of_le hstart
  -- left of the caret stands a part of the word
  have htake : (before ++ (text ++ after)).take (before.length + cut) =
      before ++ text.take cut := by
    rw [List.take_length_add_append, List.take_append_of_le_length (by omega)]
  exact Completion.wordStart_eq htake hbefore fun c hc =>
    hword.all_word c (List.mem_of_mem_take hc)

/-- In strings and comments nothing is offered. -/
theorem complete_of_not_isCode (hline : position.lineOf? lines = some line)
    (hcolumn : min position.character (line.length : Int) = column)
    (hcode : isCode line (column : Int) = false) :
    complete symbols stubs path lines position trigger brackets = .ok [] := by
  rw [complete, hline]
  dsimp only
  rw [hcolumn, hcode]
  rfl

/-- What is offered for a word that starts at a column, by what stands left of it: fields behind a
field marker, types where one is introduced, and anything elsewhere. -/
inductive Completion.OffersFrom (symbols : List Symbol) (stubs : StubTable) (path : Text)
    (number : Int) (line : Text) (start : Nat) (trigger : Option Text) (brackets : Bool) :
    List CompletionItem → Prop
  | fields {marker : Nat} {owner : Option RecordType}
      (hmarker : Scope.memberMarker? line (start : Int) = .ok (some marker))
      (howner : Scope.memberOwner? symbols path number line (marker : Int) = .ok owner) :
      OffersFrom symbols stubs path number line start trigger brackets
        ((owner.map fun t => t.fields.map ofVariable).getD [])
  | markerTyped (hmarker : Scope.memberMarker? line (start : Int) = .ok none)
      (htrigger : trigger = some ['\\']) :
      OffersFrom symbols stubs path number line start trigger brackets []
  | types (hmarker : Scope.memberMarker? line (start : Int) = .ok none)
      (htrigger : trigger ≠ some ['\\'])
      (htype : Guard.introducesType (line.upTo (start : Int)) = true)
      (hpoint : (opensLabel (line.upTo (start : Int)) ||
        endsWithDecimalPoint (line.upTo (start : Int))) = false) :
      OffersFrom symbols stubs path number line start trigger brackets
        ((symbols.filterMap Symbol.asType?).map ofType)
  | point (hmarker : Scope.memberMarker? line (start : Int) = .ok none)
      (htrigger : trigger ≠ some ['\\'])
      (htype : Guard.introducesType (line.upTo (start : Int)) = true)
      (hpoint : (opensLabel (line.upTo (start : Int)) ||
        endsWithDecimalPoint (line.upTo (start : Int))) = true) :
      OffersFrom symbols stubs path number line start trigger brackets []
  | anything (hmarker : Scope.memberMarker? line (start : Int) = .ok none)
      (htrigger : trigger ≠ some ['\\'])
      (htype : Guard.introducesType (line.upTo (start : Int)) = false) :
      OffersFrom symbols stubs path number line start trigger brackets
        (everything symbols stubs path number brackets)

/-- In the code, completion succeeds with what is offered for the word. -/
theorem Completion.exists_offersFrom (hline : position.lineOf? lines = some line)
    (hcolumn : min position.character (line.length : Int) = column)
    (hcode : isCode line (column : Int) = true)
    (hstart : wordStart line (column : Int) = (start : Nat)) (hinside : start ≤ line.length) :
    ∃ items, complete symbols stubs path lines position trigger brackets = .ok items ∧
      OffersFrom symbols stubs path position.line line start trigger brackets items := by
  obtain ⟨marker, hmarker, hle⟩ := Scope.exists_memberMarker? hinside
  cases marker with
  | some marker =>
    obtain ⟨owner, howner⟩ := Scope.exists_memberOwner?
      (Nat.le_trans (hle marker rfl) hinside) symbols path position.line
    exact ⟨_, complete_of_member hline hcolumn hcode hstart hmarker howner,
      .fields hmarker howner⟩
  | none =>
    rw [complete, hline]
    dsimp only
    rw [hcolumn, hcode, hstart, hmarker]
    change ∃ items, (if (trigger == some ['\\']) = true then Except.ok []
      else if Guard.introducesType (line.upTo (start : Int)) = true then
        if (opensLabel (line.upTo (start : Int)) ||
            endsWithDecimalPoint (line.upTo (start : Int))) = true then Except.ok []
        else Except.ok ((symbols.filterMap Symbol.asType?).map ofType)
      else Except.ok (everything symbols stubs path position.line brackets)) =
        Except.ok items ∧ _
    split_ifs with htrigger htype hpoint
    · exact ⟨_, rfl, .markerTyped hmarker (beq_iff_eq.1 htrigger)⟩
    · exact ⟨_, rfl, .point hmarker (fun h => htrigger (beq_iff_eq.2 h)) htype hpoint⟩
    · exact ⟨_, rfl, .types hmarker (fun h => htrigger (beq_iff_eq.2 h)) htype
        (Bool.eq_false_iff.2 hpoint)⟩
    · exact ⟨_, rfl, .anything hmarker (fun h => htrigger (beq_iff_eq.2 h))
        (Bool.eq_false_iff.2 htype)⟩

/-- Of the column, completion reads whether it is in the code and where the word starts. -/
theorem complete_congr {column' : Nat}
    (hline : (⟨number, column⟩ : Position).lineOf? lines = some line)
    (hcolumn : column ≤ line.length) (hcolumn' : column' ≤ line.length)
    (hcode : isCode line (column : Int) = isCode line (column' : Int))
    (hstart : Completion.wordStart line (column : Int) = Completion.wordStart line column') :
    complete symbols stubs path lines ⟨number, column⟩ trigger brackets =
      complete symbols stubs path lines ⟨number, column'⟩ trigger brackets := by
  have hline' : (⟨number, column'⟩ : Position).lineOf? lines = some line := hline
  -- neither column is cut down to the end of the line
  have hmin : min (column : Int) line.length = column := by omega
  have hmin' : min (column' : Int) line.length = column' := by omega
  rw [complete, complete, hline, hline']
  dsimp only
  rw [hmin, hmin', hcode, hstart]

/-! ## The caret in a word -/

/-- From every character of a word of the code completion offers the same, which what stands left of
the word decides. From behind the last character it does so too, unless the comment starts there:
then it offers nothing. -/
theorem complete_within_word (h : StandsAt line start text) (hword : Text.IsWord text)
    (hcode : isCode line (start : Int) = true)
    (hline : (⟨number, start⟩ : Position).lineOf? lines = some line) (symbols : List Symbol)
    (stubs : StubTable) (path : Text) (trigger : Option Text) (brackets : Bool) :
    ∃ items, Completion.OffersFrom symbols stubs path number line start trigger brackets items ∧
      (∀ column : Nat, start ≤ column → column < start + text.length →
        complete symbols stubs path lines ⟨number, column⟩ trigger brackets = .ok items) ∧
      complete symbols stubs path lines ⟨number, (start + text.length : Nat)⟩ trigger brackets =
        .ok (if commentStart? line = some (start + text.length) then [] else items) := by
  have hinside := h.inside
  have hcolumn : min (start : Int) (line.length : Int) = start := by omega
  have hfirst := h.wordStart_eq hword (Nat.le_refl start) (Nat.le_add_right start text.length)
  obtain ⟨items, hitems, hoffers⟩ : ∃ items,
      complete symbols stubs path lines ⟨number, start⟩ trigger brackets = .ok items ∧
        Completion.OffersFrom symbols stubs path number line start trigger brackets items :=
    Completion.exists_offersFrom hline hcolumn hcode hfirst (by omega)
  -- in the code, the caret may be moved to the start of the word
  have hmove (column : Nat) (hstart : start ≤ column) (hstop : column ≤ start + text.length)
      (hcolumn : isCode line (column : Int) = true) :
      complete symbols stubs path lines ⟨number, column⟩ trigger brackets = .ok items := by
    rw [← hitems]
    refine complete_congr hline (by omega) (by omega) (hcolumn.trans hcode.symm) ?_
    rw [h.wordStart_eq hword hstart hstop, hfirst]
  refine ⟨items, hoffers, fun column hstart hstop => ?_, ?_⟩
  · -- on a character of the word the comment cannot start
    have hcaret : CaretOn line column start text := ⟨h, hword, hstart, hstop⟩
    exact hmove column hstart (Nat.le_of_lt hstop) (hcaret.isCode_eq.trans hcode)
  · have hiff := h.isCode_iff hword hcode (Nat.le_add_right start text.length) (Nat.le_refl _)
    split_ifs with hcomment
    · have hcolumn : min ((start + text.length : Nat) : Int) line.length =
          (start + text.length : Nat) := by omega
      refine complete_of_not_isCode hline hcolumn (Bool.eq_false_iff.2 fun hend => ?_)
      exact hiff.1 hend hcomment
    · exact hmove _ (Nat.le_add_right start text.length) (Nat.le_refl _) (hiff.2 hcomment)

/-- A name that is written in part is completed alike from its start, from its middle and from its
end, which is the end of the line. -/
theorem complete_within_word_typed :
    let disk := Disk.ofFile "lib.bb" [] 1
    let rules : IncludeRules := ⟨[], true, 2⟩
    let text : Text := "Global food\nPrint fo"
    ∃ found items, (extract disk rules "main.bb" text).1 = .ok found ∧
      items.map CompletionItem.label = ["food".toList] ∧
      ∀ column : Nat, 6 ≤ column → column ≤ 8 →
        complete found ⟨[]⟩ "main.bb" text.lines ⟨1, column⟩ none false = .ok items := by
  intro disk rules text
  have hok : (extract disk rules "main.bb" text).1.isOk = true := by decide +kernel
  have hlabels : ∀ found ∈ (extract disk rules "main.bb" text).1.toOption,
      ∀ items ∈ (complete found ⟨[]⟩ "main.bb" text.lines ⟨1, 6⟩ none false).toOption,
        items.map CompletionItem.label = ["food".toList] := by decide +kernel
  have hcode : isCode "Print fo" ((6 : Nat) : Int) = true := by decide +kernel
  have hline : (⟨1, ((6 : Nat) : Int)⟩ : Position).lineOf? text.lines = some "Print fo".toList := by
    decide +kernel
  have hcomment : ¬commentStart? "Print fo" = some (6 + "fo".toList.length) := by decide +kernel
  have hstands : StandsAt "Print fo" 6 "fo" :=
    ⟨by decide +kernel, by decide +kernel, by decide +kernel, by decide +kernel⟩
  have hword : Text.IsWord "fo" := ⟨by decide +kernel, List.all_eq_true.1 (by decide +kernel)⟩
  obtain ⟨found, hfound⟩ := exists_eq_ok_of_isOk hok
  rw [hfound] at hlabels
  obtain ⟨items, -, hinside, hend⟩ :=
    complete_within_word hstands hword hcode hline found ⟨[]⟩ "main.bb" none false
  have hfirst : complete found ⟨[]⟩ "main.bb" text.lines ⟨1, 6⟩ none false = .ok items :=
    hinside 6 (Nat.le_refl 6) (by decide +kernel)
  refine ⟨found, items, hfound, hlabels found rfl items (by rw [hfirst]; rfl), ?_⟩
  intro column hstart hstop
  rcases Nat.lt_or_eq_of_le hstop with hlt | rfl
  · exact hinside column hstart hlt
  · rwa [if_neg hcomment] at hend

/-- Behind a word with a comment right behind it nothing is offered, although definition still takes
the caret there for one in the word. -/
theorem complete_within_word_comment :
    let disk := Disk.ofFile "lib.bb" [] 1
    let rules : IncludeRules := ⟨[], true, 2⟩
    let text : Text := "Global foo\nPrint foo; shows it"
    let line : Text := "Print foo; shows it"
    (⟨1, 6⟩ : Position).lineOf? text.lines = some line ∧ StandsAt line 6 "foo" ∧ Text.IsWord "foo" ∧
      isCode line 6 = true ∧
    ∃ found, (extract disk rules "main.bb" text).1 = .ok found ∧
      (∃ item, complete found ⟨[]⟩ "main.bb" text.lines ⟨1, 8⟩ none false = .ok [item]) ∧
      complete found ⟨[]⟩ "main.bb" text.lines ⟨1, 9⟩ none false = .ok [] ∧
      definition found ⟨[]⟩ "main.bb" text.lines ⟨1, 9⟩ = .ok [⟨"main.bb", ⟨0, 7⟩⟩] := by
  intro disk rules text line
  have hok : (extract disk rules "main.bb" text).1.isOk = true := by decide +kernel
  have hanswers : ∀ found ∈ (extract disk rules "main.bb" text).1.toOption,
      complete found ⟨[]⟩ "main.bb" text.lines ⟨1, 8⟩ none false =
        .ok [⟨"foo", .var, "Global foo", "foo", false, none, false⟩] ∧
      complete found ⟨[]⟩ "main.bb" text.lines ⟨1, 9⟩ none false = .ok [] ∧
      definition found ⟨[]⟩ "main.bb" text.lines ⟨1, 9⟩ = .ok [⟨"main.bb", ⟨0, 7⟩⟩] := by
    decide +kernel
  have hstands : StandsAt line 6 "foo" :=
    ⟨by decide +kernel, by decide +kernel, by decide +kernel, by decide +kernel⟩
  have hword : Text.IsWord "foo" := ⟨by decide +kernel, List.all_eq_true.1 (by decide +kernel)⟩
  obtain ⟨found, hfound⟩ := exists_eq_ok_of_isOk hok
  rw [hfound] at hanswers
  obtain ⟨hinside, hend, hplace⟩ := hanswers found rfl
  exact ⟨by decide +kernel, hstands, hword, by decide +kernel, found, hfound, ⟨_, hinside⟩, hend,
    hplace⟩

/-! ## Fields -/

/-- A position of a document is on a word of the code that is no number and stands behind a field
marker. -/
structure Position.IsBehindMarker (position : Position) (lines : List Text) (line : Text)
    (word : Word) (marker : Nat) : Prop where
  /-- The line is the one of the position. -/
  line_eq : position.lineOf? lines = some line
  /-- A word character stands there. -/
  wordCharAt_eq : wordCharAt line position.character = .ok true
  /-- The word is the one that is found there. -/
  wordAt?_eq : wordAt? line position.character = .ok (some word)
  /-- The word is no number. -/
  isNumber_eq : isNumber word.text = false
  /-- The word is in the code. -/
  isCode_eq : isCode line word.start = true
  /-- The marker stands in front of the word. -/
  marker_eq : Scope.memberMarker? line word.start = .ok (some marker)

/-- On a word behind a field marker, the caret is counted from the start of the line and stands on a
word of it. -/
theorem Position.IsBehindMarker.exists_isOn {word : Word}
    (h : position.IsBehindMarker lines line word marker) :
    ∃ column start text, word = .ofText start text ∧
      position.IsOn lines line column start text := by
  have hword := h.wordAt?_eq
  have hchar := h.wordCharAt_eq
  cases hcolumn : position.character with
  | ofNat column =>
    rw [hcolumn] at hword hchar
    have hinside : column < line.length := lt_length_of_wordCharAt hchar
    rw [Int.ofNat_eq_natCast, wordCharAt_natCast hinside] at hchar
    obtain ⟨start, text, hcaret⟩ := exists_caretOn hinside (Except.ok.inj hchar)
    rw [Int.ofNat_eq_natCast, hcaret.wordAt?_eq] at hword
    exact ⟨column, start, text, (Option.some.inj (Except.ok.inj hword)).symm,
      hcaret, h.line_eq, hcolumn⟩
  | negSucc back =>
    -- a word that is found from the end of the line is behind no marker
    rw [hcolumn, wordAt?.eq_def] at hword
    dsimp only at hword
    split_ifs at hword
    · cases hword
    · have hnone := Scope.memberMarker?_of_wordFromEnd? (Except.ok.inj hword)
      cases h.marker_eq.symm.trans hnone

/-- A field is found under a name exactly if completion offers it under the name. -/
theorem Scope.findField?_isSome_iff {owner : RecordType} {name : Text}
    (hkeyed : ∀ v ∈ owner.fields, v.key = v.name.lower) :
    (findField? owner name).isSome = true ↔
      ∃ item ∈ owner.fields.map Completion.ofVariable, item.label.lower = name.lower := by
  rw [findField?, List.find?_isSome]
  simp only [List.mem_map, exists_exists_and_eq_and]
  refine exists_congr fun v => and_congr_right fun hv => ?_
  rw [beq_iff_eq, hkeyed v hv]
  rfl

/-- On a word behind a field marker, definition and completion look at the fields of one type. -/
theorem Position.IsBehindMarker.exists_owner {word : Word}
    (h : position.IsBehindMarker lines line word marker) (symbols : List Symbol)
    (stubs : StubTable) (path : Text) (trigger : Option Text) (brackets : Bool) :
    ∃ owner : Option RecordType,
      Scope.memberOwner? symbols path position.line line (marker : Int) = .ok owner ∧
      definition symbols stubs path lines position =
        .ok ((owner.bind fun owner => Scope.findField? owner word.text).toList.map fun field =>
          (Symbol.ofVariable field).location) ∧
      complete symbols stubs path lines position trigger brackets =
        .ok ((owner.map fun owner => owner.fields.map Completion.ofVariable).getD []) := by
  obtain ⟨column, start, text, rfl, hon⟩ := h.exists_isOn
  have hcode : isCode line (start : Int) = true := h.isCode_eq
  have hmarker : Scope.memberMarker? line (start : Int) = .ok (some marker) := h.marker_eq
  have hstart : start ≤ line.length :=
    Nat.le_trans hon.start_le (Nat.le_of_lt hon.lt_length)
  have hinside : marker ≤ line.length := by
    obtain ⟨found, hfound, hle⟩ := Scope.exists_memberMarker? hstart
    have hsome : found = some marker := Except.ok.inj (hfound.symm.trans hmarker)
    exact Nat.le_trans (hle marker hsome) hstart
  obtain ⟨owner, howner⟩ := Scope.exists_memberOwner? hinside symbols path position.line
  refine ⟨owner, howner, ?_, ?_⟩
  · have hinert : isInert line start text = false := by
      have hnumber : isNumber text = false := h.isNumber_eq
      rw [isInert, hcode, hnumber]
      rfl
    rw [hon.definition_of_defined hinert
      (definedSymbol?_of_member hmarker (Scope.resolveMember?_of_owner hmarker howner)),
      Option.toList_map, List.map_map]
    rfl
  · have hcolumn : min position.character (line.length : Int) = column := by
      have := hon.lt_length
      rw [hon.character_eq]
      omega
    exact complete_of_member h.line_eq hcolumn (hon.isCode_eq.trans hcode)
      (hon.wordStart_eq hon.isWord hon.start_le (Nat.le_of_lt hon.lt_stop)) hmarker howner

/-- On a word behind a field marker, completion offers the fields of the type left of the marker.
Definition finds a place exactly if the word is among them, and that is the place of the first field
of the name. -/
theorem definition_agrees_complete {word : Word} (hkeyed : Scope.KeyedByName symbols)
    (h : position.IsBehindMarker lines line word marker) (stubs : StubTable) (path : Text)
    (trigger : Option Text) (brackets : Bool) :
    ∃ owner places items,
      Scope.memberOwner? symbols path position.line line (marker : Int) = .ok owner ∧
      definition symbols stubs path lines position = .ok places ∧
      complete symbols stubs path lines position trigger brackets = .ok items ∧
      items = (owner.map fun t => t.fields.map Completion.ofVariable).getD [] ∧
      (places ≠ [] ↔ ∃ item ∈ items, item.label.lower = word.text.lower) ∧
      ∀ place ∈ places, places = [place] ∧ ∃ t field, owner = some t ∧
        Scope.IsFirst (fun v : Variable => v.key) word.text.lower t.fields field ∧
        place = (Symbol.ofVariable field).location := by
  obtain ⟨owner, howner, hplaces, hitems⟩ := h.exists_owner symbols stubs path trigger brackets
  refine ⟨owner, _, _, howner, hplaces, hitems, rfl, ?_⟩
  cases owner with
  | none => exact ⟨iff_of_false (fun hne => hne rfl) nofun, nofun⟩
  | some owner =>
    have howned : .ofType owner ∈ symbols := Scope.mem_of_memberOwner? howner
    have hoffered : (Scope.findField? owner word.text).isSome = true ↔ _ :=
      Scope.findField?_isSome_iff fun v hv => hkeyed _ (Symbol.member_mem_withMembers howned hv)
    rw [Option.bind_some, Option.map_some, Option.getD_some, ← hoffered]
    -- definition stops at the first field of the name, completion lists all fields
    cases hfound : Scope.findField? owner word.text with
    | none => exact ⟨iff_of_false (fun hne => hne rfl) nofun, nofun⟩
    | some field =>
      refine ⟨iff_of_true (List.cons_ne_nil _ _) rfl, fun place hplace => ?_⟩
      cases List.mem_singleton.1 hplace
      exact ⟨rfl, owner, field, rfl, Scope.find?_eq_some_iff_isFirst.1 hfound, rfl⟩

/-- A field that is written in other letters is offered, and definition leads to it and not to the
function of its name. -/
theorem definition_agrees_complete_speed :
    let disk := Disk.ofFile "lib.bb" [] 1
    let rules : IncludeRules := ⟨[], true, 2⟩
    let text : Text := "Function speed()\nEnd Function\nType Car\nField size, speed\n" ++
      "End Type\nLocal c.Car\nPrint c \\ Speed"
    let word : Word := ⟨10, 15, "Speed"⟩
    ∃ found items, (extract disk rules "main.bb" text).1 = .ok found ∧
      Scope.KeyedByName found ∧
      (⟨6, 12⟩ : Position).IsBehindMarker text.lines "Print c \\ Speed" word 8 ∧
      definition found ⟨[]⟩ "main.bb" text.lines ⟨6, 12⟩ = .ok [⟨"main.bb", ⟨3, 12⟩⟩] ∧
      complete found ⟨[]⟩ "main.bb" text.lines ⟨6, 12⟩ none false = .ok items ∧
      ∃ item ∈ items, item.label.lower = "speed".toList := by
  intro disk rules text word
  have hok : (extract disk rules "main.bb" text).1.isOk = true := by decide +kernel
  have hplaces : ∀ found ∈ (extract disk rules "main.bb" text).1.toOption,
      definition found ⟨[]⟩ "main.bb" text.lines ⟨6, 12⟩ = .ok [⟨"main.bb", ⟨3, 12⟩⟩] := by
    decide +kernel
  have hbehind : (⟨6, 12⟩ : Position).IsBehindMarker text.lines "Print c \\ Speed" word 8 :=
    { line_eq := by decide +kernel
      wordCharAt_eq := by decide +kernel
      wordAt?_eq := by decide +kernel
      isNumber_eq := by decide +kernel
      isCode_eq := by decide +kernel
      marker_eq := by decide +kernel }
  have hlower : word.text.lower = "speed".toList := by decide +kernel
  obtain ⟨found, hfound⟩ := exists_eq_ok_of_isOk hok
  rw [hfound] at hplaces
  have hkeyed := extract_keyedByName hfound
  obtain ⟨owner, places, items, -, hdefinition, hcomplete, -, hoffered, -⟩ :=
    definition_agrees_complete hkeyed hbehind ⟨[]⟩ "main.bb" none false
  obtain rfl : places = [⟨"main.bb", ⟨3, 12⟩⟩] :=
    Except.ok.inj (hdefinition.symm.trans (hplaces found rfl))
  rw [hlower] at hoffered
  exact ⟨found, items, hfound, hkeyed, hbehind, hdefinition, hcomplete,
    hoffered.1 (List.cons_ne_nil _ _)⟩

end BlitzLens
