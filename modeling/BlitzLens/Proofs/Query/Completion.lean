import BlitzLens.Proofs.Extraction.Arrangement
import BlitzLens.Proofs.Scope.Chain
import BlitzLens.Query.Completion

/-!
# Completion behind a field marker

Behind words that lead to a field, completion offers the fields of the type that the words lead to,
whatever stands behind the caret and whatever triggered it: one item for each field, in the order in
which the fields are declared (`complete_lists_fields`). Words that lead nowhere offer nothing, and
completion never falls back to the other words that are visible.

## Main definitions

* `Position.IsBehindChain`: a caret in the code behind words that lead to a field.
* `CompletionItem.Offers`: an item is the one of a variable.

## Main results

* `Position.IsBehindChain.complete_eq`: completion behind such words, for any symbols.
* `complete_lists_fields`: the same for the symbols of a document.
-/

namespace BlitzLens

open Line

/-- A position of a document is in the code of a line, and left of it the line ends with words that
lead to a field, with spaces and tabs, and with as much of the field's name as is already written,
which may be nothing. -/
structure Position.IsBehindChain (position : Position) (lines : List Text)
    (line before gap part : Text) (words : List Word) : Prop where
  /-- The line is the one of the position. -/
  line_eq : position.lineOf? lines = some line
  /-- The column is counted from the start of the line. -/
  nonneg : 0 ≤ position.character
  /-- The caret is in the code. -/
  isCode : isCode line (min position.character line.length) = true
  /-- This is what stands left of the caret. -/
  upTo_eq : line.upTo position.character = before ++ gap ++ part
  /-- The words lead to a field. -/
  chain : EndsInChain before words
  /-- The gap is made of spaces and tabs. -/
  gap_blank : ∀ c ∈ gap, isSpaceOrTab c = true
  /-- The part is made of word characters. -/
  part_word : ∀ c ∈ part, isWordChar c = true

/-- An item offers a variable: it shows the name and the declaration, and inserts the name as it
is. -/
structure CompletionItem.Offers (item : CompletionItem) (v : Variable) : Prop where
  /-- The name is shown. -/
  label_eq : item.label = v.name
  /-- The declaration is shown beside it. -/
  detail_eq : item.detail = v.declaration
  /-- The name is inserted. -/
  insertText_eq : item.insertText = v.name
  /-- Nothing is left to fill in. -/
  isSnippet_eq : item.isSnippet = false

/-- The items of some variables offer them one by one. -/
theorem Completion.forall₂_offers (found : List Variable) :
    List.Forall₂ CompletionItem.Offers (found.map ofVariable) found := by
  induction found with
  | nil => exact .nil
  | cons v found ih => exact .cons ⟨rfl, rfl, rfl, rfl⟩ ih

/-- The word that ends in a caret starts behind what no word reaches out of. -/
theorem Completion.wordStart_eq {line before part : Text} {column : Nat}
    (h : line.take column = before ++ part) (hbefore : Text.endsWord before = false)
    (hpart : ∀ c ∈ part, isWordChar c = true) :
    wordStart line (column : Int) = (before.length : Nat) := by
  show (((line.take column).length - (Text.takeEndWhile isWordChar (line.take column)).length :
    Nat) : Int) = _
  rw [h, Text.takeEndWhile_append hbefore hpart, List.length_append, Nat.add_sub_cancel]

section

variable {symbols : List Symbol} {stubs : StubTable} {position : Position} {lines : List Text}
  {line before gap part path : Text} {words : List Word} {trigger : Option Text} {brackets : Bool}

/-- Behind a field marker the fields of the type left of it are offered, or nothing. -/
theorem complete_of_member {column start marker : Nat} {owner : Option RecordType}
    (hline : position.lineOf? lines = some line)
    (hcolumn : min position.character (line.length : Int) = column)
    (hcode : isCode line (column : Int) = true)
    (hstart : Completion.wordStart line (column : Int) = (start : Nat))
    (hmarker : Scope.memberMarker? line (start : Int) = .ok (some marker))
    (howner : Scope.memberOwner? symbols path position.line line (marker : Int) = .ok owner) :
    complete symbols stubs path lines position trigger brackets =
      .ok ((owner.map fun t => t.fields.map Completion.ofVariable).getD []) := by
  rw [complete, hline]
  dsimp only
  rw [hcolumn, hcode, hstart, hmarker]
  change (Scope.memberOwner? symbols path position.line line (marker : Int) >>= _) = _
  rw [howner]
  cases owner <;> rfl

namespace Position.IsBehindChain

/-- The caret cuts the line behind the part of the name that is written. -/
theorem exists_column (h : position.IsBehindChain lines line before gap part words) :
    ∃ column : Nat, min position.character (line.length : Int) = column ∧
      line.take column = before ++ gap ++ part := by
  obtain ⟨column, hcolumn⟩ := Int.eq_ofNat_of_zero_le h.nonneg
  have hupTo := h.upTo_eq
  rw [hcolumn] at hupTo ⊢
  exact ⟨min column line.length, by omega, hupTo⟩

/-- Behind words that lead to a field the fields of a type are offered, or nothing. -/
theorem complete_eq {root : Word}
    (h : position.IsBehindChain lines line before gap part (root :: words))
    (symbols : List Symbol) (stubs : StubTable) (path : Text) (trigger : Option Text)
    (brackets : Bool) :
    ∃ owner : Option RecordType,
      complete symbols stubs path lines position trigger brackets =
        .ok ((owner.map fun t => t.fields.map Completion.ofVariable).getD []) ∧
      ∀ t, owner = some t ↔ Scope.LeadsFrom symbols path position.line line root words t := by
  obtain ⟨column, hcolumn, htake⟩ := h.exists_column
  have hgap := h.chain.endsWord_append_gap h.gap_blank
  have hstart : Completion.wordStart line (column : Int) = ((before ++ gap).length : Nat) :=
    Completion.wordStart_eq htake hgap h.part_word
  -- the text behind the caret plays no role from here on
  obtain ⟨after, hline⟩ : ∃ after, line = before ++ (gap ++ (part ++ after)) :=
    ⟨line.drop column, by
      rw [← List.append_assoc, ← List.append_assoc, ← htake, List.take_append_drop]⟩
  have hmarker : Scope.memberMarker? line ((before ++ gap).length : Nat) =
      .ok (some (before.length - 1)) := by
    rw [hline, ← List.append_assoc]
    exact Scope.memberMarker?_of_endsInChain h.chain h.gap_blank (part ++ after)
  obtain ⟨owner, howner, hleads⟩ := Scope.exists_memberOwner?_eq h.chain symbols path position.line
    (gap ++ (part ++ after))
  rw [← hline] at howner hleads
  have hcode := h.isCode
  rw [hcolumn] at hcode
  exact ⟨owner, complete_of_member h.line_eq hcolumn hcode hstart hmarker howner, hleads⟩

end Position.IsBehindChain

end

/-- Behind words that lead to a field, completion offers the fields of the type that they lead to,
in the order of their declaration, and nothing else; it offers nothing if they lead nowhere. -/
theorem complete_lists_fields {disk : Disk} {rules : IncludeRules} {path text : Text}
    {found : List Symbol} {position : Position} {line before gap part : Text} {root : Word}
    {words : List Word} (h : (extract disk rules path text).1 = .ok found)
    (hposition : position.IsBehindChain text.lines line before gap part (root :: words))
    (stubs : StubTable) (trigger : Option Text) (brackets : Bool) :
    ∃ items, complete found stubs path text.lines position trigger brackets = .ok items ∧
      (∀ t, Scope.LeadsFrom found path position.line line root words t →
        t.fields.Pairwise Variable.StartsBefore ∧ items = t.fields.map Completion.ofVariable ∧
          List.Forall₂ CompletionItem.Offers items t.fields) ∧
      ((¬∃ t, Scope.LeadsFrom found path position.line line root words t) → items = []) := by
  obtain ⟨owner, hcomplete, howner⟩ := hposition.complete_eq found stubs path trigger brackets
  refine ⟨_, hcomplete, ?_, ?_⟩
  · intro t hleads
    rw [extract_fst] at h
    refine ⟨Visit.membersInOrder h (.ofType t) hleads.mem, ?_, ?_⟩
    · simp [(howner t).2 hleads]
    · rw [(howner t).2 hleads]
      exact Completion.forall₂_offers t.fields
  · intro hnowhere
    cases owner with
    | none => rfl
    | some t => exact absurd ⟨t, (howner t).1 rfl⟩ hnowhere

/-- Fields that are reached with blanks around the markers and in other letters, through a type that
refers to itself: those of the last type are offered, although a name is written in part already. -/
theorem complete_lists_fields_of_home :
    let disk := Disk.ofFile "lib.bb" [] 1
    let rules : IncludeRules := ⟨[], true, 2⟩
    let text : Text := "Type Node\nField link.Node, home.Tree\nEnd Type\nType Tree\n" ++
      "Field root.node\nField size, depth\nEnd Type\nLocal n.Node\nPrint 1 + N \\LINK\\ home\\ si"
    let line : Text := "Print 1 + N \\LINK\\ home\\ si"
    let before : Text := "Print 1 + N \\LINK\\ home\\"
    let position : Position := ⟨8, 26⟩
    let root : Word := ⟨10, 11, "N"⟩
    let words : List Word := [⟨13, 17, "LINK"⟩, ⟨19, 23, "home"⟩]
    ∃ found t, (extract disk rules "main.bb" text).1 = .ok found ∧
      position.IsBehindChain text.lines line before " " "s" (root :: words) ∧
      Scope.LeadsFrom found "main.bb" 8 line root words t ∧
      t.fields.Pairwise Variable.StartsBefore ∧
      t.fields.map (fun field => field.name) = ["root".toList, "size".toList, "depth".toList] ∧
      complete found ⟨[]⟩ "main.bb" text.lines position none false =
        .ok (t.fields.map Completion.ofVariable) := by
  intro disk rules text line before position root words
  have hlabels : (extract disk rules "main.bb" text).1.toOption.map (fun found =>
      (complete found ⟨[]⟩ "main.bb" text.lines position none false).toOption.map fun items =>
        items.map CompletionItem.label) =
          some (some ["root".toList, "size".toList, "depth".toList]) := by
    decide +kernel
  -- the words one after the other, with the blanks behind each of them
  have hchain : EndsInChain before (root :: words) := by
    have hnone := List.forall_mem_nil fun c => isSpaceOrTab c = true
    have hspace : ∀ c ∈ [' '], isSpaceOrTab c = true := List.all_eq_true.1 (by decide)
    have hN : Text.IsWord ['N'] := ⟨by decide, List.all_eq_true.1 (by decide +kernel)⟩
    have hLINK : Text.IsWord "LINK".toList :=
      ⟨by decide +kernel, List.all_eq_true.1 (by decide +kernel)⟩
    have hhome : Text.IsWord "home".toList :=
      ⟨by decide +kernel, List.all_eq_true.1 (by decide +kernel)⟩
    have hfirst : EndsInChain ("Print 1 + ".toList ++ (['N'] ++ ([' '] ++ ['\\']))) _ :=
      .root (by decide +kernel) (by decide +kernel) hN hspace
    have hlast := (hfirst.field hnone hLINK hnone).field hspace hhome hnone
    refine cast (congrArg₂ EndsInChain ?_ ?_) hlast <;> decide +kernel
  have hposition : position.IsBehindChain text.lines line before " " "s" (root :: words) :=
    { line_eq := by decide +kernel
      nonneg := by decide
      isCode := by decide +kernel
      upTo_eq := by decide +kernel
      chain := hchain
      gap_blank := List.all_eq_true.1 (by decide +kernel)
      part_word := List.all_eq_true.1 (by decide +kernel) }
  cases hfound : (extract disk rules "main.bb" text).1 with
  | error error =>
    rw [hfound] at hlabels
    cases hlabels
  | ok found =>
    obtain ⟨items, hitems, hfields, hnothing⟩ :=
      complete_lists_fields hfound hposition ⟨[]⟩ none false
    have hoffered : items.map CompletionItem.label =
        ["root".toList, "size".toList, "depth".toList] := by
      rw [hfound] at hlabels
      have hrun : (complete found ⟨[]⟩ "main.bb" text.lines position none false).toOption.map
          (fun items => items.map CompletionItem.label) = _ := Option.some.inj hlabels
      rw [hitems] at hrun
      exact Option.some.inj hrun
    by_cases hsomewhere : ∃ t, Scope.LeadsFrom found "main.bb" 8 line root words t
    · obtain ⟨t, hleads⟩ := hsomewhere
      obtain ⟨horder, rfl, -⟩ := hfields t hleads
      rw [List.map_map] at hoffered
      exact ⟨found, t, rfl, hposition, hleads, horder, hoffered, hitems⟩
    · rw [hnothing hsomewhere] at hoffered
      cases hoffered

end BlitzLens
