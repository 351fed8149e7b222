import BlitzLens.Proofs.Extraction.Readers
import BlitzLens.Proofs.Extraction.Visit
import BlitzLens.Proofs.Text.Caseless

/-!
# When a pass fails

A declaring keyword is recognised without regard to case, and then looked up by its lower case. The
two disagree on a misspelt keyword, one that is recognised only because a letter beyond ASCII counts
as one of its letters (`Declarator.ofKeyword?_lower_eq_none_iff`), and a line that starts with such
a keyword is the only thing that makes a draft fail (`Draft.exists_step_eq_ok_iff`). One such line
in the document or in a file that the pass visits makes the whole pass fail
(`Visit.exists_outcome_eq_ok_iff`).
-/

namespace BlitzLens

/-! ## Misspelt keywords -/

namespace Declarator

/-- A word that counts as a declaring keyword only because a letter beyond ASCII counts as one of
its letters: `dim` with a dotless or dotted capital I, or `const` with a long S. -/
def Misspelt (word : Text) : Prop :=
  word.spells "dim" = true ∧ ('ı' ∈ word ∨ 'İ' ∈ word) ∨
    word.spells "const" = true ∧ 'ſ' ∈ word

instance (word : Text) : Decidable (Misspelt word) :=
  inferInstanceAs (Decidable (_ ∨ _))

/-- A word is a keyword of a declarator if and only if it is one of the declaring keywords. -/
theorem ofKeyword?_eq_none_iff {word : Text} :
    ofKeyword? word = none ↔ word ∉ Statement.declarators := by
  simp only [ofKeyword?, Statement.declarators, List.mem_cons, List.not_mem_nil, or_false,
    beq_iff_eq]
  split_ifs with hglobal hlocal hconst hdim <;> simp_all

/-- The declaring keywords are ASCII. -/
theorem isAscii_of_mem_declarators {keyword : Text} (hk : keyword ∈ Statement.declarators) :
    keyword.IsAscii := by
  have hall : ∀ k ∈ Statement.declarators, Text.IsAscii k := by decide
  exact hall keyword hk

/-- A word that spells a declaring keyword fits no declarator exactly when it is misspelt. -/
theorem ofKeyword?_lower_eq_none_iff {keyword word : Text} (hk : keyword ∈ Statement.declarators)
    (hspells : word.spells keyword = true) :
    ofKeyword? word.lower = none ↔ Misspelt word := by
  have hmap : word.map caseless = keyword := by simpa [Text.spells] using hspells
  constructor
  · intro hnone
    -- an ASCII word would have the keyword as its lower case
    have hascii : ¬word.IsAscii := by
      intro hascii
      rw [ofKeyword?_eq_none_iff, Text.lower_of_isAscii hascii, hmap] at hnone
      exact hnone hk
    obtain ⟨c, hc, hlarge⟩ : ∃ c ∈ word, ¬c.toNat < 128 := by
      simpa [Text.IsAscii] using hascii
    have hletter : caseless c ∈ keyword := hmap ▸ List.mem_map_of_mem hc
    have hcase := eq_of_caseless_isAscii (isAscii_of_mem_declarators hk _ hletter) hlarge
    simp only [Statement.declarators, List.mem_cons, List.not_mem_nil, or_false] at hk
    rcases hk with rfl | rfl | rfl | rfl <;> rcases hcase with rfl | rfl | rfl | rfl <;>
      first
        | exact absurd hletter (by decide)
        | exact .inl ⟨hspells, .inl hc⟩
        | exact .inl ⟨hspells, .inr hc⟩
        | exact .inr ⟨hspells, hc⟩
  · intro hmisspelt
    have hletter : 'ı' ∈ word ∨ 'İ' ∈ word ∨ 'ſ' ∈ word := by
      rcases hmisspelt with ⟨-, h | h⟩ | ⟨-, h⟩
      · exact .inl h
      · exact .inr (.inl h)
      · exact .inr (.inr h)
    rw [ofKeyword?_eq_none_iff]
    exact fun hmem => Text.not_isAscii_lower hletter (isAscii_of_mem_declarators hmem)

end Declarator

/-- The code of a line starts with a misspelt keyword and a blank. -/
def Line.Misspelt (line : Text) : Prop :=
  ∃ word blank rest, (Line.code line).trimStart = word ++ blank :: rest ∧
    isBlank blank = true ∧ Declarator.Misspelt word

namespace Statement

variable {line keyword list : Text} {column : Nat}

/-- No reader but that of declarations makes a declaration. -/
theorem readDeclaration?_of_read (h : read line = .declare keyword list column) :
    readDeclaration? (Line.code line) = some (.declare keyword list column) := by
  have hread := fromReader_read line
  rwa [h] at hread

/-- Which reader finds its keyword is told by the first letter of the code. -/
theorem afterKeyword?_eq_none_of_head? {name rest : Text} (other : Text)
    (h : afterKeyword? name line = some rest) (hname : name ≠ []) (hother : other ≠ [])
    (hne : name.head? ≠ other.head?) : afterKeyword? other line = none := by
  rw [Option.eq_none_iff_forall_not_mem]
  intro found hfound
  rw [← head?_of_afterKeyword? h hname, ← head?_of_afterKeyword? hfound hother] at hne
  exact hne rfl

/-- A line that starts with a declaring keyword and a blank is a declaration. -/
theorem read_eq_declare {name rest : Text} (hname : name ∈ declarators)
    (h : afterKeyword? name (Line.code line) = some rest) :
    read line = .declare ((Line.code line).trimStart.take name.length) rest
      (columnOf (Line.code line) rest) := by
  -- no two declaring keywords start with the same letter, and none starts like an include
  have hhead : ∀ k ∈ declarators, k ≠ [] ∧ k.head? ≠ some 'i' ∧
      ∀ k' ∈ declarators, k' = k ∨ k.head? ≠ k'.head? := by decide
  obtain ⟨hne, hinclude, hothers⟩ := hhead name hname
  have hnone : readInclude? (Line.code line) = none := by
    rw [readInclude?, afterKeyword?_eq_none_of_head? "include" h hne (by decide) hinclude]
    rfl
  have hreader (k : Text) (hk : k ∈ declarators) :
      readDeclaratorList? (Line.code line) k = if k = name then
        some (.declare ((Line.code line).trimStart.take name.length) rest
          (columnOf (Line.code line) rest)) else none := by
    rcases hothers k hk with rfl | hheads
    · rw [if_pos rfl, readDeclaratorList?, h]
      rfl
    · have hkne : k ≠ name := fun heq => hheads (congrArg _ heq).symm
      rw [if_neg hkne, readDeclaratorList?,
        afterKeyword?_eq_none_of_head? k h hne (hhead k hk).1 hheads]
      rfl
  -- so the reader of this keyword is the only one that makes something of the line
  have hread : readDeclaration? (Line.code line) = some (.declare
      ((Line.code line).trimStart.take name.length) rest (columnOf (Line.code line) rest)) := by
    cases hfound : readDeclaration? (Line.code line) with
    | none =>
      have habsurd := List.findSome?_eq_none_iff.1 hfound name hname
      rw [hreader name hname, if_pos rfl] at habsurd
      cases habsurd
    | some statement =>
      obtain ⟨k, hk, hstatement⟩ := List.exists_of_findSome?_eq_some hfound
      rw [hreader k hk] at hstatement
      split_ifs at hstatement
      rw [← hstatement]
  rw [read_eq_findSome?, readings]
  simp only [hnone, hread, List.findSome?_cons, id_eq, Option.getD_some]

/-- The keyword of a declaration fits no declarator exactly when the line starts with a misspelt
keyword. -/
theorem exists_read_eq_declare_iff :
    (∃ keyword list column, read line = .declare keyword list column ∧
      Declarator.ofKeyword? keyword.lower = none) ↔ Line.Misspelt line := by
  constructor
  · rintro ⟨keyword, list, column, hread, hnone⟩
    obtain ⟨name, hname, rest, hrest, hdeclare⟩ :=
      of_readDeclaration? (readDeclaration?_of_read hread)
    obtain ⟨word, gap, hcode, hspells, hgap, hblank⟩ := afterKeyword?_eq_some hrest
    obtain ⟨blank, gap, rfl⟩ := List.exists_cons_of_ne_nil hgap
    refine ⟨word, blank, gap ++ rest, hcode, hblank blank List.mem_cons_self, ?_⟩
    -- the keyword of the statement is cut off by the length of the name that it spells
    have hkeyword : keyword = word := by
      injection hdeclare with hkeyword
      rw [hkeyword, hcode, ← Text.length_of_spells hspells, List.take_left]
    rw [← Declarator.ofKeyword?_lower_eq_none_iff hname hspells, ← hkeyword]
    exact hnone
  · rintro ⟨word, blank, rest, hcode, hblank, hmisspelt⟩
    obtain ⟨name, hname, hspells⟩ : ∃ name ∈ declarators, word.spells name = true := by
      rcases hmisspelt with ⟨h, -⟩ | ⟨h, -⟩
      · exact ⟨_, by decide, h⟩
      · exact ⟨_, by decide, h⟩
    have hread := read_eq_declare hname (afterKeyword?_of_spells hcode hspells hblank)
    refine ⟨_, _, _, hread, ?_⟩
    rw [hcode, ← Text.length_of_spells hspells, List.take_left]
    exact (Declarator.ofKeyword?_lower_eq_none_iff hname hspells).2 hmisspelt

end Statement

/-! ## From a line to a pass -/

/-- Going through a list succeeds if and only if every step does, when success does not depend on
the state. -/
theorem exists_foldlM_eq_ok_iff {α σ ε : Type} (step : σ → α → Except ε σ) {good : α → Prop}
    (h : ∀ s a, (∃ s', step s a = .ok s') ↔ good a) (list : List α) (start : σ) :
    (∃ last, list.foldlM step start = .ok last) ↔ ∀ a ∈ list, good a := by
  induction list generalizing start with
  | nil => exact ⟨fun _ _ => (nomatch ·), fun _ => ⟨start, rfl⟩⟩
  | cons a list ih =>
    rw [List.foldlM_cons, List.forall_mem_cons, ← h start a]
    cases hstep : step start a with
    | error error =>
      constructor
      · rintro ⟨last, hlast⟩
        cases hlast
      · rintro ⟨⟨middle, hmiddle⟩, -⟩
        cases hmiddle
    | ok middle => exact (ih middle).trans ⟨fun hall => ⟨⟨middle, rfl⟩, hall⟩, And.right⟩

/-- A step of a draft fails only for a declaration whose keyword fits no declarator. -/
theorem Draft.exists_step_eq_ok_iff {draft : Draft} {source : Source} {number : Nat} {line : Text}
    {statement : Statement} :
    (∃ next, draft.step source number line statement = .ok next) ↔
      ∀ keyword list column, statement = .declare keyword list column →
        Declarator.ofKeyword? keyword.lower ≠ none := by
  cases statement with
  | declare keyword list column =>
    rw [step]
    constructor
    · rintro ⟨next, hnext⟩ _ _ _ ⟨⟩ hnone
      rw [hnone] at hnext
      cases hnext
    · intro h
      obtain ⟨declarator, hdeclarator⟩ := Option.ne_none_iff_exists'.1 (h _ _ _ rfl)
      rw [hdeclarator]
      exact ⟨_, rfl⟩
  | _ => exact ⟨fun _ _ _ _ => (nomatch ·), fun _ => ⟨_, rfl⟩⟩

/-- A line leaves a draft, whatever the draft before, if and only if its include, if it is one,
yields symbols, and it is not misspelt. -/
theorem Draft.exists_afterLine_eq_ok_iff {draft : Draft} {source : Source}
    {fetch : Text → Except ExtractError (List Symbol)} {numbered : Text × Nat} :
    (∃ next, draft.afterLine source fetch numbered = .ok next) ↔
      (∀ target, (Statement.read numbered.1).target? = some target →
        ∃ found, fetch target = .ok found) ∧ ¬Line.Misspelt numbered.1 := by
  rw [afterLine, ← Statement.exists_read_eq_declare_iff]
  cases htarget : (Statement.read numbered.1).target? with
  | some target =>
    have hread := Statement.eq_includeFile htarget
    simp only [Option.some.injEq, forall_eq', hread, reduceCtorEq, false_and, exists_false,
      not_false_eq_true, and_true]
    cases fetch target with
    | error error =>
      constructor
      · rintro ⟨_, hnext⟩
        cases hnext
      · rintro ⟨_, hfound⟩
        cases hfound
    | ok found => exact ⟨fun _ => ⟨found, rfl⟩, fun _ => ⟨_, rfl⟩⟩
  | none =>
    rw [exists_step_eq_ok_iff]
    constructor
    · intro h
      refine ⟨fun _ => (nomatch ·), ?_⟩
      rintro ⟨keyword, list, column, hread, hnone⟩
      exact h keyword list column hread hnone
    · rintro ⟨-, h⟩ keyword list column hread hnone
      exact h ⟨keyword, list, column, hread, hnone⟩

/-- A file yields symbols if and only if its includes do and no line of it is misspelt. -/
theorem Source.exists_outcome_eq_ok_iff {source : Source}
    {fetch : Text → Except ExtractError (List Symbol)} :
    (∃ found, source.outcome fetch = .ok found) ↔
      ∀ line ∈ source.lines,
        (∀ target, (Statement.read line).target? = some target →
          ∃ found, fetch target = .ok found) ∧ ¬Line.Misspelt line := by
  have hlines := exists_foldlM_eq_ok_iff (fun (draft : Draft) =>
    draft.afterLine source fetch) (fun _ _ => Draft.exists_afterLine_eq_ok_iff)
    source.lines.zipIdx .empty
  -- the numbers of the lines do not matter
  have hmem (good : Text → Prop) :
      (∀ numbered ∈ source.lines.zipIdx, good numbered.1) ↔ ∀ line ∈ source.lines, good line := by
    rw [← List.forall_mem_map (f := Prod.fst) (P := good), List.zipIdx_map_fst]
  rw [← hmem, ← hlines, outcome]
  cases source.lines.zipIdx.foldlM
      (fun (draft : Draft) => draft.afterLine source fetch) .empty with
  | error error =>
    constructor
    · rintro ⟨_, h⟩
      cases h
    · rintro ⟨_, h⟩
      cases h
  | ok draft => exact ⟨fun _ => ⟨draft, rfl⟩, fun _ => ⟨_, rfl⟩⟩

namespace Visit

variable {disk : Disk} {rules : IncludeRules} {visit last : Visit}

/-- If a visit yields symbols, then so does every visit that it leads to. -/
theorem Reaches.exists_outcome_eq_ok (h : visit.Reaches disk rules last)
    (hok : ∃ found, visit.outcome disk rules = .ok found) :
    ∃ found, last.outcome disk rules = .ok found := by
  induction h with
  | self => exact hok
  | @step middle last line target _ hline htarget hincluded ih =>
    rw [outcome_eq, Source.exists_outcome_eq_ok_iff] at ih
    obtain ⟨found, hfound⟩ := (ih line hline).1 target htarget
    rw [fetch, hincluded] at hfound
    exact ⟨found, hfound⟩

/-- A visit yields symbols if and only if no line of a file that it leads to is misspelt. -/
theorem exists_outcome_eq_ok_iff :
    (∃ found, visit.outcome disk rules = .ok found) ↔
      ∀ last, visit.Reaches disk rules last → ∀ line ∈ last.source.lines, ¬Line.Misspelt line := by
  constructor
  · intro hok last hlast line hline
    have hfound := hlast.exists_outcome_eq_ok hok
    rw [outcome_eq, Source.exists_outcome_eq_ok_iff] at hfound
    exact (hfound line hline).2
  · intro h
    induction visit using nestedInduction disk rules with
    | nested visit ih =>
      rw [outcome_eq, Source.exists_outcome_eq_ok_iff]
      refine fun line hline => ⟨fun target htarget => ?_, h visit .self line hline⟩
      rw [fetch]
      cases hincluded : visit.included? disk rules target with
      | none => exact ⟨[], rfl⟩
      | some included =>
        refine ih target included hincluded fun last hlast => h last ?_
        exact (Reaches.self.step hline htarget hincluded).trans hlast

end Visit

/-! ## The pass over a document -/

/-- The pass over a document fails exactly when the document or a file that the pass visits has a
line that starts with a misspelt keyword. -/
theorem extract_eq_error_iff (disk : Disk) (rules : IncludeRules) (path text : Text) :
    (∃ error, (extract disk rules path text).1 = .error error) ↔
      ∃ visit, (Visit.document disk rules path text).Reaches disk rules visit ∧
        ∃ line ∈ visit.source.lines, Line.Misspelt line := by
  have hok : (∃ found, (Visit.document disk rules path text).outcome disk rules = .ok found) ↔ _ :=
    Visit.exists_outcome_eq_ok_iff
  rw [← extract_fst] at hok
  constructor
  · rintro ⟨error, herror⟩
    by_contra hnone
    obtain ⟨found, hfound⟩ := hok.2 fun visit hvisit line hline hmisspelt =>
      hnone ⟨visit, hvisit, line, hline, hmisspelt⟩
    rw [hfound] at herror
    cases herror
  · rintro ⟨visit, hvisit, line, hline, hmisspelt⟩
    cases hresult : (extract disk rules path text).1 with
    | error error => exact ⟨error, rfl⟩
    | ok found => exact absurd hmisspelt (hok.1 ⟨found, hresult⟩ visit hvisit line hline)

/-- A document of the one line `Dım x`, with a dotless I, cannot be read into symbols. -/
theorem extract_dotless_dim :
    (extract ⟨.ofText "/", fun path => .error ⟨.notFound, path⟩,
      fun path => .error ⟨.notFound, path⟩⟩ ⟨[], true, 1⟩ "/main.bb" "Dım x").1 =
      .error (.unknownKeyword "Dım") := by
  rfl

end BlitzLens
