import BlitzLens.Proofs.Extraction.Dependencies
import BlitzLens.Proofs.Extraction.Likeness
import BlitzLens.Proofs.Query.Highlight
import Mathlib.Data.List.Sigma

/-!
# Highlights agree with resolution

Highlighting looks for candidates in another way than resolution does: it takes the fields of all
types into account and leaves it to their guard to reject them. Where the guard of fields rejects a
word the two choices are the same (`Highlight.choose_candidates`). So a word of the code has a
token exactly if it is resolved to a symbol that is no label, and then one token, of the class that
fits the symbol (`Highlight.exists_tokens_iff_resolved`).
-/

namespace BlitzLens

/-! ## Classes -/

/-- A class is the one of a symbol. -/
inductive TokenClass.Fits : TokenClass → Symbol → Prop
  | function (f : Function) : Fits .function (.ofFunction f)
  | type (t : RecordType) : Fits .type (.ofType t)
  | parameter {v : Variable} (h : v.storage = .parameter) : Fits .parameter (.ofVariable v)
  | field {v : Variable} (h : v.storage = .field) : Fits .field (.ofVariable v)
  | var {v : Variable} (hparameter : v.storage ≠ .parameter) (hfield : v.storage ≠ .field) :
      Fits .var (.ofVariable v)

/-- Every symbol but a label has the class that fits it. -/
theorem TokenClass.exists_ofSymbol?_eq {symbol : Symbol} (h : symbol.kind ≠ .label) :
    ∃ tokenClass, TokenClass.ofSymbol? symbol = some tokenClass ∧ tokenClass.Fits symbol := by
  cases symbol with
  | ofFunction f => exact ⟨.function, rfl, .function f⟩
  | ofType t => exact ⟨.type, rfl, .type t⟩
  | ofLabel l => exact absurd rfl h
  | ofVariable v =>
    cases hstorage : v.storage with
    | field => exact ⟨.field, by simp [ofSymbol?, hstorage], .field hstorage⟩
    | parameter => exact ⟨.parameter, by simp [ofSymbol?, hstorage], .parameter hstorage⟩
    | globalVar =>
      exact ⟨.var, by simp [ofSymbol?, hstorage], .var (by simp [hstorage]) (by simp [hstorage])⟩
    | localVar =>
      exact ⟨.var, by simp [ofSymbol?, hstorage], .var (by simp [hstorage]) (by simp [hstorage])⟩

/-- A label has no class. -/
theorem TokenClass.kind_ne_label {symbol : Symbol} {tokenClass : TokenClass}
    (h : TokenClass.ofSymbol? symbol = some tokenClass) : symbol.kind ≠ .label := by
  cases symbol with
  | ofLabel l => cases h
  | _ => exact nofun

/-- A token is the one of what starts at a column of a line. -/
def Token.isAt (token : Token) (number start : Int) : Bool :=
  token.line == number && token.start == start

namespace Highlight

variable {symbols : List Symbol} {path : Text} {number : Int} {line : Text} {word : Word}

/-! ## Candidates -/

/-- Where fields are rejected, the candidates for a highlight lead to the choice that resolution
makes. -/
theorem choose_candidates
    (hfields : ∀ t, Symbol.ofType t ∈ symbols → ∀ v ∈ t.fields, v.guard = .field)
    (hrejects : Guard.field.accepts line word.start word.stop = .ok false) :
    Scope.choose line word none (candidates symbols path number
        (Scope.enclosingFunction? symbols path number) word.text.lower) =
      Scope.resolve? symbols path number line word := by
  -- fields are rejected, whether they are those of all types or those of the open ones
  have hpass {fields : List Variable} (hguard : ∀ v ∈ fields, v.guard = .field)
      (locals : List Symbol) (best : Option Symbol) :
      Scope.choose line word best
          ((fields.filter fun v => v.key == word.text.lower).map .ofVariable ++ locals) =
        Scope.choose line word best locals := by
    refine Scope.choose_rejected_append fun symbol hsymbol => ?_
    obtain ⟨v, hv, rfl⟩ := List.mem_map.1 hsymbol
    rw [← hrejects, ← hguard v (List.mem_of_mem_filter hv)]
    rfl
  have hall : ∀ v ∈ (symbols.filterMap Symbol.asType?).flatMap RecordType.fields,
      v.guard = .field := by
    intro v hv
    obtain ⟨t, ht, hv⟩ := List.mem_flatMap.1 hv
    exact hfields t (mem_filterMap_asType?.1 ht) v hv
  have hopen : ∀ v ∈ Scope.openFields symbols path number, v.guard = .field := by
    intro v hv
    obtain ⟨t, ht, hv⟩ := List.mem_flatMap.1 hv
    exact hall v (List.mem_flatMap.2 ⟨t, List.mem_of_mem_filter ht, hv⟩)
  rw [Scope.resolve?, candidates.eq_def, Scope.visible, if_pos rfl, List.filter_append,
    List.filter_append, List.filter_filter, List.filter_map, List.append_assoc, List.append_assoc]
  refine Scope.choose_append_congr fun best => ?_
  refine (hpass hall _ best).trans (.trans ?_ (hpass hopen _ best).symm)
  cases Scope.enclosingFunction? symbols path number with
  | none => rfl
  | some f =>
    dsimp only
    rw [List.filter_map]
    rfl

/-- The guard of fields rejects a word of the code if no field may follow the text before it. -/
theorem field_accepts_eq_false (hword : word ∈ Line.codeWords line)
    (hbefore : Guard.field.admitsBefore (line.upTo word.start) = false) :
    Guard.field.accepts line word.start word.stop = .ok false := by
  obtain ⟨start, stop, hstart, hstop, hinside, hle⟩ := Line.exists_of_mem_codeWords hword
  have hboundary := Line.isWordBoundary_natCast (Nat.le_trans hle hinside) stop
  rw [← hstart, ← hstop] at hboundary
  unfold Guard.accepts Guard.admits
  rw [hboundary, hbefore]
  change (if _ then Except.ok false else if _ then Except.ok false else Except.ok false) = _
  simp

/-! ## The tokens of a word -/

/-- Of what the elements of a list give rise to, what belongs to one element is kept by a key that
tells the elements apart. -/
theorem filter_flatMap_eq {α β κ : Type} [BEq κ] [LawfulBEq κ] {f : α → List β} (keyOf : α → κ)
    {keyOf' : β → κ} (hkey : ∀ a, ∀ b ∈ f a, keyOf' b = keyOf a) {list : List α}
    (hpairwise : list.Pairwise fun a b => keyOf a ≠ keyOf b) {a : α} (ha : a ∈ list) :
    (list.flatMap f).filter (fun b => keyOf' b == keyOf a) = f a := by
  have hkeep (c : α) :
      (f c).filter (fun b => keyOf' b == keyOf a) = if keyOf c == keyOf a then f c else [] := by
    split_ifs with hc
    · exact List.filter_eq_self.2 fun b hb => by rwa [hkey c b hb]
    · exact List.filter_eq_nil_iff.2 fun b hb => by rwa [hkey c b hb]
  induction list with
  | nil => cases ha
  | cons c list ih =>
    obtain ⟨hc, hlist⟩ := List.pairwise_cons.1 hpairwise
    rw [List.flatMap_cons, List.filter_append, hkeep]
    rcases List.mem_cons.1 ha with rfl | ha
    · rw [if_pos BEq.rfl, List.filter_flatMap, List.flatMap_eq_nil_iff.2, List.append_nil]
      intro b hb
      rw [hkeep, if_neg (by simpa using (hc b hb).symm)]
    · rw [if_neg (by simpa using hc a ha), List.nil_append, ih hlist ha]

/-- The words of the code start at different columns. -/
theorem pairwise_codeWords (line : Text) :
    (Line.codeWords line).Pairwise fun word word' => word.start ≠ word'.start := by
  refine List.pairwise_map.2 (((Line.pairwise_wordRuns 0 _).filter _).imp fun {run later} hlt => ?_)
  have hlt : run.1 + run.2.length < later.1 := hlt
  dsimp only
  omega

/-- A word of the code stops as many characters behind its start as it has. -/
theorem stop_of_mem_codeWords (h : word ∈ Line.codeWords line) :
    word.stop = word.start + word.text.length := by
  obtain ⟨run, -, rfl⟩ := List.mem_map.1 h
  rfl

/-- The token of a word starts where the word does. -/
theorem start_of_tokenOf? {enclosing : Option Function} {token : Token}
    (h : (tokenOf? symbols path number line enclosing word).toOption.join = some token) :
    token.start = word.start := by
  obtain ⟨tokenClass, rfl⟩ := exists_of_tokenOf? h
  rfl

/-- The tokens that start where a word of the code does are the token of the word, if it has one. -/
theorem filter_tokensOn_start (hword : word ∈ Line.codeWords line) {token : Option Token}
    (htoken : tokenOf? symbols path number line (Scope.enclosingFunction? symbols path number)
      word = .ok token) :
    (tokensOn symbols path number line).filter (fun other => other.start == word.start) =
      token.toList := by
  -- each word has its own start, and its token has the same
  rw [tokensOn, List.filterMap_eq_flatMap_toList, filter_flatMap_eq Word.start
    (fun _ _ hother => start_of_tokenOf? (Option.mem_toList.1 hother)) (pairwise_codeWords line)
    hword, htoken]
  rfl

/-- The tokens that start where a word of the code does are the token of the symbol that the word is
resolved to, if it has one. -/
theorem filter_tokensOn
    (hfields : ∀ t, Symbol.ofType t ∈ symbols → ∀ v ∈ t.fields, v.guard = .field)
    (hword : word ∈ Line.codeWords line)
    (hbefore : Guard.field.admitsBefore (line.upTo word.start) = false) {resolved : Option Symbol}
    (hresolve : Scope.resolve? symbols path number line word = .ok resolved) :
    (tokensOn symbols path number line).filter (fun token => token.start == word.start) =
      ((resolved.bind TokenClass.ofSymbol?).map fun tokenClass =>
        Token.mk number word.start word.text.length tokenClass).toList := by
  have htoken : tokenOf? symbols path number line (Scope.enclosingFunction? symbols path number)
        word =
      .ok ((resolved.bind TokenClass.ofSymbol?).map fun tokenClass =>
        Token.mk number word.start word.text.length tokenClass) := by
    rw [tokenOf?, choose_candidates hfields (field_accepts_eq_false hword hbefore), hresolve,
      stop_of_mem_codeWords hword]
    have hlength : word.start + word.text.length - word.start = word.text.length := by omega
    rw [hlength]
    rfl
  exact filter_tokensOn_start hword htoken

/-- Lines are numbered one by one. -/
theorem pairwise_zipIdx {α : Type} (list : List α) :
    list.zipIdx.Pairwise fun a b => a.2 < b.2 := by
  have hrange := List.pairwise_lt_range' (s := 0) (n := list.length)
  rw [← List.zipIdx_map_snd] at hrange
  exact List.pairwise_map.1 hrange

/-- The tokens at a word of a line are those of the line that start where the word does. -/
theorem filter_isAt {lines : List Text} {number : Nat} (hline : lines[number]? = some line)
    (start : Int) :
    (lines.zipIdx.flatMap fun numbered => tokensOn symbols path numbered.2 numbered.1).filter
        (fun token => token.isAt number start) =
      (tokensOn symbols path number line).filter fun token => token.start == start := by
  have hmem : (line, number) ∈ lines.zipIdx := by
    rwa [List.mk_mem_zipIdx_iff_getElem?]
  have hpairwise : lines.zipIdx.Pairwise fun a b => (a.2 : Int) ≠ b.2 :=
    (pairwise_zipIdx lines).imp fun hlt heq => by omega
  have honLine := filter_flatMap_eq (fun numbered => (numbered.2 : Int))
    (f := fun numbered : Text × Nat => tokensOn symbols path numbered.2 numbered.1)
    (fun _ _ htoken => line_of_mem_tokensOn htoken) hpairwise hmem
  rw [← honLine, List.filter_filter]
  exact List.filter_congr fun token _ => Bool.and_comm _ _

end Highlight

/-! ## Documents -/

/-- A document is highlighted, and on each line a word of the code that cannot be a field has a
token exactly if the word is resolved to a symbol that is no label. Then it has one token, which is
as long as the word and has the class of the symbol. -/
theorem Highlight.exists_tokens_iff_resolved {symbols : List Symbol}
    (hfields : ∀ t, Symbol.ofType t ∈ symbols → ∀ v ∈ t.fields, v.guard = .field)
    (path : Text) (lines : List Text) :
    ∃ found, tokens symbols path lines = .ok found ∧
      ∀ (number : Nat) (line : Text) (word : Word), lines[number]? = some line →
        word ∈ Line.codeWords line → Guard.field.admitsBefore (line.upTo word.start) = false →
        ∃ resolved, Scope.resolve? symbols path number line word = .ok resolved ∧
          ((∃ token ∈ found, token.isAt number word.start = true) ↔
            ∃ symbol, resolved = some symbol ∧ symbol.kind ≠ .label) ∧
          ∀ symbol, resolved = some symbol → symbol.kind ≠ .label →
            ∃ tokenClass : TokenClass, tokenClass.Fits symbol ∧
              found.filter (fun token => token.isAt number word.start) =
                [⟨number, word.start, word.text.length, tokenClass⟩] := by
  refine ⟨_, tokens_eq symbols path lines, fun number line word hline hword hbefore => ?_⟩
  obtain ⟨resolved, hresolve⟩ := Scope.exists_choose_eq_ok
    (Guard.exists_accepts_of_accepts (field_accepts_eq_false hword hbefore)) none
    ((Scope.visible symbols path number true).filter fun symbol => symbol.key == word.text.lower)
  have hfilter := (filter_isAt hline word.start).trans
    (filter_tokensOn hfields hword hbefore hresolve)
  refine ⟨resolved, hresolve, ⟨fun ⟨token, htoken, hat⟩ => ?_, fun ⟨symbol, heq, hkind⟩ => ?_⟩,
    fun symbol heq hkind => ?_⟩
  · have hmem : token ∈ List.filter (fun token => token.isAt number word.start) _ :=
      List.mem_filter.2 ⟨htoken, hat⟩
    rw [hfilter, Option.mem_toList, Option.map_eq_some_iff] at hmem
    obtain ⟨tokenClass, hclass, -⟩ := hmem
    obtain ⟨symbol, hsymbol, hclass⟩ := Option.bind_eq_some_iff.1 hclass
    exact ⟨symbol, hsymbol, TokenClass.kind_ne_label hclass⟩
  · obtain ⟨tokenClass, hclass, -⟩ := TokenClass.exists_ofSymbol?_eq hkind
    rw [heq, Option.bind_some, hclass, Option.map_some, Option.toList_some] at hfilter
    have hmem : Token.mk number word.start word.text.length tokenClass ∈
        List.filter (fun token => token.isAt number word.start) _ :=
      hfilter ▸ List.mem_singleton_self _
    exact ⟨_, List.mem_filter.1 hmem⟩
  · obtain ⟨tokenClass, hclass, hfits⟩ := TokenClass.exists_ofSymbol?_eq hkind
    rw [heq, Option.bind_some, hclass, Option.map_some, Option.toList_some] at hfilter
    exact ⟨tokenClass, hfits, hfilter⟩

/-- Where a parameter has the name of a field and of a global, its name has one token, the one of a
parameter. -/
theorem Highlight.exists_tokens_parameter :
    let disk := Disk.ofFile "lib.bb" [] 1
    let rules : IncludeRules := ⟨[], true, 2⟩
    let text : Text :=
      "Type T\nField x\nEnd Type\nGlobal x\nFunction f(x)\nPrint x\nEnd Function"
    let word : Word := ⟨6, 7, "x"⟩
    ∃ symbols found v, (extract disk rules "main.bb" text).1 = .ok symbols ∧
      tokens symbols "main.bb" text.lines = .ok found ∧ v.storage = .parameter ∧
      Scope.resolve? symbols "main.bb" 5 "Print x" word = .ok (some (.ofVariable v)) ∧
      found.filter (fun token => token.isAt 5 6) = [⟨5, 6, 1, .parameter⟩] := by
  intro disk rules text word
  have hok : (extract disk rules "main.bb" text).1.isOk = true := by decide +kernel
  have hparameter : ∀ symbols ∈ (extract disk rules "main.bb" text).1.toOption,
      (∀ t ∈ symbols.filterMap Symbol.asType?, ∀ v ∈ t.fields, v.guard = .field) ∧
      ∃ v ∈ (symbols.filterMap Symbol.asFunction?).flatMap Function.locals,
        v.storage = .parameter ∧
        Scope.resolve? symbols "main.bb" 5 "Print x" word = .ok (some (.ofVariable v)) := by
    decide +kernel
  have hword : word ∈ Line.codeWords "Print x" := by decide +kernel
  obtain ⟨symbols, hsymbols⟩ := exists_eq_ok_of_isOk hok
  rw [hsymbols] at hparameter
  obtain ⟨hfields, v, -, hstorage, hresolve⟩ := hparameter symbols rfl
  obtain ⟨found, hfound, hwords⟩ := exists_tokens_iff_resolved
    (fun t ht => hfields t (mem_filterMap_asType?.2 ht)) "main.bb" text.lines
  obtain ⟨resolved, hresolved, -, htoken⟩ := hwords 5 "Print x" word (by decide +kernel) hword
    (by decide +kernel)
  obtain rfl : resolved = some (.ofVariable v) := Except.ok.inj (hresolved.symm.trans hresolve)
  obtain ⟨tokenClass, hfits, hfilter⟩ := htoken _ rfl nofun
  refine ⟨symbols, found, v, hsymbols, hfound, hstorage, hresolve, ?_⟩
  cases hfits with
  | parameter => exact hfilter
  | field h => exact absurd (hstorage.symm.trans h) nofun
  | var h => exact absurd hstorage h

end BlitzLens
