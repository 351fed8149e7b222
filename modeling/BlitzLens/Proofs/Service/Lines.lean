import BlitzLens.Proofs.Service.Coherence
import BlitzLens.Proofs.Text.Lines

/-!
# The endings of lines do not matter

A pass, the search for open points and the questions of an editor look at a text through its lines
only. So texts with the same lines are the same to all of them (`Text.SameAnswers`), and in
particular the ways to join the same lines to a text are, whatever endings they take. A cache does
tell the texts apart, as it keeps them by their digests, but what it answers is what a new pass
finds.
-/

namespace BlitzLens

variable {disk : Disk} {text text' : Text}

/-! ## Passes and open points -/

/-- A pass reads the lines of a document. -/
theorem extract_eq_of_lines_eq (hlines : text.lines = text'.lines) (rules : IncludeRules)
    (path : Text) : extract disk rules path text = extract disk rules path text' := by
  have hsource : Source.ofText path text = Source.ofText path text' := by
    rw [Source.ofText, Source.ofText, hlines]
  have hscan (depth : Nat) (chain : List Text) :
      Extraction.scan disk rules depth path text chain =
        Extraction.scan disk rules depth path text' chain := by
    cases depth <;> rw [Extraction.scan, Extraction.scan, hsource]
  rw [extract, extract, Extraction.pass, Extraction.pass, hscan]

/-- Open points are found line by line. -/
theorem Todo.find_eq_of_lines_eq (hlines : text.lines = text'.lines) (tags : List Text) :
    Todo.find text tags = Todo.find text' tags := by
  rw [Todo.find, Todo.find, hlines]

/-! ## Questions -/

namespace Service

/-- A question, asked about another text. -/
def Question.withText (question : Question) (text : Text) : Question :=
  match question with
  | .symbols path _ => .symbols path text
  | .hover path _ caret => .hover path text caret
  | .definition path _ caret => .definition path text caret
  | .completion path _ caret trigger => .completion path text caret trigger
  | .signature path _ caret context => .signature path text caret context
  | .highlights path _ => .highlights path text
  | .outline path _ => .outline path text
  | .todos _ => .todos text

variable {service : Service} {path : Text}

/-- A question at a caret looks at the symbols and at the lines. -/
theorem run_atCaret_eq_of_lines_eq {α : Type} (hlines : text.lines = text'.lines)
    (hsymbols : (symbols disk path text).run service = (symbols disk path text').run service)
    (query : CaretQuery) (caret : Caret) (empty : α)
    (ask : Service → List Symbol → List Text → Position → Except ColumnError α) :
    (atCaret query disk path text caret empty ask).run service =
      (atCaret query disk path text' caret empty ask).run service := by
  unfold atCaret
  rw [StateT.run_bind, StateT.run_bind, hsymbols, hlines]

/-- Where a service finds the same symbols for texts with the same lines, it replies the same to
every question about them, and is left the same. -/
theorem run_reply_eq_of_lines_eq (hlines : text.lines = text'.lines)
    (hsymbols : ∀ path,
      (symbols disk path text).run service = (symbols disk path text').run service)
    (question : Question) :
    (reply disk (question.withText text)).run service =
      (reply disk (question.withText text')).run service := by
  have hcaret {α : Type} (query : CaretQuery) (path : Text) (caret : Caret) (empty : α) ask :=
    run_atCaret_eq_of_lines_eq hlines (hsymbols path) query caret empty ask
  -- a question asks for the symbols first, and what it does then sees the text by its lines only
  cases question with
  | symbols path _ =>
    simp only [Question.withText, reply, StateT.run_bind, hsymbols path]
  | hover path _ caret =>
    simp only [Question.withText, reply, hover?, StateT.run_bind, hcaret .hover path caret]
  | definition path _ caret =>
    simp only [Question.withText, reply, definition, StateT.run_bind, hcaret .definition path caret]
  | completion path _ caret trigger =>
    simp only [Question.withText, reply, complete, StateT.run_bind, hcaret .completion path caret]
  | signature path _ caret context =>
    simp only [Question.withText, reply, signatureHelp?, StateT.run_bind,
      hcaret .signature path caret]
  | highlights path _ =>
    simp only [Question.withText, reply, tokens, StateT.run_bind, hsymbols path, hlines]
  | outline path _ =>
    simp only [Question.withText, reply, Service.outline, StateT.run_bind, hsymbols path]
  | todos _ =>
    simp only [Question.withText, reply, todos, Todo.find_eq_of_lines_eq hlines]

/-- A service without a cache replies the same to every question about texts with the same lines,
and is left the same. -/
theorem run_reply_eq_of_no_cache (hcache : service.cache = none)
    (hlines : text.lines = text'.lines) (question : Question) :
    (reply disk (question.withText text)).run service =
      (reply disk (question.withText text')).run service := by
  refine run_reply_eq_of_lines_eq hlines (fun path => ?_) question
  rw [run_symbols_of_no_cache hcache, run_symbols_of_no_cache hcache,
    extract_eq_of_lines_eq hlines]

/-- A service with a cache replies the same to every question about texts with the same lines,
because its twin does. -/
theorem Twins.reply_eq_of_lines_eq {digest : Text → Text} {disks : List Disk} {texts : List Text}
    {cached plain : Service} (h : Twins digest disks texts cached plain)
    (moment : Moment digest disks texts disk) (htext : text ∈ texts) (htext' : text' ∈ texts)
    (hlines : text.lines = text'.lines) (question : Question) :
    ((reply disk (question.withText text)).run cached).1 =
      ((reply disk (question.withText text')).run cached).1 := by
  -- the cache keeps the two texts apart, so the service without one is asked in its place
  have hagree {t : Text} (ht : t ∈ texts) :
      ((reply disk (question.withText t)).run cached).1 =
        ((reply disk (question.withText t)).run plain).1 := by
    refine (Agree.reply moment (fun asked hasked => ?_) cached plain h).1
    cases question <;> cases hasked <;> exact ht
  calc ((reply disk (question.withText text)).run cached).1
      = ((reply disk (question.withText text)).run plain).1 := hagree htext
    _ = ((reply disk (question.withText text')).run plain).1 := by
        rw [run_reply_eq_of_no_cache h.no_cache hlines]
    _ = ((reply disk (question.withText text')).run cached).1 := (hagree htext').symm

end Service

/-! ## Joinings of the same lines -/

/-- Two texts are the same to everything that is asked about them on a disk. -/
structure Text.SameAnswers (disk : Disk) (text text' : Text) : Prop where
  /-- A pass finds the same symbols or fails the same, and leaves the same trace. -/
  extract : ∀ rules path,
    BlitzLens.extract disk rules path text = BlitzLens.extract disk rules path text'
  /-- The same open points are found, whatever the tags. -/
  todos : ∀ tags, Todo.find text tags = Todo.find text' tags
  /-- A service without a cache gives the same reply to every question, and is left the same. -/
  reply : ∀ (service : Service) (question : Service.Question), service.cache = none →
    (Service.reply disk (question.withText text)).run service =
      (Service.reply disk (question.withText text')).run service
  /-- After any run that ends on the disk, a service with a cache gives the same reply to every
  question, if stamps tell when files change and the digest tells the texts that are asked for. -/
  reply_cached : ∀ (settings : Settings) (roots : List Text) (stubs : StubTable)
    (digest : Text → Text) (start : Disk) (steps : List (Step Service.Question))
    (question : Service.Question), Step.lastDisk start steps = disk →
    StampsTell (Step.disks start steps) →
    (∀ t ∈ text :: text' :: Step.askedTexts Service.Question.text? steps,
      ∀ t' ∈ text :: text' :: Step.askedTexts Service.Question.text? steps,
        digest t = digest t' → t = t') →
    let service := Step.run Service.after (.ofStubs settings roots stubs true digest) start steps
    ((Service.reply disk (question.withText text)).run service).1 =
      ((Service.reply disk (question.withText text')).run service).1

/-- Texts with the same lines are the same to everything that is asked about them. -/
theorem Text.SameAnswers.of_lines_eq (hlines : text.lines = text'.lines) :
    Text.SameAnswers disk text text' where
  extract := extract_eq_of_lines_eq hlines
  todos := Todo.find_eq_of_lines_eq hlines
  reply service question hcache := Service.run_reply_eq_of_no_cache hcache hlines question
  reply_cached settings roots stubs digest start steps question hlast tell hdigest := by
    subst hlast
    -- the texts that tell apart are those of the run and the two that are asked about
    have htwins := Service.twins_run_ofStubs settings roots stubs tell hdigest fun t ht =>
      List.mem_cons_of_mem _ (List.mem_cons_of_mem _ ht)
    have moment := Service.moment_of_mem_disks tell hdigest (Step.lastDisk_mem_disks start steps)
    exact htwins.reply_eq_of_lines_eq moment (by simp) (by simp) hlines question

/-- **The endings of lines do not matter.** Take any lines without endings, and any endings between
them such that no empty line stands between a lone carriage return and a lone line feed. The lines
of the text that they are joined to are these lines. So if other endings are taken for the same
lines, then on the same disk every pass, every search for open points and every question to a
service have the same outcome. -/
theorem Text.lines_text_sameAnswers (joining : Text.Joining) :
    joining.text.lines = joining.lines ∧
      ∀ other : Text.Joining, other.lines = joining.lines →
        ∀ disk, Text.SameAnswers disk joining.text other.text := by
  refine ⟨joining.lines_text, fun other hsame disk => .of_lines_eq ?_⟩
  rw [joining.lines_text, other.lines_text, hsame]

/-- A document with a function, an open point and empty lines is saved with one ending for all
lines, and again with a mixture. A pass finds the same function and the same global, and a service
whose cache has seen the first text only shows the same for the second. -/
theorem Text.lines_text_sameAnswers_mixed :
    let uniform : Text.Joining :=
      ⟨"; TODO: keep", [(.crlf, []), (.crlf, "Function Twice(n)"), (.crlf, "Return n * 2"),
        (.crlf, "End Function"), (.crlf, []), (.crlf, "Global size = Twice(4)")],
        by decide, by decide⟩
    let mixed : Text.Joining :=
      ⟨"; TODO: keep", [(.lf, []), (.cr, "Function Twice(n)"), (.lf, "Return n * 2"),
        (.crlf, "End Function"), (.cr, []), (.cr, "Global size = Twice(4)")],
        by decide, by decide⟩
    let disk := Disk.ofFile "lib.bb" [] 1
    let asked := [.ask (.symbols "main.bb" uniform.text)]
    let service := Step.run Service.after (.ofStubs {} [] ⟨[]⟩ true) disk asked
    let caret := Caret.ofPosition ⟨6, 15⟩
    mixed.lines = uniform.lines ∧ uniform.text ≠ mixed.text ∧ StampsTell (Step.disks disk asked) ∧
      uniform.text.lines = uniform.lines ∧
      extract disk ⟨[], true, 32⟩ "main.bb" uniform.text =
        extract disk ⟨[], true, 32⟩ "main.bb" mixed.text ∧
      ((extract disk ⟨[], true, 32⟩ "main.bb" mixed.text).1.toOption.map fun symbols =>
        symbols.map fun symbol => symbol.declared.name) =
          some ["Twice".toList, "size".toList] ∧
      Todo.find uniform.text Todo.defaultTags = Todo.find mixed.text Todo.defaultTags ∧
      ((Service.hover? disk "main.bb" mixed.text caret).run service).1.isSome = true ∧
      ((Service.reply disk (.hover "main.bb" uniform.text caret)).run service).1 =
        ((Service.reply disk (.hover "main.bb" mixed.text caret)).run service).1 := by
  intro uniform mixed disk asked service caret
  have hsame : mixed.lines = uniform.lines := rfl
  have tell : StampsTell (Step.disks disk asked) :=
    stampsTell_ofFile "lib.bb" [([], 1), ([], 1)] (by simp)
  obtain ⟨hlines, hothers⟩ := Text.lines_text_sameAnswers uniform
  have h := hothers mixed hsame disk
  refine ⟨hsame, by decide +kernel, tell, hlines, h.extract _ _, by decide +kernel, h.todos _,
    by decide +kernel, ?_⟩
  exact h.reply_cached {} [] ⟨[]⟩ id disk asked (.hover "main.bb" [] caret) rfl tell
    fun _ _ _ _ h => h

end BlitzLens
