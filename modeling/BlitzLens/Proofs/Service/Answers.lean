import BlitzLens.Proofs.Cache.Repetition
import BlitzLens.Proofs.Query.Answered
import BlitzLens.Proofs.Service.Coherence

/-!
# A service never falls back to an empty answer

A service answers with something empty, and records that a question failed, if it does not find the
symbols of the document or if the query about them fails. For a document over which a pass succeeds
the symbols are found, by a new pass or in the cache (`Service.run_symbols_ok`), and the queries do
not fail at a column that is not negative (`Position.answered`). What the service answers there is
what the query answers, and it is left as it was after the symbols were found, with no failure
recorded (`Service.AnswersQueries`).

## Main definitions

* `Service.passRules`: the rules for includes that the passes of a service follow.
* `Service.AnswersQueries`: the service passes on what the queries answer.

## Main results

* `Service.answersQueries`: it does wherever the symbols are found.
* `extract_queries_answered`: queries and service on a document over which a pass succeeds.
-/

namespace BlitzLens

variable {disk : Disk} {path text : Text}

/-! ## The symbols of a document -/

/-- For a document over which a pass succeeds, a cache with room for no less than no entry has
symbols. -/
theorem Cache.symbols_ok {cache : Cache} {found : List Symbol} (hcapacity : 0 ≤ cache.capacity)
    (h : (extract disk cache.rules path text).1 = .ok found) :
    ∃ listed, (cache.symbols disk path text).1 = .ok listed := by
  by_cases hhit : ∀ entry, cache.find? path text = some entry → entry.isCurrent disk = false
  · obtain ⟨cleared, heq, hrules, -, hcapacities, -⟩ := symbols_eq_runPass hhit
    rw [← hrules] at h
    -- one more entry does not change how many there is room for
    have hroom : (cleared.withOutcome path text found
        (extract disk cleared.rules path text).2.dependencies).makeRoom.2 = .ok () :=
      makeRoom_ok (show 0 ≤ cleared.capacity by omega)
    exact ⟨found, by rw [heq, (runPass_of_ok h).1, hroom]; rfl⟩
  · push Not at hhit
    obtain ⟨entry, hfind, hcurrent⟩ := hhit
    exact ⟨entry.symbols, (symbols_of_hit hfind (by simpa using hcurrent)).1⟩

namespace Service

variable {service next : Service} {listed : List Symbol}

/-- The rules for includes that the passes of a service follow: those of its cache, or those that
its settings and roots make. -/
def passRules (service : Service) : IncludeRules :=
  match service.cache with
  | some cache => cache.rules
  | none => includeRules service.settings service.roots

/-- The cache of a service, if there is one, has room for no less than no entry. -/
def HasRoom (service : Service) : Prop :=
  ∀ cache, service.cache = some cache → 0 ≤ cache.capacity

/-- A new service has room. -/
theorem hasRoom_ofStubs (settings : Settings) (roots : List Text) (stubs : StubTable)
    (useCache : Bool) (digest : Text → Text) :
    (ofStubs settings roots stubs useCache digest).HasRoom := by
  intro cache hcache
  cases useCache with
  | true =>
    obtain rfl : Cache.empty (includeRules settings roots) Cache.defaultCapacity digest = cache :=
      Option.some.inj hcache
    change 0 ≤ Cache.defaultCapacity
    decide
  | false => cases hcache

/-- For a document over which a pass succeeds, a service finds symbols. What it keeps besides its
cache and its events stays as it is. -/
theorem run_symbols_ok (hroom : service.HasRoom) {found : List Symbol}
    (h : (extract disk service.passRules path text).1 = .ok found) :
    ∃ listed next, (symbols disk path text).run service = (.ok listed, next) ∧
      next.settings = service.settings ∧ next.stubs = service.stubs := by
  cases hcache : service.cache with
  | some cache =>
    rw [passRules, hcache] at h
    obtain ⟨listed, hlisted⟩ := Cache.symbols_ok (hroom cache hcache) h
    have hrun : (symbols disk path text).run service = _ := run_symbols_of_cache hcache
    rw [hlisted] at hrun
    exact ⟨listed, _, hrun, rfl, rfl⟩
  | none =>
    rw [passRules, hcache] at h
    have hrun : (symbols disk path text).run service = _ := run_symbols_of_no_cache hcache
    rw [h] at hrun
    exact ⟨found, _, hrun, rfl, rfl⟩

/-! ## The answers -/

/-- What follows an answer is asked of the service that the answer leaves. -/
theorem run_bind_of_run {α β : Type} {first : Answer α} {rest : α → Answer β} {a : α}
    (h : first.run service = (a, next)) : (first >>= rest).run service = (rest a).run next := by
  rw [StateT.run_bind, h]
  rfl

/-- Where the symbols are found and the query answers, the service gives that answer and records
nothing more. -/
theorem run_atCaret_of_ok {α : Type} {answer : α} {position : Position}
    (hsymbols : (symbols disk path text).run service = (.ok listed, next))
    {ask : Service → List Symbol → List Text → Position → Except ColumnError α}
    (hask : ask next listed text.lines position = .ok answer) (query : CaretQuery) (empty : α) :
    (atCaret query disk path text (.ofPosition position) empty ask).run service =
      (answer, next) := by
  have hposition : (Caret.ofPosition position).position? = some position := rfl
  have hget : (get : Answer Service).run next = (next, next) := rfl
  unfold atCaret
  rw [run_bind_of_run hsymbols, run_bind_of_run hget]
  simp only [hposition, hask]
  rfl

/-- What a service answers about a position and about its document is what the queries answer from
the symbols `listed`, and the service is left as `next`: no failure is recorded. -/
structure AnswersQueries (disk : Disk) (path text : Text) (service : Service)
    (listed : List Symbol) (next : Service) (position : Position) (trigger : Option Text)
    (context : Option HelpContext) : Prop where
  /-- It shows what hover shows. -/
  hover : ∃ shown, BlitzLens.hover? listed service.stubs path text.lines position = .ok shown ∧
    (hover? disk path text (.ofPosition position)).run service = (shown, next)
  /-- It finds the places that definition finds. -/
  definition : ∃ places,
    BlitzLens.definition listed service.stubs path text.lines position = .ok places ∧
    (definition disk path text (.ofPosition position)).run service = (places, next)
  /-- It offers what completion offers. -/
  completion : ∃ items,
    BlitzLens.complete listed service.stubs path text.lines position trigger
      service.settings.bracketsEverywhere = .ok items ∧
    (complete disk path text (.ofPosition position) trigger).run service = (items, next)
  /-- It shows the signatures that signature help shows. -/
  signature : ∃ help,
    BlitzLens.signatureHelp? listed service.stubs text.lines position context = .ok help ∧
    (signatureHelp? disk path text (.ofPosition position) context).run service = (help, next)
  /-- It highlights the words that are found. -/
  highlights : ∃ words, Highlight.tokens listed path text.lines = .ok words ∧
    (tokens disk path text).run service = (words, next)
  /-- Its outline is that of the symbols. -/
  outline : (outline disk path text).run service = (BlitzLens.outline listed path, next)

/-- Where a service finds the symbols of a document, it answers as the queries do. -/
theorem answersQueries (hsymbols : (symbols disk path text).run service = (.ok listed, next))
    (hsettings : next.settings = service.settings) (hstubs : next.stubs = service.stubs)
    {position : Position} (hcharacter : 0 ≤ position.character) (trigger : Option Text)
    (context : Option HelpContext) :
    AnswersQueries disk path text service listed next position trigger context := by
  have hanswered := Position.answered listed service.stubs path text.lines hcharacter trigger
    service.settings.bracketsEverywhere context
  obtain ⟨shown, hshown⟩ := hanswered.hover
  obtain ⟨places, hplaces⟩ := hanswered.definition
  obtain ⟨items, hitems⟩ := hanswered.completion
  obtain ⟨help, hhelp⟩ := hanswered.signature
  obtain ⟨words, hwords⟩ := hanswered.highlights
  -- the query is asked with the settings and the stubs of the service behind the symbols
  refine ⟨⟨shown, hshown, ?_⟩, ⟨places, hplaces, ?_⟩, ⟨items, hitems, ?_⟩, ⟨help, hhelp, ?_⟩,
    ⟨words, hwords, ?_⟩, ?_⟩
  · exact run_atCaret_of_ok hsymbols (by rw [hstubs, hshown]) _ _
  · exact run_atCaret_of_ok hsymbols (by rw [hstubs, hplaces]) _ _
  · exact run_atCaret_of_ok hsymbols (by rw [hstubs, hsettings, hitems]) _ _
  · exact run_atCaret_of_ok hsymbols (by rw [hstubs, hhelp]) _ _
  · unfold tokens
    rw [run_bind_of_run hsymbols]
    simp only [hwords]
    rfl
  · unfold Service.outline
    rw [run_bind_of_run hsymbols]
    rfl

end Service

/-! ## Queries and service -/

/-- **No query fails.** Take a document over which a pass succeeds, any stubs, any line and any
column that is not negative, be it past the end of the line. The queries about the symbols and the
lines of the document have answers there. The search left of a field marker, on which some of them
rest, goes turn by turn through columns further and further to the left and stops for no other
reason. And a service that runs such a pass, with a cache or without one, passes these answers on:
it never answers with something empty for a failure, and never records one. -/
theorem extract_queries_answered {disk : Disk} {rules : IncludeRules} {path text : Text}
    {found : List Symbol} (h : (extract disk rules path text).1 = .ok found) :
    (∀ (stubs : StubTable) (position : Position) (trigger : Option Text) (brackets : Bool)
      (context : Option HelpContext), 0 ≤ position.character →
        position.Answered found stubs path text.lines trigger brackets context) ∧
    (∀ (line : Text) (column : Nat) (search : Nat → List Word →
        Except ColumnError (Option (List Word))), column ≤ line.length →
      (∀ marker < column, search marker = Scope.chainFrom? line marker) →
      ∀ chain, Scope.chainFrom? line column chain = Scope.chainTurn search line column chain) ∧
    ∀ service : Service, service.passRules = rules → service.HasRoom →
      ∃ listed next, (Service.symbols disk path text).run service = (.ok listed, next) ∧
        ∀ (position : Position) (trigger : Option Text) (context : Option HelpContext),
          0 ≤ position.character →
            service.AnswersQueries disk path text listed next position trigger context := by
  refine ⟨?_, ?_, ?_⟩
  · intro stubs position trigger brackets context hcharacter
    exact Position.answered found stubs path text.lines hcharacter trigger brackets context
  · intro line column search hcolumn hsearch chain
    exact Scope.chainFrom?_eq_turn hcolumn hsearch chain
  · intro service hrules hroom
    subst hrules
    obtain ⟨listed, next, hsymbols, hsettings, hstubs⟩ := Service.run_symbols_ok hroom h
    refine ⟨listed, next, hsymbols, ?_⟩
    intro position trigger context hcharacter
    exact Service.answersQueries hsymbols hsettings hstubs hcharacter trigger context

/-- A chain of fields is asked about far behind the end of its line, with a field marker as the
trigger. The search left of the marker finds the record, and completion offers the field that a
longer chain may go on with. -/
theorem extract_queries_answered_past_end :
    let disk := Disk.ofFile "lib.bb" [] 1
    let rules := Service.includeRules {} []
    let text : Text := "Type Node\nField nxt.Node\nEnd Type\nLocal n.Node\nn\\nxt\\"
    let position : Position := ⟨4, 40⟩
    let service := Service.ofStubs {} [] ⟨[]⟩ true
    ∃ found, (extract disk rules "main.bb" text).1 = .ok found ∧
      position.Answered found ⟨[]⟩ "main.bb" text.lines (some "\\") true none ∧
      (∃ items, complete found ⟨[]⟩ "main.bb" text.lines position (some "\\") true = .ok items ∧
        items.map CompletionItem.label = ["nxt".toList]) ∧
      ∃ listed next, (Service.symbols disk "main.bb" text).run service = (.ok listed, next) ∧
        service.AnswersQueries disk "main.bb" text listed next position (some "\\") none := by
  intro disk rules text position service
  -- what is offered is found by evaluation, and that it is offered says that the pass succeeds
  have hoffered : (extract disk rules "main.bb" text).1.toOption.map (fun found =>
      (complete found ⟨[]⟩ "main.bb" text.lines position (some "\\") true).toOption.map fun items =>
        items.map CompletionItem.label) = some (some ["nxt".toList]) := by
    decide +kernel
  obtain ⟨found, hfound, hlabels⟩ := exists_of_map_toOption hoffered
  obtain ⟨items, hitems, hlabels⟩ := exists_of_map_toOption hlabels
  obtain ⟨hqueries, -, hservices⟩ := extract_queries_answered hfound
  obtain ⟨listed, next, hsymbols, hanswers⟩ :=
    hservices service rfl (Service.hasRoom_ofStubs _ _ _ _ _)
  refine ⟨found, hfound, ?_, ⟨items, hitems, hlabels⟩, listed, next, hsymbols, ?_⟩
  · exact hqueries ⟨[]⟩ position (some "\\") true none (by decide)
  · exact hanswers position (some "\\") none (by decide)

end BlitzLens
