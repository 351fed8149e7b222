import BlitzLens.Proofs.Cache.Coherence
import BlitzLens.Service

/-!
# A service answers the same with and without a cache

Two services with the same settings, roots and stubs, one with a cache and one without, are asked
the same questions while files change between them. `Service.Twins` relates their states: the cache
is coherent, and everything else that an answer depends on is equal. Questions keep the relation and
get equal replies (`Service.Agree.reply`), so they do along every run (`Service.Twins.run`). Only
the events differ.
-/

namespace BlitzLens

namespace Service

/-! ## Questions and replies -/

/-- A question to a service. -/
inductive Question where
  /-- The symbols of a document. -/
  | symbols (path text : Text)
  /-- What is shown at a caret. -/
  | hover (path text : Text) (caret : Caret)
  /-- Where the word at a caret is declared. -/
  | definition (path text : Text) (caret : Caret)
  /-- The words that may be written at a caret. -/
  | completion (path text : Text) (caret : Caret) (trigger : Option Text)
  /-- The signatures of the call that is being written at a caret. -/
  | signature (path text : Text) (caret : Caret) (context : Option HelpContext)
  /-- The highlighted words of a document. -/
  | highlights (path text : Text)
  /-- The outline of a document. -/
  | outline (path text : Text)
  /-- The open points of a text. -/
  | todos (text : Text)

/-- The text whose symbols a question needs. -/
def Question.text? : Question → Option Text
  | .symbols _ text | .hover _ text _ | .definition _ text _ | .completion _ text _ _
  | .signature _ text _ _ | .highlights _ text | .outline _ text => some text
  | .todos _ => none

/-- The reply to a question. -/
inductive Reply where
  /-- Symbols, or why there are none. -/
  | symbols (found : Except CacheError (List Symbol))
  /-- What is shown. -/
  | hover (shown : Option Hover)
  /-- Where something is declared. -/
  | definition (locations : List Location)
  /-- What may be written. -/
  | completion (items : List CompletionItem)
  /-- The signatures of a call. -/
  | signature (help : Option SignatureHelp)
  /-- Highlighted words. -/
  | highlights (tokens : List Token)
  /-- An outline. -/
  | outline (nodes : List OutlineNode)
  /-- Open points. -/
  | todos (found : List Todo)

/-- The reply of a service to a question. -/
def reply (disk : Disk) : Question → Answer Reply
  | .symbols path text => return .symbols (← Service.symbols disk path text)
  | .hover path text caret => return .hover (← hover? disk path text caret)
  | .definition path text caret => return .definition (← definition disk path text caret)
  | .completion path text caret trigger =>
    return .completion (← complete disk path text caret trigger)
  | .signature path text caret context =>
    return .signature (← signatureHelp? disk path text caret context)
  | .highlights path text => return .highlights (← tokens disk path text)
  | .outline path text => return .outline (← Service.outline disk path text)
  | .todos text => return .todos (Service.todos (← get) text)

/-! ## Services side by side -/

/-- A service with a coherent cache and one without a cache that differ in nothing else but their
events. -/
structure Twins (digest : Text → Text) (disks : List Disk) (texts : List Text)
    (cached plain : Service) : Prop where
  /-- The settings are the same. -/
  settings : cached.settings = plain.settings
  /-- The roots are the same. -/
  roots : cached.roots = plain.roots
  /-- The stubs are the same. -/
  stubs : cached.stubs = plain.stubs
  /-- The first service has a coherent cache. -/
  coherent : ∃ cache, cached.cache = some cache ∧
    Cache.Coherent (includeRules plain.settings plain.roots) digest disks texts cache
  /-- The second service has none. -/
  no_cache : plain.cache = none

/-- Two answers are the same for twins, and leave twins. -/
def Agree {α : Type} (digest : Text → Text) (disks : List Disk) (texts : List Text)
    (answer answer' : Answer α) : Prop :=
  ∀ cached plain, Twins digest disks texts cached plain →
    (answer.run cached).1 = (answer'.run plain).1 ∧
      Twins digest disks texts (answer.run cached).2 (answer'.run plain).2

variable {α β : Type} {digest : Text → Text} {disks : List Disk} {texts : List Text} {disk : Disk}
  {path text : Text} {cached plain : Service}

theorem Agree.pure (a : α) : Agree digest disks texts (Pure.pure a) (Pure.pure a) :=
  fun _ _ h => ⟨rfl, h⟩

/-- Sequences of answers agree if their parts do. -/
theorem Agree.bind {first first' : Answer α} {next next' : α → Answer β}
    (hfirst : Agree digest disks texts first first')
    (hnext : ∀ a, Agree digest disks texts (next a) (next' a)) :
    Agree digest disks texts (first >>= next) (first' >>= next') := by
  intro cached plain h
  obtain ⟨hresult, htwins⟩ := hfirst cached plain h
  have hafter := hnext (first.run cached).1 _ _ htwins
  rw [StateT.run_bind, StateT.run_bind]
  change ((next (first.run cached).1).run (first.run cached).2).1 =
      ((next' (first'.run plain).1).run (first'.run plain).2).1 ∧
    Twins digest disks texts ((next (first.run cached).1).run (first.run cached).2).2
      ((next' (first'.run plain).1).run (first'.run plain).2).2
  rw [← hresult]
  exact hafter

/-- What is computed from the service agrees if it does for twins. -/
theorem Agree.get_bind {next next' : Service → Answer α}
    (h : ∀ cached plain, Twins digest disks texts cached plain →
      Agree digest disks texts (next cached) (next' plain)) :
    Agree digest disks texts (get >>= next) (get >>= next') :=
  fun cached plain htwins => h cached plain htwins cached plain htwins

/-- Events are not compared. -/
theorem Agree.record (events events' : List Event) :
    Agree digest disks texts (record events) (record events') :=
  fun _ _ h => ⟨rfl, h.settings, h.roots, h.stubs, h.coherent, h.no_cache⟩

/-! ## The symbols of a document -/

/-- A service with a cache asks its cache. -/
theorem run_symbols_of_cache {cache : Cache} (h : cached.cache = some cache) :
    (Service.symbols disk path text).run cached =
      ((cache.symbols disk path text).1,
        { cached with
          cache := some (cache.symbols disk path text).2.1
          events := cached.events ++ (cache.symbols disk path text).2.2 }) := by
  obtain ⟨settings, roots, stubs, kept, events⟩ := cached
  obtain rfl : kept = some cache := h
  rfl

/-- A service without a cache runs a pass. -/
theorem run_symbols_of_no_cache (h : plain.cache = none) :
    (Service.symbols disk path text).run plain =
      ((extract disk (includeRules plain.settings plain.roots) path text).1.mapError .failed,
        { plain with
          events := plain.events ++
            (extract disk (includeRules plain.settings plain.roots) path text).2.events }) := by
  obtain ⟨settings, roots, stubs, kept, events⟩ := plain
  obtain rfl : kept = none := h
  rfl

/-- What a moment needs for the answers of twins to agree: stamps tell, the disk is one of those
that are seen, and the digest tells the texts that are asked for. -/
structure Moment (digest : Text → Text) (disks : List Disk) (texts : List Text) (disk : Disk) :
    Prop where
  /-- Stamps tell when files change. -/
  tell : StampsTell disks
  /-- The disk is seen. -/
  disk_mem : disk ∈ disks
  /-- All disks start relative paths from one directory. -/
  here : ∀ d ∈ disks, d.here = disk.here
  /-- Different texts have different digests. -/
  digest_inj : ∀ t ∈ texts, ∀ t' ∈ texts, digest t = digest t' → t = t'

/-- Twins find the same symbols. -/
theorem Agree.symbols (moment : Moment digest disks texts disk) (htext : text ∈ texts) :
    Agree digest disks texts (Service.symbols disk path text) (Service.symbols disk path text) := by
  intro cached plain h
  -- what the cache answers and what the other service finds are both a new pass
  obtain ⟨cache, hcache, hcoherent⟩ := h.coherent
  rw [run_symbols_of_cache hcache, run_symbols_of_no_cache h.no_cache]
  refine ⟨?_, h.settings, h.roots, h.stubs, ⟨_, rfl, ?_⟩, h.no_cache⟩
  · exact hcoherent.symbols_eq moment.tell moment.here moment.disk_mem fun t ht =>
      moment.digest_inj t ht text htext
  · exact hcoherent.symbols moment.disk_mem htext

/-- Twins answer the same at a caret if the question looks at nothing but settings and stubs. -/
theorem Agree.atCaret (moment : Moment digest disks texts disk) (htext : text ∈ texts)
    (query : CaretQuery) (caret : Caret) (empty : α)
    {ask : Service → List Symbol → List Text → Position → Except ColumnError α}
    (hask : ∀ cached plain : Service, cached.settings = plain.settings →
      cached.stubs = plain.stubs → ask cached = ask plain) :
    Agree digest disks texts (Service.atCaret query disk path text caret empty ask)
      (Service.atCaret query disk path text caret empty ask) := by
  have hfailed : Agree digest disks texts (atCaret.failed query path caret empty)
      (atCaret.failed query path caret empty) :=
    (Agree.record _ _).bind fun _ => Agree.pure _
  unfold Service.atCaret
  -- with equal symbols, settings and stubs, both services take the same branch
  refine (Agree.symbols moment htext).bind fun found => Agree.get_bind fun cached plain h => ?_
  rw [hask cached plain h.settings h.stubs]
  split
  · split
    · exact Agree.pure _
    · exact hfailed
  · exact hfailed

/-- Twins reply the same to every question. -/
theorem Agree.reply (moment : Moment digest disks texts disk) {question : Question}
    (htext : ∀ text ∈ question.text?, text ∈ texts) :
    Agree digest disks texts (Service.reply disk question) (Service.reply disk question) := by
  -- besides the symbols, no question looks at anything but settings and stubs
  cases question with
  | symbols path text =>
    exact (Agree.symbols moment (htext text rfl)).bind fun _ => Agree.pure _
  | hover path text caret =>
    exact (Agree.atCaret moment (htext text rfl) _ _ _ fun cached plain _ hstubs => by
      simp only [hstubs]).bind fun _ => Agree.pure _
  | definition path text caret =>
    exact (Agree.atCaret moment (htext text rfl) _ _ _ fun cached plain _ hstubs => by
      simp only [hstubs]).bind fun _ => Agree.pure _
  | completion path text caret trigger =>
    exact (Agree.atCaret moment (htext text rfl) _ _ _ fun cached plain hsettings hstubs => by
      simp only [hsettings, hstubs]).bind fun _ => Agree.pure _
  | signature path text caret context =>
    exact (Agree.atCaret moment (htext text rfl) _ _ _ fun cached plain _ hstubs => by
      simp only [hstubs]).bind fun _ => Agree.pure _
  | highlights path text =>
    refine Agree.bind (Agree.bind (Agree.symbols moment (htext text rfl)) fun found => ?_)
      fun _ => Agree.pure _
    split
    · split
      · exact Agree.pure _
      · exact (Agree.record _ _).bind fun _ => Agree.pure _
    · exact (Agree.record _ _).bind fun _ => Agree.pure _
  | outline path text =>
    refine Agree.bind (Agree.bind (Agree.symbols moment (htext text rfl)) fun found => ?_)
      fun _ => Agree.pure _
    split
    · exact Agree.pure _
    · exact (Agree.record _ _).bind fun _ => Agree.pure _
  | todos text =>
    refine Agree.get_bind fun cached plain h => ?_
    rw [Service.todos, Service.todos, h.settings]
    exact Agree.pure _

/-! ## Runs -/

/-- The service after a step on a disk. -/
def after (service : Service) (disk : Disk) : Step Question → Service
  | .ask question => ((reply disk question).run service).2
  | .change .. => service
  | .invalidate path =>
    { service with cache := service.cache.map fun cache => cache.invalidate path }

/-- A step leaves twins. -/
theorem Twins.after (h : Twins digest disks texts cached plain)
    (moment : Moment digest disks texts disk) {step : Step Question}
    (htext : ∀ text ∈ step.request?.bind Question.text?, text ∈ texts) :
    Twins digest disks texts (cached.after disk step) (plain.after disk step) := by
  cases step with
  | ask question => exact (Agree.reply moment htext cached plain h).2
  | change read stat => exact h
  | invalidate path =>
    obtain ⟨cache, hcache, hcoherent⟩ := h.coherent
    refine ⟨h.settings, h.roots, h.stubs,
      ⟨cache.invalidate path, ?_, hcoherent.invalidate path⟩, ?_⟩
    · simp [Service.after, hcache]
    · simp [Service.after, h.no_cache]

/-- A run leaves twins. -/
theorem Twins.run (h : Twins digest disks texts cached plain) {steps : List (Step Question)}
    (hmoment : ∀ d ∈ Step.disks disk steps, Moment digest disks texts d)
    (htexts : Step.askedTexts Question.text? steps ⊆ texts) :
    Twins digest disks texts (Step.run Service.after cached disk steps)
      (Step.run Service.after plain disk steps) := by
  induction steps generalizing cached plain disk with
  | nil => exact h
  | cons step steps ih =>
    have moment := hmoment disk (Step.mem_disks_self disk _)
    exact ih (h.after moment fun text htext => htexts (Step.mem_askedTexts_head htext))
      (fun d hd => hmoment d (List.mem_cons_of_mem _ hd))
      (fun t ht => htexts (Step.askedTexts_tail_subset _ step steps ht))

/-- New services with and without a cache are twins. -/
theorem twins_ofStubs (digest : Text → Text) (settings : Settings) (roots : List Text)
    (stubs : StubTable) :
    Twins digest disks texts (.ofStubs settings roots stubs true digest)
      (.ofStubs settings roots stubs false digest) where
  settings := rfl
  roots := rfl
  stubs := rfl
  coherent := ⟨_, rfl, Cache.coherent_empty (by decide)⟩
  no_cache := rfl

/-- On every disk that a run meets, the answers of twins agree. -/
theorem moment_of_mem_disks {steps : List (Step Question)}
    (tell : StampsTell (Step.disks disk steps))
    (hdigest : ∀ t ∈ texts, ∀ t' ∈ texts, digest t = digest t' → t = t') {d : Disk}
    (hd : d ∈ Step.disks disk steps) : Moment digest (Step.disks disk steps) texts d where
  tell := tell
  disk_mem := hd
  here d' hd' := by rw [Step.here_of_mem_disks hd, Step.here_of_mem_disks hd']
  digest_inj := hdigest

/-- New services with and without a cache are twins after any run. -/
theorem twins_run_ofStubs (settings : Settings) (roots : List Text) (stubs : StubTable)
    {steps : List (Step Question)} (tell : StampsTell (Step.disks disk steps))
    (hdigest : ∀ t ∈ texts, ∀ t' ∈ texts, digest t = digest t' → t = t')
    (htexts : Step.askedTexts Question.text? steps ⊆ texts) :
    Twins digest (Step.disks disk steps) texts
      (Step.run Service.after (.ofStubs settings roots stubs true digest) disk steps)
      (Step.run Service.after (.ofStubs settings roots stubs false digest) disk steps) :=
  (twins_ofStubs digest settings roots stubs).run (fun _ hd => moment_of_mem_disks tell hdigest hd)
    htexts

/-- After any run, a service with a cache replies as one without. -/
theorem reply_run_ofStubs (settings : Settings) (roots : List Text) (stubs : StubTable)
    {steps : List (Step Question)} {question : Question}
    (tell : StampsTell (Step.disks disk steps))
    (hdigest : ∀ t ∈ Step.askedTexts Question.text? (steps ++ [.ask question]),
      ∀ t' ∈ Step.askedTexts Question.text? (steps ++ [.ask question]),
        digest t = digest t' → t = t') :
    ((reply (Step.lastDisk disk steps) question).run
        (Step.run Service.after (.ofStubs settings roots stubs true digest) disk steps)).1 =
      ((reply (Step.lastDisk disk steps) question).run
        (Step.run Service.after (.ofStubs settings roots stubs false digest) disk steps)).1 := by
  have hasked : Step.askedTexts Question.text? (steps ++ [.ask question]) =
      Step.askedTexts Question.text? steps ++ Step.askedTexts Question.text? [.ask question] :=
    List.filterMap_append
  have htwins := twins_run_ofStubs settings roots stubs tell hdigest fun t ht => by
    rw [hasked]
    exact List.mem_append_left _ ht
  have moment := moment_of_mem_disks tell hdigest (Step.lastDisk_mem_disks disk steps)
  refine (Agree.reply moment (fun text htext => ?_) _ _ htwins).1
  rw [hasked]
  exact List.mem_append_right _ (Step.mem_askedTexts_head htext)

/-! ## The cache is transparent -/

/-- **A cache changes no answer.** Take any cache with room for no less than no entry, or any
service that uses a cache, and any run of requests, changes of files and invalidations in which
stamps tell when a file has changed and the digest tells the texts that are asked for. The next
request to the cache is answered as by a new pass on the disk of that moment, which also fails if
and only if that pass fails, and the next question to the service is answered as by a service
without a cache. -/
theorem cache_transparent (digest : Text → Text) (disk : Disk) :
    (∀ (rules : IncludeRules) (capacity : Int) (steps : List (Step (Text × Text)))
      (path text : Text), 0 ≤ capacity → StampsTell (Step.disks disk steps) →
      (∀ t ∈ Step.askedTexts (fun request => some request.2) steps,
        digest t = digest text → t = text) →
      ((Step.run Cache.after (.empty rules capacity digest) disk steps).symbols
          (Step.lastDisk disk steps) path text).1 =
        (extract (Step.lastDisk disk steps) rules path text).1.mapError .failed) ∧
    (∀ (settings : Settings) (roots : List Text) (stubs : StubTable)
      (steps : List (Step Question)) (question : Question),
      StampsTell (Step.disks disk steps) →
      (∀ t ∈ Step.askedTexts Question.text? (steps ++ [.ask question]),
        ∀ t' ∈ Step.askedTexts Question.text? (steps ++ [.ask question]),
          digest t = digest t' → t = t') →
      ((reply (Step.lastDisk disk steps) question).run
          (Step.run Service.after (.ofStubs settings roots stubs true digest) disk steps)).1 =
        ((reply (Step.lastDisk disk steps) question).run
          (Step.run Service.after (.ofStubs settings roots stubs false digest) disk steps)).1) :=
  ⟨fun _ _ _ _ _ hcapacity tell hdigest => Cache.symbols_run_empty hcapacity tell hdigest,
    fun settings roots stubs _ _ tell hdigest =>
      reply_run_ofStubs settings roots stubs tell hdigest⟩

/-- An included file changes between two requests: the second one is answered from the new text of
the file, by the cache as by a service with a cache. -/
theorem cache_transparent_changed_include :
    let before := Disk.ofFile "lib.bb" (Encoding.encodeUtf8 "Global a") 1
    let after := Disk.ofFile "lib.bb" (Encoding.encodeUtf8 "Global b") 2
    let rules : IncludeRules := ⟨[], true, 32⟩
    let text : Text := "Include \"lib.bb\""
    let requests := [.ask ("main.bb".toList, text), .change after.read after.stat]
    let cache := Step.run Cache.after (.empty rules 64) before requests
    let questions := [.ask (.symbols "main.bb" text), .change after.read after.stat]
    let service (useCache : Bool) :=
      Step.run Service.after (.ofStubs {} [] ⟨[]⟩ useCache) before questions
    StampsTell (Step.disks before requests) ∧ StampsTell (Step.disks before questions) ∧
      (cache.symbols after "main.bb" text).1 =
        (extract after rules "main.bb" text).1.mapError .failed ∧
      ((extract after rules "main.bb" text).1.toOption.map fun symbols =>
        symbols.map fun symbol => symbol.declared.name) = some ["b".toList] ∧
      ((reply after (.outline "main.bb" text)).run (service true)).1 =
        ((reply after (.outline "main.bb" text)).run (service false)).1 := by
  intro before after rules text requests cache questions service
  have tell : StampsTell [before, before, after] :=
    stampsTell_ofFile "lib.bb" [(Encoding.encodeUtf8 "Global a", 1),
      (Encoding.encodeUtf8 "Global a", 1), (Encoding.encodeUtf8 "Global b", 2)] (by simp)
  refine ⟨tell, tell, ?_, by decide +kernel, ?_⟩
  · exact (cache_transparent id before).1 rules 64 requests "main.bb" text (by decide) tell
      fun _ _ h => h
  · exact (cache_transparent id before).2 {} [] ⟨[]⟩ questions (.outline "main.bb" text) tell
      fun _ _ _ _ h => h

end Service

end BlitzLens
