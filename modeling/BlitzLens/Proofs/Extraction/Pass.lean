import BlitzLens.Extraction.Scan

/-!
# Passes as functions of their trace

A pass is run by handing it the trace so far. This file gives the run of each way to build a pass,
and three relations that are kept by sequencing and by going through a list, so that a fact about a
whole pass follows from the facts about its lines:

- `Pass.Yields`: the result of a pass is a given one, whatever the trace;
- `Pass.Keeps`: a pass keeps a property of the trace;
- `Pass.Follows`: a pass records the paths that another one records and yields the same, as long as
  the recorded paths satisfy a condition.
-/

namespace BlitzLens

/-- The paths that a trace depends on, in order. -/
def Trace.paths (trace : Trace) : List Text :=
  trace.dependencies.map Dependency.path

namespace Trace

/-- A path is recorded once, behind those recorded before. -/
theorem paths_depend (trace : Trace) (path : Text) (stamp : Option Stamp) :
    (trace.depend path stamp).paths =
      if path ∈ trace.paths then trace.paths else trace.paths ++ [path] := by
  have known : (trace.dependencies.any fun dependency => dependency.path == path) = true ↔
      path ∈ trace.paths := by
    simp [paths]
  by_cases h : path ∈ trace.paths
  · rw [if_pos h]
    simp only [depend, known.2 h, ↓reduceIte, paths, List.map_map]
    apply List.map_congr_left
    intro dependency _
    by_cases same : dependency.path = path <;> simp [same]
  · rw [if_neg h]
    simp only [depend, mt known.1 h, ↓reduceIte, paths, List.map_append, List.map_cons,
      List.map_nil, Bool.false_eq_true]

/-- A recorded path is among the paths. -/
theorem mem_paths_depend (trace : Trace) (path : Text) (stamp : Option Stamp) :
    path ∈ (trace.depend path stamp).paths := by
  rw [paths_depend]
  split
  · assumption
  · simp

/-- Recording a path keeps those recorded before. -/
theorem paths_subset_depend (trace : Trace) (path : Text) (stamp : Option Stamp) :
    trace.paths ⊆ (trace.depend path stamp).paths := by
  rw [paths_depend]
  split
  · exact fun _ h => h
  · exact List.subset_append_left _ _

end Trace

namespace Pass

variable {α β σ : Type}

/-- What a pass yields when it is handed a trace, and the trace that it leaves. -/
def outcome (pass : Pass α) (trace : Trace) : Except ExtractError α × Trace :=
  pass.run.run trace

@[simp]
theorem outcome_pure (a : α) (trace : Trace) : outcome (pure a) trace = (.ok a, trace) := rfl

@[simp]
theorem outcome_throw (error : ExtractError) (trace : Trace) :
    outcome (throw error : Pass α) trace = (.error error, trace) := rfl

@[simp]
theorem outcome_modify (f : Trace → Trace) (trace : Trace) :
    outcome (modify f) trace = (.ok (), f trace) := rfl

/-- The second pass of a sequence is handed the trace of the first, unless the first fails. -/
theorem outcome_bind (first : Pass α) (next : α → Pass β) (trace : Trace) :
    outcome (first >>= next) trace =
      match outcome first trace with
      | (.ok a, middle) => outcome (next a) middle
      | (.error error, middle) => (.error error, middle) := by
  unfold outcome
  rw [ExceptT.run_bind, StateT.run_bind]
  rcases first.run.run trace with ⟨_ | a, middle⟩ <;> rfl

/-- Going through a list in two ways that agree on its elements. -/
theorem foldlM_congr {step step' : σ → α → Pass σ} {list : List α}
    (h : ∀ a ∈ list, ∀ s, step s a = step' s a) (start : σ) :
    list.foldlM step start = list.foldlM step' start := by
  induction list generalizing start with
  | nil => rfl
  | cons a list ih =>
    rw [List.foldlM_cons, List.foldlM_cons, h a List.mem_cons_self]
    exact congrArg _ (funext fun s => ih (fun b hb => h b (List.mem_cons_of_mem _ hb)) s)

/-! ## The result alone -/

/-- A pass yields `result`, whatever the trace. -/
def Yields (pass : Pass α) (result : Except ExtractError α) : Prop :=
  ∀ trace, (outcome pass trace).1 = result

theorem Yields.pure (a : α) : Yields (Pure.pure a) (.ok a) := fun _ => rfl

theorem Yields.throw (error : ExtractError) : Yields (throw error : Pass α) (.error error) :=
  fun _ => rfl

theorem Yields.modify (f : Trace → Trace) : Yields (modify f) (.ok ()) := fun _ => rfl

/-- A sequence yields what its second pass yields for the result of the first. -/
theorem Yields.bind {first : Pass α} {next : α → Pass β} {middle : Except ExtractError α}
    {result : α → Except ExtractError β} (hfirst : Yields first middle)
    (hnext : ∀ a, Yields (next a) (result a)) : Yields (first >>= next) (middle >>= result) := by
  intro trace
  rw [outcome_bind]
  have h := hfirst trace
  rcases hrun : outcome first trace with ⟨_ | a, after⟩
  · rw [hrun] at h
    subst h
    rfl
  · rw [hrun] at h
    subst h
    exact hnext a after

/-- Going through a list yields what going through it without a trace yields. -/
theorem Yields.foldlM {step : σ → α → Pass σ} {pure : σ → α → Except ExtractError σ}
    (hstep : ∀ s a, Yields (step s a) (pure s a)) (list : List α) (start : σ) :
    Yields (list.foldlM step start) (list.foldlM pure start) := by
  induction list generalizing start with
  | nil => exact Yields.pure start
  | cons a list ih =>
    rw [List.foldlM_cons, List.foldlM_cons]
    exact (hstep start a).bind ih

/-! ## Properties of the trace -/

/-- A pass keeps the property `inv` of the trace. -/
def Keeps (inv : Trace → Prop) (pass : Pass α) : Prop :=
  ∀ trace, inv trace → inv (outcome pass trace).2

variable {inv : Trace → Prop}

theorem Keeps.pure (a : α) : Keeps inv (Pure.pure a) := fun _ h => h

theorem Keeps.throw (error : ExtractError) : Keeps inv (throw error : Pass α) := fun _ h => h

theorem Keeps.modify {f : Trace → Trace} (hf : ∀ trace, inv trace → inv (f trace)) :
    Keeps inv (modify f) := hf

/-- A sequence keeps what both of its passes keep. -/
theorem Keeps.bind {first : Pass α} {next : α → Pass β} (hfirst : Keeps inv first)
    (hnext : ∀ a, Keeps inv (next a)) : Keeps inv (first >>= next) := by
  intro trace htrace
  have h := hfirst trace htrace
  rw [outcome_bind]
  rcases hrun : outcome first trace with ⟨_ | a, middle⟩ <;> rw [hrun] at h
  · exact h
  · exact hnext a middle h

/-- Going through a list keeps what every step keeps. -/
theorem Keeps.foldlM {step : σ → α → Pass σ} {list : List α}
    (hstep : ∀ s, ∀ a ∈ list, Keeps inv (step s a)) (start : σ) :
    Keeps inv (list.foldlM step start) := by
  induction list generalizing start with
  | nil => exact Keeps.pure start
  | cons a list ih =>
    rw [List.foldlM_cons]
    exact (hstep start a List.mem_cons_self).bind
      (ih fun s b hb => hstep s b (List.mem_cons_of_mem _ hb))

/-! ## Two passes side by side -/

/-- `other` follows `pass` where `same` holds: handed traces with the same paths, `pass` keeps its
paths, and if `same` holds of all paths in the end, `other` yields what `pass` yields and records
the same paths. -/
def Follows (same : Text → Prop) (pass other : Pass α) : Prop :=
  ∀ trace trace' : Trace, trace'.paths = trace.paths →
    trace.paths ⊆ (outcome pass trace).2.paths ∧
      ((∀ path ∈ (outcome pass trace).2.paths, same path) →
        (outcome other trace').1 = (outcome pass trace).1 ∧
          (outcome other trace').2.paths = (outcome pass trace).2.paths)

variable {same : Text → Prop}

theorem Follows.pure (a : α) : Follows same (Pure.pure a) (Pure.pure a) :=
  fun _ _ h => ⟨fun _ hp => hp, fun _ => ⟨rfl, h⟩⟩

theorem Follows.throw (error : ExtractError) :
    Follows same (throw error : Pass α) (throw error) :=
  fun _ _ h => ⟨fun _ hp => hp, fun _ => ⟨rfl, h⟩⟩

/-- Events need not agree. -/
theorem Follows.report (event event' : Event) :
    Follows same (Extraction.report event) (Extraction.report event') :=
  fun _ _ h => ⟨fun _ hp => hp, fun _ => ⟨rfl, h⟩⟩

/-- A pass that is followed keeps its paths. -/
theorem Follows.grows {pass other : Pass α} (h : Follows same pass other) (trace : Trace) :
    trace.paths ⊆ (outcome pass trace).2.paths :=
  (h trace trace rfl).1

/-- Sequences follow each other if their parts do. -/
theorem Follows.bind {first first' : Pass α} {next next' : α → Pass β}
    (hfirst : Follows same first first') (hnext : ∀ a, Follows same (next a) (next' a)) :
    Follows same (first >>= next) (first' >>= next') := by
  intro trace trace' hpaths
  obtain ⟨hkept, hsame⟩ := hfirst trace trace' hpaths
  rw [outcome_bind, outcome_bind]
  rcases hrun : outcome first trace with ⟨_ | a, middle⟩
  · -- the first part fails, and so does the other one, so that nothing follows
    rw [hrun] at hkept hsame
    refine ⟨hkept, fun h => ?_⟩
    obtain ⟨hresult, hafter⟩ := hsame h
    rcases hrun' : outcome first' trace' with ⟨_ | a', middle'⟩ <;> rw [hrun'] at hresult hafter
    · exact ⟨by simpa using hresult, hafter⟩
    · cases hresult
  · -- the paths of the first part are among those of the sequence, so the condition holds of them
    rw [hrun] at hkept hsame
    refine ⟨fun path hp => (hnext a middle middle rfl).1 (hkept hp), fun h => ?_⟩
    obtain ⟨hresult, hafter⟩ := hsame fun path hp => h path ((hnext a middle middle rfl).1 hp)
    rcases hrun' : outcome first' trace' with ⟨_ | a', middle'⟩ <;> rw [hrun'] at hresult hafter
    · cases hresult
    · cases hresult
      exact (hnext a middle middle' hafter).2 h

/-- Behind the record of a path, one pass need only follow the other if the path satisfies the
condition. Stamps need not agree. -/
theorem Follows.depend_bind {path : Text} (stamp stamp' : Option Stamp) {next next' : Pass α}
    (hgrows : ∀ trace, Trace.paths trace ⊆ (outcome next trace).2.paths)
    (h : same path → Follows same next next') :
    Follows same ((modify fun trace => trace.depend path stamp) >>= fun _ => next)
      ((modify fun trace => trace.depend path stamp') >>= fun _ => next') := by
  intro trace trace' hpaths
  simp only [outcome_bind, outcome_modify]
  refine ⟨fun p hp => hgrows _ (trace.paths_subset_depend path stamp hp), fun hsame => ?_⟩
  have hpath := hsame path (hgrows _ (trace.mem_paths_depend path stamp))
  have hdepend : (trace'.depend path stamp').paths = (trace.depend path stamp).paths := by
    rw [Trace.paths_depend, Trace.paths_depend, hpaths]
  exact (h hpath _ _ hdepend).2 hsame

/-- Going through one list in two ways that follow each other step by step. -/
theorem Follows.foldlM {step step' : σ → α → Pass σ}
    (hstep : ∀ s a, Follows same (step s a) (step' s a)) (list : List α) (start : σ) :
    Follows same (list.foldlM step start) (list.foldlM step' start) := by
  induction list generalizing start with
  | nil => exact Follows.pure start
  | cons a list ih =>
    rw [List.foldlM_cons, List.foldlM_cons]
    exact (hstep start a).bind ih

end Pass

end BlitzLens
