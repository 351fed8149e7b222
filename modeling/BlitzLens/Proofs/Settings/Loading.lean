import BlitzLens.CommandLine.Run
import BlitzLens.Proofs.Data.Checked
import BlitzLens.Proofs.Data.Toml
import BlitzLens.Proofs.Text.Encoding

/-!
# What comes of a settings file

A settings file yields settings that are allowed, or an error. Most errors are told with the path
of the file, and then the command line ends with a notice and the exit code for refused requests.
Of the modelled errors, two are not told: bytes that are no text, and a whole number with too many
digits. They end a request without an outcome (`Settings.load_outcomes`).

How much room the reading of nested values needs is outside the model: `Toml.decode` follows arrays
and inline tables however deep they are. A reader whose calls nest with the values exhausts its
stack on some hundreds of levels, and that failure is not told either.

## Main definitions

* `Settings.Allowed`: what holds of the values of settings that were read.
* `SettingsError.IsTold`: the errors that name the settings file.

## Main results

* `Settings.meets_read`: settings are allowed, or there are problems with them.
* `Settings.ofBytes_outcomes`: what the bytes of a settings file come to.
* `CommandLine.run_of_load_error`: a request whose settings cannot be loaded.
-/

namespace BlitzLens

/-- What holds of the values of settings. -/
structure Settings.Allowed (settings : Settings) : Prop where
  /-- At least the document itself may include files. -/
  depth : 1 ≤ settings.maxDepth
  /-- A tag is more than blanks. -/
  tags : ∀ tag ∈ settings.todoTags, Text.isBlankText tag = false
  /-- The ending of a source file starts with a dot and is in lower case. -/
  endings : ∀ ext ∈ settings.sourceExtensions,
    ext.head? = some '.' ∧ ∃ written, ext = Text.lower written

/-- The errors that name the settings file: it is not well formed, or there are problems with the
values in it. -/
inductive SettingsError.IsTold (path : Text) : SettingsError → Prop where
  /-- The file is not well formed. -/
  | malformed : IsTold path (.malformed path)
  /-- Values are refused. -/
  | refused {problems : List Problem} (h : problems ≠ []) : IsTold path (.refused path problems)

namespace Settings

open Checked Reader

variable {tree : FileTree} {root : Path} {path text : Text} {bytes : List UInt8} {value : Value}

/-- The path of the settings file of the workspace in a directory. -/
def filePath (root : Path) : Text :=
  (root.join ⟨[], [fileName]⟩).toText

/-! ## Values -/

theorem allowed_default : Settings.Allowed {} where
  depth := by decide
  tags := by decide
  endings ext hext := by
    obtain rfl := List.mem_singleton.1 hext
    exact ⟨by decide, ".bb", by decide⟩

theorem meets_readDepth : (readDepth value).Meets fun n => 1 ≤ n :=
  meets_int.require.imp fun _ h => of_decide_eq_true h.2

theorem meets_readTags :
    (readTags value).Meets fun tags => ∀ tag ∈ tags, Text.isBlankText tag = false := by
  refine (meets_list fun _ => meets_text).require.imp fun tags h tag htag => ?_
  have hnone : tags.any Text.isBlankText = false := Bool.not_eq_true' _ ▸ h.2
  exact eq_false_of_ne_true (List.any_eq_false.1 hnone tag htag)

/-- The lower case of an ending starts with a dot, too. -/
theorem head?_lower (h : text.head? = some '.') : (Text.lower text).head? = some '.' := by
  obtain ⟨rest, rfl⟩ := List.head?_eq_some_iff.1 h
  -- a character of ASCII has one character as its lower case, wherever it stands
  rw [Text.lower, lowerAfter, lowerBetween_ascii (by decide)]
  rfl

theorem meets_readExtensions :
    (readExtensions value).Meets fun extensions =>
      ∀ ext ∈ extensions, ext.head? = some '.' ∧ ∃ written, ext = Text.lower written := by
  refine (meets_list fun _ => meets_text).require.map fun extensions h ext hext => ?_
  obtain ⟨written, hwritten, rfl⟩ := List.mem_map.1 hext
  have hdot : written.head? = some '.' := by simpa using List.all_eq_true.1 h.2 written hwritten
  exact ⟨head?_lower hdot, written, rfl⟩

/-- Settings that were read are allowed, for what the file does not say has its default. -/
theorem meets_read : (read value).Meets Allowed := by
  -- the fields are taken off from the last one that is read to the first
  refine meets_record fun value => ?_
  refine Meets.seq ?_ (meets_extraFields names)
  refine Meets.seq ?_ (meets_withDefault (fun _ => meets_readExtensions) allowed_default.endings)
  refine Meets.seq ?_ (meets_withDefault (fun _ => meets_readTags) allowed_default.tags)
  refine Meets.seq ?_ (meets_withDefault (fun _ => meets_readDepth) allowed_default.depth)
  refine Meets.seq ?_ (meets_withDefault (fun _ => meets_bool) trivial)
  refine Meets.seq ?_ (meets_withDefault (fun _ => meets_optional fun _ => meets_text) (by simp))
  refine Meets.seq ?_ (meets_withDefault (fun _ => meets_optional fun _ => meets_text) (by simp))
  refine (meets_withDefault (fun _ => meets_bool) trivial).map ?_
  intro brackets _ stubs _ libraries _ guarded _ depth hdepth tags htags extensions hextensions _ _
  exact ⟨hdepth, htags, hextensions⟩

/-- Only bytes that spell no text are not read as text. -/
theorem ofBytes_eq_noText_iff :
    ofBytes path bytes = .error .noText ↔ ¬∃ text, Encoding.encodeUtf8 text = bytes := by
  unfold ofBytes
  cases htext : Encoding.decodeUtf8? bytes with
  | none =>
    refine iff_of_true rfl fun ⟨text, hbytes⟩ => ?_
    rw [Encoding.decodeUtf8?_eq_some_iff.2 hbytes] at htext
    cases htext
  | some text =>
    have hbytes := Encoding.decodeUtf8?_eq_some_iff.1 htext
    refine iff_of_false (fun h => ?_) (not_not_intro ⟨text, hbytes⟩)
    dsimp only at h
    split at h
    · cases h
    · cases h
    · split at h <;> cases h

/-- What the bytes of a settings file come to. -/
theorem ofBytes_outcomes (path : Text) (bytes : List UInt8) :
    (∃ settings, ofBytes path bytes = .ok settings ∧ settings.Allowed) ∨
      (∃ error, ofBytes path bytes = .error error ∧ error.IsTold path) ∨
      ofBytes path bytes = .error .noText ∨
      ofBytes path bytes = .error .longNumber ∧
        ∃ text, Encoding.encodeUtf8 text = bytes ∧ mostDigits < text.countP Char.isDigit := by
  unfold ofBytes
  cases htext : Encoding.decodeUtf8? bytes with
  | none => exact .inr (.inr (.inl rfl))
  | some text =>
    dsimp only
    cases hvalue : Toml.decode text with
    | error fault =>
      cases fault with
      | malformed => exact .inr (.inl ⟨_, rfl, .malformed⟩)
      | longNumber =>
        exact .inr (.inr (.inr ⟨rfl, text, Encoding.decodeUtf8?_eq_some_iff.1 htext,
          Toml.digits_of_longNumber hvalue⟩))
    | ok value =>
      have hmeets : (read value).Meets Allowed := meets_read
      dsimp only
      cases hread : read value with
      | valid settings =>
        rw [hread] at hmeets
        exact .inl ⟨settings, rfl, hmeets⟩
      | invalid problems =>
        rw [hread] at hmeets
        -- the problems are put in order, and none of them is lost
        have hlisted : Problem.listed problems ≠ [] := fun hnil =>
          hmeets ((List.mergeSort_perm problems Problem.notAfter).symm.trans (hnil ▸ .nil)).eq_nil
        exact .inr (.inl ⟨_, rfl, .refused hlisted⟩)

/-- An error that is not told is one of two. -/
theorem eq_noText_or_longNumber {error : SettingsError} (h : ofBytes path bytes = .error error)
    (htold : ¬error.IsTold path) : error = .noText ∨ error = .longNumber := by
  rcases ofBytes_outcomes path bytes with
    ⟨settings, hok, -⟩ | ⟨told, htells, his⟩ | hnoText | ⟨hlong, -⟩
  · rw [hok] at h
    cases h
  · rw [htells, Except.error.injEq] at h
    exact absurd (h ▸ his) htold
  · rw [hnoText, Except.error.injEq] at h
    exact .inl h.symm
  · rw [hlong, Except.error.injEq] at h
    exact .inr h.symm

/-! ## Files -/

/-- A file that can be read is there. -/
theorem isFile_of_read (h : tree.read path = .ok bytes) : tree.isFile path = .ok true := by
  unfold FileTree.read at h
  unfold FileTree.isFile
  split at h
  · rfl
  · cases h
  · cases h

/-- The settings of a workspace are those that the bytes of its file spell. -/
theorem load_eq_ofBytes (h : tree.read (filePath root) = .ok bytes) :
    load tree root = ofBytes (filePath root) bytes := by
  have hfile := isFile_of_read h
  unfold filePath at h hfile
  simp only [load, h, hfile]
  rfl

end Settings

/-! ## Requests -/

namespace CommandLine

variable {tree : FileTree} {request : Request} {root : Path} {others : List Path}
  {error : SettingsError}

/-- A request ends with the failure of its set-up if the settings cannot be loaded. -/
theorem run_of_load_error (hroots : request.roots.mapM (realPath tree) = .ok (root :: others))
    (h : Settings.load tree root = .error error) :
    run tree request = setUpFailed (.settings error) := by
  have hsetUp : setUp tree (root :: others) = .error (.settings error) := by
    simp [setUp, Service.ofWorkspace, h, Except.mapError, bind, Except.bind]
  simp [run, hroots, hsetUp, bind, Except.bind]

/-- What is told about the settings file is told in an outcome. -/
theorem setUpFailed_of_isTold {path : Text} (h : error.IsTold path) :
    setUpFailed (.settings error) = .ok (.error error.message error.details) := by
  cases h with
  | malformed => rfl
  | refused _ => rfl

end CommandLine

namespace Settings

variable {tree : FileTree} {root : Path} {bytes : List UInt8}

open CommandLine in
/-- A settings file yields allowed settings, or an error that is told, but for bytes that are no
text and whole numbers with too many digits. A request ends with the exit code 2 and a notice
exactly for the errors that are told; the others end it without an outcome. These are all errors of
the model, in which no stack runs out on values that are nested too deeply. -/
theorem load_outcomes (h : tree.read (filePath root) = .ok bytes) :
    ((∃ settings, load tree root = .ok settings ∧ settings.Allowed) ∨
      (∃ error, load tree root = .error error ∧ error.IsTold (filePath root)) ∨
      load tree root = .error .noText ∨
      load tree root = .error .longNumber ∧
        ∃ text, Encoding.encodeUtf8 text = bytes ∧ mostDigits < text.countP Char.isDigit) ∧
    (load tree root = .error .noText ↔ ¬∃ text, Encoding.encodeUtf8 text = bytes) ∧
    ∀ error, load tree root = .error error →
      ∀ (request : Request) (others : List Path),
        request.roots.mapM (realPath tree) = .ok (root :: others) →
        (error.IsTold (filePath root) →
          run tree request =
            .ok { exitCode := 2, notices := ("error: " ++ error.message) :: error.details }) ∧
        (¬error.IsTold (filePath root) → run tree request = .error (.settings error)) := by
  rw [load_eq_ofBytes h]
  refine ⟨ofBytes_outcomes _ _, ofBytes_eq_noText_iff, fun error herror request others hroots => ?_⟩
  rw [run_of_load_error hroots (load_eq_ofBytes h ▸ herror)]
  refine ⟨setUpFailed_of_isTold, fun htold => ?_⟩
  -- the errors that are not told are handed on as they are
  rcases eq_noText_or_longNumber herror htold with rfl | rfl
  · rfl
  · rfl

/-- The files of a machine with nothing but a settings file in its root directory. -/
def settingsOnly (bytes : List UInt8) : FileTree :=
  ⟨[([fileName], .file bytes 0)], ⟨['/'], []⟩, ⟨['/'], []⟩⟩

theorem node?_settingsOnly (bytes : List UInt8) :
    (settingsOnly bytes).node? [] = some .directory ∧
      (settingsOnly bytes).node? [fileName] = some (.file bytes 0) :=
  ⟨rfl, rfl⟩

theorem read_settingsOnly (bytes : List UInt8) :
    (settingsOnly bytes).read (filePath ⟨['/'], []⟩) = .ok bytes := by
  obtain ⟨hroot, hfile⟩ := node?_settingsOnly bytes
  have hpath : ¬FileTree.longestPath < (Encoding.encodeUtf8 (filePath ⟨['/'], []⟩)).length := by
    decide
  have hnames : ((settingsOnly bytes).here.join (filePath ⟨['/'], []⟩)).names = [fileName] :=
    show ((⟨['/'], []⟩ : Path).join (filePath ⟨['/'], []⟩)).names = _ by decide
  have hname : ¬FileTree.longestName < (Encoding.encodeUtf8 fileName).length := by decide
  have habove : (fileName == Path.above) = false := by decide
  simp [FileTree.read, FileTree.find, FileTree.walk, hpath, hnames, hname, habove, hroot, hfile]

/-- The root directory is its own real form. -/
theorem resolve_settingsOnly (bytes : List UInt8) :
    (settingsOnly bytes).resolve ⟨['/'], []⟩ = .ok ⟨['/'], []⟩ := by
  obtain ⟨hroot, -⟩ := node?_settingsOnly bytes
  have hpath : ¬FileTree.longestPath <
      (Encoding.encodeUtf8 (⟨['/'], []⟩ : Path).toText).length := by
    decide
  have hnames : ((settingsOnly bytes).here.join (⟨['/'], []⟩ : Path)).names = [] := rfl
  have htext : ((settingsOnly bytes).here.join
      (Path.ofText (⟨['/'], []⟩ : Path).toText)).names = [] := rfl
  simp [FileTree.resolve, FileTree.realRoute, FileTree.find, FileTree.walk, Path.collapse, hpath,
    hnames, htext, hroot]

theorem roots_settingsOnly (bytes : List UInt8) :
    (["/"] : List Text).mapM (CommandLine.realPath (settingsOnly bytes)) =
      .ok [⟨['/'], []⟩] := by
  have hhome : (settingsOnly bytes).expandHome (Path.ofText ("/" : String)) = .ok ⟨['/'], []⟩ := rfl
  have hreal : CommandLine.realPath (settingsOnly bytes) ("/" : String) = .ok ⟨['/'], []⟩ := by
    simp only [CommandLine.realPath, hhome, resolve_settingsOnly, Except.mapError, bind,
      Except.bind]
  rw [List.mapM_cons, hreal]
  rfl

/-- A file that is not well formed is told by the exit code and a notice. -/
theorem load_outcomes_malformed :
    (settingsOnly [0x78]).read (filePath ⟨['/'], []⟩) = .ok [0x78] ∧
      CommandLine.run (settingsOnly [0x78]) ⟨["/"], 0, .todos "main.bb"⟩ =
        .ok { exitCode := 2, notices := ["error: Invalid TOML in /bbls.toml"] } := by
  have hread := read_settingsOnly [0x78]
  have hload : load (settingsOnly [0x78]) ⟨['/'], []⟩ = .error (.malformed "/bbls.toml") := by
    rw [load_eq_ofBytes hread]
    decide
  obtain ⟨htold, -⟩ := (load_outcomes hread).2.2 _ hload ⟨["/"], 0, .todos "main.bb"⟩ []
    (roots_settingsOnly _)
  exact ⟨hread, htold .malformed⟩

/-- Bytes that are no text are neither settings nor told. -/
theorem load_not_text :
    (settingsOnly [0xff]).read (filePath ⟨['/'], []⟩) = .ok [0xff] ∧
      ¬((∃ settings, load (settingsOnly [0xff]) ⟨['/'], []⟩ = .ok settings ∧ settings.Allowed) ∨
        ∃ error, load (settingsOnly [0xff]) ⟨['/'], []⟩ = .error error ∧
          error.IsTold (filePath ⟨['/'], []⟩)) ∧
      CommandLine.run (settingsOnly [0xff]) ⟨["/"], 0, .todos "main.bb"⟩ =
        .error (.settings .noText) := by
  have hread := read_settingsOnly [0xff]
  have hload : load (settingsOnly [0xff]) ⟨['/'], []⟩ = .error .noText := by
    rw [load_eq_ofBytes hread]
    decide
  refine ⟨hread, ?_, CommandLine.run_of_load_error (roots_settingsOnly _) hload⟩
  rw [hload]
  rintro (⟨settings, h, -⟩ | ⟨error, h, his⟩)
  · cases h
  · cases h
    cases his

end Settings

end BlitzLens
