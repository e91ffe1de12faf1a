import TypeReach.Proofs.GraphFiles

/-!
# Settings that cannot be used

A run whose settings file cannot be used is to be refused before it does anything. Three things in a
settings file end the run with a fault instead: bytes that are not UTF-8, an integer that is too
long to be written out where a text is wanted, and the path of a log file that cannot be made. A run
is refused as it is to be exactly if none of these is there.
-/

namespace TypeReach

open Files (Path Tree)

theorem mapError_eq_ok_iff {ε ε' β : Type} {a : Except ε β} {f : ε → ε'} {b : β} :
    a.mapError f = .ok b ↔ a = .ok b := by
  cases a <;> simp [Except.mapError]

namespace Settings

/-- An integer with more digits than are ever written out. -/
def TooLong : Value → Prop
  | .int n => 10 ^ Decimal.maxDigits ≤ n.natAbs
  | _ => False

/-- The items of a list or tuple. -/
def listed (v : Value) : List Value :=
  match v.opened with
  | .list items | .tuple items => items
  | _ => []

/-- The value given for the limit of recursion. -/
def limitGiven (entries : List (Value × Value)) : Value :=
  Value.fieldOf (section? (Value.fieldOf entries "walker")) "recursion_limit"

/-- The values that are wanted as texts: those in lists, the log file and the level. -/
def wantedTexts (entries : List (Value × Value)) : List Value :=
  listed (Value.fieldOf (section? (Value.fieldOf entries "python")) "ignored_modules") ++
    (listed (Value.fieldOf (section? (Value.fieldOf entries "providers")) "enabled") ++
      [Value.fieldOf entries "log_file", Value.fieldOf entries "log_level"])

/-- A step fails exactly if something holds, and then for that an integer is too long. -/
def FailsIf {β : Type} (p : Prop) (r : Except SettingsError β) : Prop :=
  r = .error .unwritable ∧ p ∨ (∃ b, r = .ok b) ∧ ¬p

namespace FailsIf

variable {β γ : Type} {p q : Prop} {r : Except SettingsError β}

theorem congr (h : FailsIf p r) (hpq : p ↔ q) : FailsIf q r := by
  rwa [← propext hpq]

theorem map (h : FailsIf p r) (f : β → γ) : FailsIf p (r >>= fun b => pure (f b)) := by
  obtain ⟨rfl, hp⟩ | ⟨⟨b, rfl⟩, hp⟩ := h
  · exact .inl ⟨rfl, hp⟩
  · exact .inr ⟨⟨f b, rfl⟩, hp⟩

/-- Of two steps the second fails for that an integer is too long only if the first does not. -/
theorem bind_iff (h : FailsIf p r) {next : β → Except SettingsError γ}
    (hn : ∀ b, next b = .error .unwritable ↔ q) : (r >>= next) = .error .unwritable ↔ p ∨ q := by
  rw [bind_eq_error_iff]
  obtain ⟨rfl, hp⟩ | ⟨⟨b, rfl⟩, hp⟩ := h
  · simp [hp]
  · simp [hp, hn]

theorem mapM {f : β → Except SettingsError γ} {p : β → Prop} (h : ∀ b, FailsIf (p b) (f b))
    (bs : List β) : FailsIf (∃ b ∈ bs, p b) (bs.mapM f) := by
  cases hr : bs.mapM f with
  | error why =>
    obtain ⟨b, hb, hwhy⟩ := exists_of_mapM_eq_error hr
    obtain ⟨herror, hp⟩ | ⟨⟨c, hok⟩, -⟩ := h b
    · cases herror.symm.trans hwhy
      exact .inl ⟨rfl, b, hb, hp⟩
    · cases hok.symm.trans hwhy
  | ok cs =>
    refine .inr ⟨⟨cs, rfl⟩, ?_⟩
    rintro ⟨b, hb, hp⟩
    obtain ⟨c, hc⟩ := exists_mapM_eq_ok_iff.1 ⟨cs, hr⟩ b hb
    obtain ⟨herror, -⟩ | ⟨-, hnot⟩ := h b
    · cases herror.symm.trans hc
    · exact hnot hp

end FailsIf

/-- A scalar becomes a text, unless it is an integer that is too long. -/
theorem scalarText_failsIf (v : Value) : FailsIf (TooLong v) (scalarText v) := by
  cases v with
  | int n =>
    by_cases h : n.natAbs < 10 ^ Decimal.maxDigits
    · exact .inr ⟨⟨_, by simp [scalarText, isScalar, Value.text?, Value.isWritable, h]; rfl⟩,
        Nat.not_le.2 h⟩
    · exact .inl ⟨by simp [scalarText, isScalar, Value.text?, Value.isWritable, h],
        Nat.not_lt.1 h⟩
  | _ => exact .inr ⟨⟨_, rfl⟩, not_false⟩

theorem texts_failsIf (v : Value) : FailsIf (∃ x ∈ listed v, TooLong x) (texts v) := by
  have items (vs : List Value) : FailsIf (∃ x ∈ vs, TooLong x) (scalarTexts vs) :=
    (FailsIf.mapM scalarText_failsIf vs).map _
  simp only [texts, listed]
  cases v.opened with
  | list vs => exact items vs
  | tuple vs => exact items vs
  | _ => exact .inr ⟨⟨_, rfl⟩, by simp⟩

theorem logFileOf_failsIf (root : Path) (v : Value) : FailsIf (TooLong v) (logFileOf root v) := by
  obtain ⟨herror, hv⟩ | ⟨⟨text, hok⟩, hv⟩ := scalarText_failsIf v
  · exact .inl ⟨by rw [logFileOf, herror]; rfl, hv⟩
  · refine .inr ⟨?_, hv⟩
    rw [logFileOf, hok]
    cases text with
    | none => exact ⟨_, rfl⟩
    | some name => exact ⟨_, rfl⟩

theorem levelOf_eq_unwritable_iff (v : Value) : levelOf v = .error .unwritable ↔ TooLong v := by
  obtain ⟨herror, hv⟩ | ⟨⟨text, hok⟩, hv⟩ := scalarText_failsIf v
  · rw [levelOf, herror]
    simp [hv, Bind.bind, Except.bind]
  · rw [levelOf, hok]
    cases text with
    | none => simp [hv, Bind.bind, Except.bind, pure, Except.pure]
    | some name =>
      cases hlevel : Log.resolveLevel (some name) <;>
        simp [hv, hlevel, Bind.bind, Except.bind, pure, Except.pure, throw, throwThe,
          MonadExceptOf.throw]

theorem limitOf_eq_error {v : Value} {why : SettingsError} (h : limitOf v = .error why) :
    why = .limitNotPositive := by
  unfold limitOf at h
  split at h
  · split at h
    · cases h
      rfl
    · cases h
  · cases h

/-- Only an integer that is too long, where a text is wanted, makes a mapping give settings with
another fault than that it cannot be used. -/
theorem ofValue_eq_unwritable_iff {root : Path} {v : Value} {entries : List (Value × Value)}
    (hv : v.opened = .map entries) : ofValue root v = .error .unwritable ↔
      (∃ limit, limitOf (limitGiven entries) = .ok limit) ∧
        ∃ x ∈ wantedTexts entries, TooLong x := by
  have wanted : (∃ x ∈ wantedTexts entries, TooLong x) ↔
      (∃ x ∈ listed (Value.fieldOf (section? (Value.fieldOf entries "python")) "ignored_modules"),
        TooLong x) ∨
      (∃ x ∈ listed (Value.fieldOf (section? (Value.fieldOf entries "providers")) "enabled"),
        TooLong x) ∨
      TooLong (Value.fieldOf entries "log_file") ∨ TooLong (Value.fieldOf entries "log_level") := by
    simp only [wantedTexts, List.mem_append, List.mem_cons, List.not_mem_nil, or_false,
      or_and_right, exists_or, exists_eq_left]
  simp only [ofValue, hv]
  rw [wanted]
  cases hlimit : limitOf (limitGiven entries) with
  | error why =>
    obtain rfl := limitOf_eq_error hlimit
    change limitOf _ >>= _ = _ ↔ _
    simp only [limitGiven] at hlimit
    rw [hlimit]
    simp [Bind.bind, Except.bind]
  | ok limit =>
    simp only [limitGiven] at hlimit
    rw [hlimit]
    simp only [ok_bind, Except.ok.injEq, exists_eq', true_and]
    refine (texts_failsIf _).bind_iff fun ignored => (texts_failsIf _).bind_iff fun enabled =>
      (logFileOf_failsIf root _).bind_iff fun file => ?_
    rw [bind_eq_error_iff, levelOf_eq_unwritable_iff]
    simp [pure, Except.pure]

theorem ofValue_ne_unwritable_iff {root : Path} {v : Value} :
    ofValue root v ≠ .error .unwritable ↔ ∀ entries, v.opened = .map entries →
      (∃ limit, limitOf (limitGiven entries) = .ok limit) →
        ∀ x ∈ wantedTexts entries, ¬TooLong x := by
  by_cases hmap : ∃ entries, v.opened = .map entries
  · obtain ⟨entries, hv⟩ := hmap
    rw [Ne, ofValue_eq_unwritable_iff hv, not_and, not_exists]
    simp [hv]
  · have hnot : ofValue root v = .error .notMapping := by
      unfold ofValue
      split
      · next entries hv => exact absurd ⟨entries, hv⟩ hmap
      · rfl
    simp [hnot, not_exists.1 hmap]

/-- A level in settings that were loaded is known. -/
theorem resolveLevel_of_ofValue {root : Path} {v : Value} {s : Settings}
    (h : ofValue root v = .ok s) {name : String} (hname : s.logLevel = some name) :
    ∃ level, Log.resolveLevel (some name) = .ok level := by
  unfold ofValue at h
  split at h
  · next entries _ =>
    obtain ⟨limit, -, h⟩ := exists_of_bind_eq_ok h
    obtain ⟨ignored, -, h⟩ := exists_of_bind_eq_ok h
    obtain ⟨enabled, -, h⟩ := exists_of_bind_eq_ok h
    obtain ⟨file, -, h⟩ := exists_of_bind_eq_ok h
    obtain ⟨level, hlevel, h⟩ := exists_of_bind_eq_ok h
    cases h
    obtain rfl : level = some name := hname
    obtain ⟨text, htext, hlevel⟩ := exists_of_bind_eq_ok hlevel
    cases text with
    | none => cases hlevel
    | some given =>
      cases hresolve : Log.resolveLevel (some given) with
      | error why =>
        simp only [hresolve] at hlevel
        cases hlevel
      | ok number =>
        simp only [hresolve] at hlevel
        cases hlevel
        exact ⟨number, hresolve⟩
  · cases h

end Settings

namespace Files

theorem documentText_cases (bytes : List UInt8) :
    (∃ text, documentText bytes = .ok text) ∧ Text.IsUtf8 bytes ∨
      (∃ why, documentText bytes = .error (.notText why)) ∧ ¬Text.IsUtf8 bytes := by
  by_cases h : Text.IsUtf8 bytes
  · obtain ⟨cs, hcs⟩ := id h
    have hdecode : Text.decodeUtf8 bytes = .ok cs := Text.decodeUtf8_eq_ok_iff.2 hcs
    exact .inl ⟨⟨_, by rw [documentText, Text.decodeFile, hdecode]; rfl⟩, h⟩
  · obtain ⟨why, hwhy⟩ := Text.decodeUtf8_of_not_isUtf8 h
    exact .inr ⟨⟨why, by rw [documentText, Text.decodeFile, hwhy]; rfl⟩, h⟩

/-- No folder is made where a file is. -/
theorem Tree.makeFolder_of_file {t : Tree} {p : Path} {place : List String}
    (hplace : t.place p = .ok place) (hfolder : t.isFolderAt place = false)
    (hfile : (t.fileAt? place).isSome = true) : t.makeFolder p = .error ⟨.present, p⟩ := by
  simp only [makeFolder, makeFolders, hplace, hfolder, hfile]
  rfl

theorem Tree.contains_of_read {t : Tree} {p : Path} {bytes : List UInt8}
    (h : t.read p = .ok bytes) : t.contains p = .ok true := by
  unfold Tree.read at h
  rw [Tree.contains, Tree.placeHas]
  split at h
  · cases h
  · next place hplace =>
    rw [hplace]
    split at h
    · cases h
    · split at h
      · next hfile => simp [hfile]
      · cases h

end Files

namespace Settings

variable {bytes : List UInt8}

/-- The value of a settings file is not to be had for that its bytes are not UTF-8 exactly if they
are not. -/
theorem fileValue_eq_notText_iff :
    (∃ why, fileValue bytes = .error (.notText why)) ↔ ¬Text.IsUtf8 bytes := by
  obtain ⟨⟨text, htext⟩, hutf8⟩ | ⟨⟨why, hwhy⟩, hnot⟩ := Files.documentText_cases bytes
  · refine ⟨?_, fun h => absurd hutf8 h⟩
    rintro ⟨why, h⟩
    rw [fileValue, htext, ok_bind] at h
    split at h
    · cases h
    · unfold Files.documentValue at h
      cases hload : Yaml.load text with
      | ok v =>
        rw [hload] at h
        cases v <;> cases h
      | error e =>
        rw [hload] at h
        cases e <;> cases h
  · exact ⟨fun _ => hnot, fun _ => ⟨why, by rw [fileValue, hwhy]; rfl⟩⟩

theorem exists_of_ofBytes_eq_ok {root : Path} {s : Settings} (h : ofBytes root bytes = .ok s) :
    ∃ v, ofValue root v = .ok s := by
  obtain ⟨v, -, hv⟩ := exists_of_bind_eq_ok h
  exact ⟨v, mapError_eq_ok_iff.1 hv⟩

/-- A fault of a value of settings tells that they are unusable, unless an integer is too long. -/
theorem unusable_iff_ne_unwritable {r : Except SettingsError Settings} (file : Path) :
    (∀ fault, (r.mapError FileFault.value).mapError (FileFault.toFault file) = .error fault →
      ∃ message, fault = .unusable message) ↔ r ≠ .error .unwritable := by
  cases r with
  | ok s => simp [Except.mapError]
  | error why => cases why <;> simp [Except.mapError, FileFault.toFault, SettingsError.toFault]

/-- A settings file without settings is told to be unusable exactly if it is UTF-8 and no integer
that is too long stands where a text is wanted, as long as its text is YAML or malformed. -/
theorem ofBytes_unusable_iff (root file : Path)
    (hyaml : ∀ kind message, fileValue bytes ≠ .error (.unreadable kind message)) :
    (∀ fault, (ofBytes root bytes).mapError (FileFault.toFault file) = .error fault →
      ∃ message, fault = .unusable message) ↔
    Text.IsUtf8 bytes ∧ ∀ v entries, fileValue bytes = .ok v → v.opened = .map entries →
      (∃ limit, limitOf (limitGiven entries) = .ok limit) →
        ∀ x ∈ wantedTexts entries, ¬TooLong x := by
  have hutf8 (h : ∀ why, fileValue bytes ≠ .error (.notText why)) : Text.IsUtf8 bytes := by
    by_contra hnot
    obtain ⟨why, hwhy⟩ := fileValue_eq_notText_iff.2 hnot
    exact h why hwhy
  rw [ofBytes]
  cases hvalue : fileValue bytes with
  | error why =>
    cases why with
    | notText why =>
      refine iff_of_false (fun h => ?_) fun h => fileValue_eq_notText_iff.1 ⟨why, hvalue⟩ h.1
      obtain ⟨message, hm⟩ := h _ rfl
      cases hm
    | malformed =>
      refine iff_of_true ?_ ⟨hutf8 (by simp [hvalue]), by rintro _ _ ⟨⟩⟩
      rintro fault ⟨⟩
      exact ⟨_, rfl⟩
    | unreadable kind message => exact absurd hvalue (hyaml kind message)
  | ok v =>
    -- What a text holds can make a file unusable only, except for a number too long to write.
    refine (unusable_iff_ne_unwritable (r := ofValue root v) file).trans ?_
    rw [ofValue_ne_unwritable_iff, and_iff_right (hutf8 (by simp [hvalue]))]
    exact ⟨fun h w entries hw => by cases hw; exact h entries, fun h entries => h v entries rfl⟩

end Settings

namespace Command

open Settings (TooLong fileValue limitGiven limitOf wantedTexts)

/-- What is to come of the run of a request whose settings may not be had. -/
structure RefusesUnusable (entries : List Discovery.EntryPoint) (request : Request) (run : Run)
    (loaded : Except Fault Settings) : Prop where
  /-- Without settings a run is refused: it sets no limit, walks nothing and prints nothing. -/
  refused : ∀ fault, loaded = .error fault → run.ending = .exit usageStatus ∧ run.prints = [] ∧
    run.limits = [] ∧ run.records = []
  /-- No fault ends a run that has not chosen its logger yet. -/
  settled : run.logger = none → ∀ fault, run.ending ≠ .fault fault
  /-- Whatever providers are enabled, no fault ends a run that lists them, if all can be loaded. -/
  listed : request.action = .providers → (∀ entry ∈ entries, ∃ made, entry.loaded = .ok made) →
    ∀ fault, run.ending ≠ .fault fault

/-- If the entry points load, all that discovery fails for is reported. -/
theorem isReported_of_discover {enabled : Option (List String)}
    {entries : List Discovery.EntryPoint} (hl : ∀ entry ∈ entries, ∃ made, entry.loaded = .ok made)
    {why : Discovery.DiscoveryError} (h : Discovery.discover enabled entries = .error why) :
    isReported why.toFault = true := by
  rw [Discovery.discover] at h
  obtain hadd | ⟨found, -, h⟩ := bind_eq_error_iff.1 h
  · obtain ⟨_, -, hok⟩ := Discovery.Finding.addAll_of_loaded hl
    cases hadd.symm.trans hok
  · split at h
    · cases h
      rfl
    · cases h

/-- No fault ends the steps of a request to list the providers. -/
theorem Surroundings.steps_providers_ne_fault {s : Surroundings} {request : Request}
    (haction : request.action = .providers)
    (hl : ∀ entry ∈ s.entries, ∃ made, entry.loaded = .ok made) (fault : Fault) :
    endingOf (s.steps request).result ≠ .fault fault := by
  rw [s.steps_eq request |>.1, perform, haction]
  simp only [listProviders]
  cases hfound : Discovery.discover s.enabled s.entries with
  | ok table =>
    simp [attempt, Except.mapError, Steps.emitAll, endingOf]
  | error why =>
    have hreported := isReported_of_discover hl hfound
    simp [attempt, Except.mapError, hreported, refuse, Steps.emit, Steps.stop, endingOf]

namespace Run

variable {world : Classes.Universe} {entries : List Discovery.EntryPoint} {t : Tree}
  {texts : List String} {request : Request} {settings : Settings}

/-- The logger is chosen exactly if the log file can be made, as long as the level is known. -/
theorem exists_chooseLogger_iff
    (hlevel : ∀ name, settings.logLevel = some name →
      ∃ level, Log.resolveLevel (some name) = .ok level) :
    (∃ chosen, chooseLogger t request settings = .ok chosen) ↔
      ∀ p, settings.logFile = some p →
        ∃ made, (t.makeFolder p.parent >>= fun t => t.touch p) = .ok made := by
  have hconfigure : ∃ level,
      Log.Logger.configure request.verbose settings.logLevel settings.logFile =
        .ok { level, file := settings.logFile } := by
    rw [Log.Logger.configure]
    split
    · exact ⟨_, rfl⟩
    · cases hname : settings.logLevel with
      | none => exact ⟨_, rfl⟩
      | some name =>
        obtain ⟨level, hresolve⟩ := hlevel name hname
        exact ⟨level, by rw [hresolve]; rfl⟩
  obtain ⟨level, hlogger⟩ := hconfigure
  rw [chooseLogger, hlogger]
  cases hfile : settings.logFile with
  | none => exact iff_of_true ⟨_, rfl⟩ (by rintro _ ⟨⟩)
  | some p =>
    simp only [Option.some.injEq, forall_eq']
    change (∃ chosen, ((t.makeFolder p.parent >>= fun t => t.touch p).mapError
      Files.FileError.toFault >>= fun t => pure (_, t)) = Except.ok chosen) ↔ _
    cases t.makeFolder p.parent >>= fun t => t.touch p with
    | error why => simp [Except.mapError, Bind.bind, Except.bind]
    | ok made => simp [Except.mapError, Bind.bind, Except.bind, pure, Except.pure]

/-- A run is refused as it is to be exactly if settings that are not to be had are told to be
unusable, and the logger is chosen that other settings ask for. -/
theorem ofRequest_refusesUnusable_iff :
    RefusesUnusable entries request (ofRequest world entries t request) (settingsOf t request) ↔
      (∀ fault, settingsOf t request = .error fault → ∃ message, fault = .unusable message) ∧
      ∀ settings, settingsOf t request = .ok settings →
        ∃ chosen, chooseLogger t request settings = .ok chosen := by
  rw [ofRequest]
  cases settingsOf t request with
  | error fault =>
    constructor
    · intro h
      refine ⟨?_, by rintro _ ⟨⟩⟩
      rintro _ ⟨⟩
      have hending := (h.refused fault rfl).1
      cases fault with
      | unusable message => exact ⟨message, rfl⟩
      | _ => cases hending
    · rintro ⟨h, -⟩
      obtain ⟨message, rfl⟩ := h fault rfl
      refine ⟨fun _ _ => ⟨rfl, rfl, rfl, rfl⟩, ?settled, ?listed⟩
      case settled => rintro _ _ ⟨⟩
      case listed => rintro _ _ _ ⟨⟩
  | ok settings =>
    simp only [Except.ok.injEq, forall_eq', reduceCtorEq, false_implies, implies_true, true_and]
    cases chooseLogger t request settings with
    | error fault =>
      refine iff_of_false (fun h => h.settled rfl fault rfl) ?_
      rintro ⟨_, ⟨⟩⟩
    | ok chosen =>
      refine iff_of_true ⟨?refused, ?settled, fun haction hl => ?_⟩ ⟨chosen, rfl⟩
      case refused => rintro _ ⟨⟩
      case settled => rintro ⟨⟩
      exact Surroundings.steps_providers_ne_fault haction hl

variable {p file : Path} {bytes : List UInt8}

/-- The settings of a request are those in the bytes of the file that its path stands for. -/
theorem settingsOf_eq_ofBytes (hpath : pathOf request.config = .ok p)
    (hfile : Settings.filePath t p = .ok file) (hread : t.read file = .ok bytes) :
    settingsOf t request =
      (Settings.ofBytes file.parent bytes).mapError (Settings.FileFault.toFault file) := by
  have hof : Settings.ofFile t file = Settings.ofBytes file.parent bytes := by
    rw [Settings.ofFile, Files.Tree.contains_of_read hread, hread]
    rfl
  rw [settingsOf, hpath, ok_bind, Settings.load, hfile, ← hof]
  rfl

/-- A working directory with a settings file alone. -/
def settingsTree (bytes : List UInt8) : Tree :=
  { home := ["home"], files := Table.ofEntries [("home/.typeclosure.yml", bytes)] }

/-- The path of that file. -/
def settingsPath : Path := { start := .slash, parts := ["home", ".typeclosure.yml"] }

/-- The request to list the providers. -/
def listing : Request := ⟨false, some ".", false, .providers⟩

theorem parse_listing : Request.parse ["providers"] = .ok listing := by decide +kernel

theorem filePath_settingsTree (bytes : List UInt8) :
    Settings.filePath (settingsTree bytes) (Path.ofText ".") = .ok settingsPath := by
  simp only [Settings.filePath, Tree.expandHome, Tree.isFolder, Tree.placeHas, Tree.place,
    Tree.fullPath, Tree.holdsNull, String.contains_char_eq]
  rfl

theorem place_settingsTree (bytes : List UInt8) :
    (settingsTree bytes).place settingsPath = .ok ["home", ".typeclosure.yml"] := by
  simp only [Tree.place, Tree.holdsNull, String.contains_char_eq]
  rfl

theorem read_settingsTree (bytes : List UInt8) :
    (settingsTree bytes).read settingsPath = .ok bytes := by
  simp only [Tree.read, Tree.place, Tree.holdsNull, String.contains_char_eq]
  rfl

end Run

end Command

end TypeReach
