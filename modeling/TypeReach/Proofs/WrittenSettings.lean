import TypeReach.Proofs.LongForm
import TypeReach.Proofs.UnusableSettings

/-!
# Settings written back

The text of a path names that path again, since no part of a path holds a slash or is one of those
that a path leaves out. So settings that were loaded, written as a mapping into a file of the same
folder, are loaded from there as they are.
-/

namespace TypeReach

open Files (Path Tree)

namespace Text

theorem notMem_of_mem_splitOn {c : Char} {cs part : List Char} (h : part ∈ cs.splitOn c) :
    c ∉ part := by
  induction cs generalizing part with
  | nil => simp_all
  | cons d cs ih =>
    rw [List.splitOn_cons_eq_if_modifyHead] at h
    split at h
    · obtain rfl | h := List.mem_cons.1 h
      · simp
      · exact ih h
    · next hd =>
      obtain ⟨first, rest, hsplit⟩ := List.exists_cons_of_ne_nil (List.splitOn_ne_nil c cs)
      rw [hsplit] at h ih
      rw [List.modifyHead_cons, List.mem_cons] at h
      obtain rfl | h := h
      · have hne : c ≠ d := fun h => hd (by simp [h])
        simpa [hne] using ih List.mem_cons_self
      · exact ih (List.mem_cons_of_mem _ h)

theorem notMem_of_mem_cutAt {c : Char} {s part : String} (h : part ∈ cutAt c s) :
    c ∉ part.toList := by
  obtain ⟨cs, hcs, rfl⟩ := List.mem_map.1 h
  simpa using notMem_of_mem_splitOn hcs

/-- In front of a character at which a text is cut stands an empty part. -/
theorem cutAt_singleton_append (c : Char) (s : String) :
    cutAt c (String.singleton c ++ s) = "" :: cutAt c s := by
  have hsplit := List.splitOn_append_cons_self (a := c) [] s.toList
  simp only [List.nil_append] at hsplit
  simp [cutAt, hsplit]

end Text

namespace Files.Path

/-- What can be a part of a path: a text without slashes that is neither empty nor a single dot. -/
def IsPart (part : String) : Prop := part ≠ "" ∧ part ≠ "." ∧ '/' ∉ part.toList

/-- The parts of a path are such as a path can have. -/
def IsProper (p : Path) : Prop := ∀ part ∈ p.parts, IsPart part

variable {p other : Path}

theorem parts_ofText (s : String) :
    (ofText s).parts = (Text.cutAt '/' s).filter fun part => part != "" && part != "." := rfl

theorem start_ofText (s : String) : (ofText s).start =
    match (s.toList.takeWhile (· == '/')).length with
    | 0 => .relative
    | 2 => .twoSlashes
    | _ => .slash := rfl

theorem isProper_ofText (s : String) : (ofText s).IsProper := by
  intro part hpart
  rw [parts_ofText, List.mem_filter] at hpart
  obtain ⟨hcut, hkept⟩ := hpart
  simp only [Bool.and_eq_true, bne_iff_ne, ne_eq] at hkept
  exact ⟨hkept.1, hkept.2, Text.notMem_of_mem_cutAt hcut⟩

theorem IsProper.join (h : p.IsProper) (ho : other.IsProper) : (p.join other).IsProper := by
  unfold Path.join
  split
  · exact ho
  · intro part hpart
    exact (List.mem_append.1 hpart).elim (h part) (ho part)

theorem IsProper.parent (h : p.IsProper) : p.parent.IsProper :=
  fun part hpart => h part (List.mem_of_mem_dropLast hpart)

theorem mem_of_mem_withoutDots {parts : List String} {part : String}
    (h : part ∈ withoutDots parts) : part ∈ parts := by
  have kept : ∀ (parts done : List String),
      part ∈ parts.foldl (fun done part => if part == ".." then done.dropLast else done ++ [part])
        done → part ∈ done ∨ part ∈ parts := by
    intro parts
    induction parts with
    | nil => exact fun done h => .inl h
    | cons first rest ih =>
      intro done h
      rw [List.foldl_cons] at h
      obtain h | h := ih _ h
      · change part ∈ (if first == ".." then done.dropLast else done ++ [first]) at h
        split at h
        · exact .inl (List.mem_of_mem_dropLast h)
        · obtain h | h := List.mem_append.1 h
          · exact .inl h
          · exact .inr (by simp_all)
      · exact .inr (List.mem_cons_of_mem _ h)
  exact (kept parts [] h).resolve_left (by simp)

theorem IsProper.resolve (h : p.IsProper) (ho : other.IsProper) : (p.resolve other).IsProper :=
  fun part hpart => h.join ho part (mem_of_mem_withoutDots hpart)

/-- Parts with slashes between them do not begin with one. -/
theorem takeWhile_intercalate {parts : List String} (h : ∀ part ∈ parts, IsPart part) :
    ("/".intercalate parts).toList.takeWhile (· == '/') = [] := by
  cases parts with
  | nil => rfl
  | cons part parts =>
    obtain ⟨hne, -, hslash⟩ := h part List.mem_cons_self
    have hcs : part.toList ≠ [] := by simpa using hne
    obtain ⟨c, cs, hpart⟩ := List.exists_cons_of_ne_nil hcs
    have hc : c ≠ '/' := fun hc => hslash (by simp [hpart, hc])
    have hfirst : ∃ rest, ("/".intercalate (part :: parts)).toList = c :: rest := by
      cases parts with
      | nil => exact ⟨cs, by simp [hpart]⟩
      | cons next parts => exact ⟨_, by rw [String.intercalate_cons_cons]; simp [hpart]; rfl⟩
    obtain ⟨rest, hrest⟩ := hfirst
    simp [hrest, hc]

/-- Parts are found again between their slashes. -/
theorem filter_cutAt_intercalate {parts : List String} (h : ∀ part ∈ parts, IsPart part) :
    (Text.cutAt '/' ("/".intercalate parts)).filter (fun part => part != "" && part != ".") =
      parts := by
  by_cases hp : parts = []
  · rw [hp]
    rfl
  · have hcut : Text.cutAt '/' ("/".intercalate parts) = parts :=
      Text.cutAt_intercalate (fun part hpart => (h part hpart).2.2) hp
    rw [hcut]
    exact List.filter_eq_self.2 fun part hpart => by
      obtain ⟨hne, hdot, -⟩ := h part hpart
      simp [hne, hdot]

/-- The text of a path names the path. -/
theorem ofText_text (h : p.IsProper) : ofText p.text = p := by
  obtain ⟨start, parts⟩ := p
  change ∀ part ∈ parts, IsPart part at h
  have hstart := takeWhile_intercalate h
  have hparts := filter_cutAt_intercalate h
  have hslash (s : String) : Text.cutAt '/' ("/" ++ s) = "" :: Text.cutAt '/' s :=
    Text.cutAt_singleton_append '/' s
  have hrun (s : String) : ("/" ++ s).toList.takeWhile (· == '/') =
      '/' :: s.toList.takeWhile (· == '/') := by simp
  have heq (s : String) (hs : (ofText s).start = start) (hp : (ofText s).parts = parts) :
      ofText s = ⟨start, parts⟩ := by rw [← hs, ← hp]
  cases start with
  | relative =>
    by_cases hempty : parts = []
    · subst hempty
      rfl
    · have htext : text ⟨.relative, parts⟩ = "/".intercalate parts := by simp [text, hempty]
      rw [htext]
      exact heq _ (by rw [start_ofText, hstart]; rfl) (by rw [parts_ofText, hparts])
  | slash =>
    have htext : text ⟨.slash, parts⟩ = "/" ++ "/".intercalate parts := rfl
    rw [htext]
    refine heq _ (by rw [start_ofText, hrun, hstart]; rfl) ?_
    rw [parts_ofText, hslash]
    exact hparts
  | twoSlashes =>
    have htext : text ⟨.twoSlashes, parts⟩ = "/" ++ ("/" ++ "/".intercalate parts) := by
      rw [← String.append_assoc]
      rfl
    rw [htext]
    refine heq _ (by rw [start_ofText, hrun, hrun, hstart]; rfl) ?_
    rw [parts_ofText, hslash, hslash]
    exact hparts

theorem text_ne_empty (h : p.isAbsolute = true) : p.text ≠ "" := by
  obtain ⟨start, parts⟩ := p
  cases start <;> simp_all [isAbsolute, text]

end Files.Path

namespace Files.Tree

/-- The names of folders around the working directory, and those of home folders, are parts of
paths. -/
structure IsProper (t : Tree) : Prop where
  home : t.homePath.IsProper
  userHomes : ∀ entry ∈ t.userHomes, entry.2.IsProper

variable {t : Tree} {p p' : Path}

theorem IsProper.expandHome (ht : t.IsProper) (h : t.expandHome p = .ok p') (hp : p.IsProper) :
    p'.IsProper := by
  unfold Tree.expandHome at h
  split at h
  · cases h
    exact hp
  · next user _ =>
    split at h
    · cases h
    · split at h
      · next folder hfolder =>
        cases h
        obtain ⟨before, after, hentries, -⟩ := List.lookup_eq_some_iff.1 hfolder
        intro part hpart
        obtain hpart | hpart := List.mem_append.1 hpart
        · exact ht.userHomes (user, folder) (by simp [hentries]) part hpart
        · exact hp part (List.mem_of_mem_drop hpart)
      · cases h

theorem fullPath_eq_ok (h : t.fullPath p = .ok p') : p' = t.homePath.resolve p := by
  unfold Tree.fullPath at h
  split at h
  · cases h
  · cases h
    rfl

end Files.Tree

namespace Settings

open Log (resolveLevel)

/-- An entry under a key, if there is a value for it. -/
def entryOf (key : String) (v : Option Value) : List (Value × Value) :=
  v.toList.map fun v => (.str key, v)

/-- Settings as a mapping. What is absent is left out. -/
def written (s : Settings) : Value :=
  .map ([(.str "walker", .map ((.str "traverse_supertype", .bool s.traverseSupertype) ::
      entryOf "recursion_limit" (s.recursionLimit.map .int))),
    (.str "python", .map [(.str "ignored_modules", .ofTexts s.ignoredModules)]),
    (.str "providers", .map [(.str "enabled", .ofTexts s.enabled)])] ++
    (entryOf "log_file" (s.logFile.map fun p => .str p.text) ++
      entryOf "log_level" (s.logLevel.map .str)))

/-- Settings as they are loaded: the limit is positive, the level is known, and the path of the log
file is absolute and has the parts of a path. -/
structure IsSound (s : Settings) : Prop where
  limit_pos : ∀ n, s.recursionLimit = some n → 0 < n
  level_known : ∀ name, s.logLevel = some name → ∃ level, resolveLevel (some name) = .ok level
  file_proper : ∀ p, s.logFile = some p → p.isAbsolute = true ∧ p.IsProper

variable {root file file' p p' : Path} {t t' : Tree} {v : Value} {s : Settings}

theorem limitOf_eq_ok {limit : Option Int} (h : limitOf v = .ok limit) {n : Int}
    (hn : limit = some n) : 0 < n := by
  subst hn
  unfold limitOf at h
  split at h
  · split at h
    · cases h
    · next hpos =>
      cases h
      omega
  · cases h

theorem logFileOf_eq_ok (hroot : root.IsProper) (habs : root.isAbsolute = true)
    {log : Option Path} (h : logFileOf root v = .ok log) (hp : log = some p) :
    p.isAbsolute = true ∧ p.IsProper := by
  subst hp
  obtain ⟨text, -, h⟩ := exists_of_bind_eq_ok h
  cases text with
  | none => cases h
  | some name =>
    have hjoin : root.join (Path.ofText name) = p := by
      by_cases hname : name = "" <;> simp_all [pure, Except.pure]
    subst hjoin
    refine ⟨?_, hroot.join (Path.isProper_ofText name)⟩
    unfold Path.join
    split
    · assumption
    · exact habs

theorem isSound_of_ofValue (hroot : root.IsProper) (habs : root.isAbsolute = true)
    (h : ofValue root v = .ok s) : s.IsSound ∧ s.root = root := by
  have hlevel (name : String) (hname : s.logLevel = some name) :=
    resolveLevel_of_ofValue h hname
  unfold ofValue at h
  split at h
  · obtain ⟨limit, hlimit, h⟩ := exists_of_bind_eq_ok h
    obtain ⟨ignored, -, h⟩ := exists_of_bind_eq_ok h
    obtain ⟨enabled, -, h⟩ := exists_of_bind_eq_ok h
    obtain ⟨log, hlog, h⟩ := exists_of_bind_eq_ok h
    obtain ⟨level, -, h⟩ := exists_of_bind_eq_ok h
    cases h
    exact ⟨⟨fun n hn => limitOf_eq_ok hlimit hn, hlevel,
      fun p hp => logFileOf_eq_ok hroot habs hlog hp⟩, rfl⟩
  · cases h

theorem texts_ofTexts (names : List String) : texts (.ofTexts names) = .ok names := by
  have hitems : (names.map Value.str).mapM scalarText = .ok (names.map some) := by
    induction names with
    | nil => rfl
    | cons name names ih =>
      rw [List.map_cons, List.mapM_cons, ih]
      rfl
  have htexts : texts (.ofTexts names) = scalarTexts (names.map Value.str) := rfl
  rw [htexts, scalarTexts, hitems]
  simp [bind, Except.bind, pure, Except.pure]

theorem logFileOf_text (root : Path) (habs : p.isAbsolute = true) (hp : p.IsProper) :
    logFileOf root (.str p.text) = .ok (some p) := by
  have hjoin : root.join (Path.ofText p.text) = p := by
    rw [Path.ofText_text hp, Path.join_of_isAbsolute _ habs]
  have hne : (p.text == "") = false := by simpa using Path.text_ne_empty habs
  have htext : logFileOf root (.str p.text) =
      .ok (if p.text == "" then none else some (root.join (Path.ofText p.text))) := rfl
  rw [htext, hne, hjoin]
  rfl

theorem levelOf_str {name : String} {level : Int} (h : resolveLevel (some name) = .ok level) :
    levelOf (.str name) = .ok (some name) := by
  have htext : scalarText (.str name) = .ok (some name) := rfl
  simp [levelOf, htext, h, bind, Except.bind, pure, Except.pure]

theorem limitOf_int {n : Int} (h : 0 < n) : limitOf (.int n) = .ok (some n) := by
  have hn : ¬n ≤ 0 := by omega
  simp [limitOf, integer?, hn]

theorem fieldOf_entryOf_append (k key : String) (v : Option Value) (es : List (Value × Value)) :
    Value.fieldOf (entryOf k v ++ es) key =
      if k = key then v.getD (Value.fieldOf es key) else Value.fieldOf es key := by
  cases v <;> simp [entryOf]

theorem fieldOf_entryOf (k key : String) (v : Option Value) :
    Value.fieldOf (entryOf k v) key = if k = key then v.getD .null else .null := by
  have hnil : Value.fieldOf [] key = .null := rfl
  simpa [hnil] using fieldOf_entryOf_append k key v []

/-- Sound settings are what the mapping that they are written as gives. -/
theorem ofValue_written (h : s.IsSound) : ofValue s.root s.written = .ok s := by
  obtain ⟨root, traverse, limit, ignored, enabled, log, level⟩ := s
  have hlimit : limitOf ((limit.map Value.int).getD .null) = .ok limit := by
    cases limit with
    | none => rfl
    | some n => exact limitOf_int (h.limit_pos n rfl)
  have hlog : logFileOf root ((log.map fun p => Value.str p.text).getD .null) = .ok log := by
    cases log with
    | none => rfl
    | some p => exact logFileOf_text root (h.file_proper p rfl).1 (h.file_proper p rfl).2
  have hlevel : levelOf ((level.map Value.str).getD .null) = .ok level := by
    cases level with
    | none => rfl
    | some name =>
      obtain ⟨n, hn⟩ := h.level_known name rfl
      exact levelOf_str hn
  simp [ofValue, written, Value.opened, section?, fieldOf_entryOf_append, fieldOf_entryOf, hlimit,
    hlog, hlevel, texts_ofTexts, truth?, bind, Except.bind, pure, Except.pure]

/-- The folder of the settings file that a text stands for is absolute and has the parts of a
path. -/
theorem isProper_of_filePath (ht : t.IsProper) {text : String}
    (h : filePath t (Path.ofText text) = .ok file) :
    file.parent.IsProper ∧ file.parent.isAbsolute = true := by
  obtain ⟨p, hhome, h⟩ := exists_of_bind_eq_ok h
  have hp := ht.expandHome hhome (Path.isProper_ofText text)
  obtain ⟨folder, -, h⟩ := exists_of_bind_eq_ok h
  have hfull : ∃ q, q.IsProper ∧ file = t.homePath.resolve q := by
    cases folder with
    | true => exact ⟨_, hp.join (Path.isProper_ofText _), Tree.fullPath_eq_ok h⟩
    | false => exact ⟨_, hp, Tree.fullPath_eq_ok h⟩
  obtain ⟨q, hq, rfl⟩ := hfull
  exact ⟨(ht.home.resolve hq).parent, rfl⟩

/-- Settings that a text stands for are sound, whatever the settings file holds. -/
theorem isSound_of_load (ht : t.IsProper) {text : String}
    (h : load t (Path.ofText text) = .ok s) : s.IsSound := by
  obtain ⟨file, hfile, h⟩ := exists_of_bind_eq_ok h
  obtain ⟨hroot, habs⟩ := isProper_of_filePath ht (mapError_eq_ok_iff.1 hfile)
  obtain ⟨there, -, h⟩ := exists_of_bind_eq_ok (mapError_eq_ok_iff.1 h)
  cases there with
  | true =>
    obtain ⟨bytes, -, h⟩ := exists_of_bind_eq_ok h
    obtain ⟨v, hv⟩ := exists_of_ofBytes_eq_ok h
    exact (isSound_of_ofValue hroot habs hv).1
  | false =>
    cases h
    exact ⟨fun _ h => (nomatch h), fun _ h => (nomatch h), fun _ h => (nomatch h)⟩

/-- The settings that a path stands for are those that the bytes of the file give. -/
theorem load_of_read (hfile : filePath t p = .ok file) {bytes : List UInt8}
    (hread : t.read file = .ok bytes) :
    load t p = (ofBytes file.parent bytes).mapError (FileFault.toFault file) := by
  have hof : ofFile t file = ofBytes file.parent bytes := by
    rw [ofFile, Tree.contains_of_read hread, hread]
    rfl
  rw [load, hfile, ← hof]
  rfl

/-- A file of the folder of sound settings from which the mapping that they are written as is read
gives them. -/
theorem load_of_written (hs : s.IsSound) (hfile : filePath t p = .ok file)
    (hroot : file.parent = s.root) {bytes : List UInt8} (hread : t.read file = .ok bytes)
    (hvalue : fileValue bytes = .ok s.written) : load t p = .ok s := by
  have hbytes : ofBytes file.parent bytes = .ok s := by
    rw [ofBytes, hvalue, hroot]
    exact congrArg (Except.mapError FileFault.value) (ofValue_written hs)
  rw [load_of_read hfile hread, hbytes]
  rfl

/-- Whatever the settings file holds that a text stands for: if settings are loaded from it, their
limit of recursion is positive and their level known, and they are loaded as they are from every
file of the same folder that holds the mapping that they are written as. -/
theorem load_written (ht : t.IsProper) {text : String} (h : load t (Path.ofText text) = .ok s) :
    (∀ n, s.recursionLimit = some n → 0 < n) ∧
    (∀ name, s.logLevel = some name → ∃ level, resolveLevel (some name) = .ok level) ∧
    ∀ (t' : Tree) (p' file' : Path) (bytes : List UInt8), filePath t' p' = .ok file' →
      file'.parent = s.root → t'.read file' = .ok bytes → fileValue bytes = .ok s.written →
        load t' p' = .ok s := by
  have hs := isSound_of_load ht h
  exact ⟨hs.limit_pos, hs.level_known, fun t' p' file' bytes hfile hroot hread hvalue =>
    load_of_written hs hfile hroot hread hvalue⟩

end Settings

namespace Value

mutual

/-- Whether two values of which a settings file is made are the same, entries in the same order. -/
def alike : Value → Value → Bool
  | null, null => true
  | bool a, bool b => a == b
  | int m, int n => m == n
  | str a, str b => a == b
  | list as, list bs => alikeItems as bs
  | map es, map fs => alikeEntries es fs
  | _, _ => false

def alikeItems : List Value → List Value → Bool
  | [], [] => true
  | a :: as, b :: bs => alike a b && alikeItems as bs
  | _, _ => false

def alikeEntries : List (Value × Value) → List (Value × Value) → Bool
  | [], [] => true
  | (k, v) :: es, (l, w) :: fs => alike k l && alike v w && alikeEntries es fs
  | _, _ => false

end

mutual

theorem eq_of_alike : ∀ {v w : Value}, alike v w = true → v = w := by
  intro v w h
  cases v <;> cases w <;> simp only [alike, beq_iff_eq, Bool.false_eq_true] at h
  case null.null => rfl
  case list.list as bs => rw [eq_of_alikeItems h]
  case map.map es fs => rw [eq_of_alikeEntries h]
  all_goals rw [h]

theorem eq_of_alikeItems : ∀ {as bs : List Value}, alikeItems as bs = true → as = bs
  | [], [], _ => rfl
  | a :: as, b :: bs, h => by
    simp only [alikeItems, Bool.and_eq_true] at h
    rw [eq_of_alike h.1, eq_of_alikeItems h.2]

theorem eq_of_alikeEntries : ∀ {es fs : List (Value × Value)}, alikeEntries es fs = true → es = fs
  | [], [], _ => rfl
  | (k, v) :: es, (l, w) :: fs, h => by
    simp only [alikeEntries, Bool.and_eq_true] at h
    rw [eq_of_alike h.1.1, eq_of_alike h.1.2, eq_of_alikeEntries h.2]

end

end Value

namespace Settings

open Command.Run (filePath_settingsTree read_settingsTree settingsPath settingsTree)

/-- A settings file with a word for a truth value and a path that can be shortened. -/
private def loosely : List UInt8 :=
  "walker: \x7btraverse_supertype: ' NO'\x7d\nlog_file: a//./../b".toUTF8.toList

/-- A settings file with the settings of that one written back. -/
private def strictly : List UInt8 :=
  "walker: \x7btraverse_supertype: no\x7d\npython: \x7bignored_modules: []\x7d
providers: \x7benabled: []\x7d\nlog_file: /home/a/../b".toUTF8.toList

/-- What both give. -/
private def chosen : Settings where
  root := settingsPath.parent
  traverseSupertype := false
  logFile := some ⟨.slash, ["home", "a", "..", "b"]⟩

private theorem isProper_settingsTree (bytes : List UInt8) : (settingsTree bytes).IsProper := by
  have hhome : (settingsTree bytes).homePath.parts = ["home"] := rfl
  have hnone : (settingsTree bytes).userHomes = [] := rfl
  refine ⟨fun part hpart => ?_, fun entry hentry => by simp [hnone] at hentry⟩
  rw [hhome, List.mem_singleton] at hpart
  subst hpart
  exact ⟨by decide, by decide, by decide⟩

/-- The first text gives these settings, and the second is what they are written back as. -/
private theorem read_texts : ofBytes settingsPath.parent loosely = .ok chosen ∧
    fileValue strictly = .ok chosen.written := by
  have halike : (fileValue strictly).toOption.map (Value.alike · chosen.written) = some true := by
    decide +kernel
  refine ⟨by decide +kernel, ?_⟩
  cases hv : fileValue strictly with
  | error why =>
    rw [hv] at halike
    cases halike
  | ok v =>
    rw [hv] at halike
    rw [Value.eq_of_alike (Option.some.inj halike)]

/-- Settings written loosely are loaded, and those written back give the same ones. -/
theorem load_written_loosely :
    load (settingsTree loosely) (Path.ofText ".") = .ok chosen ∧
      load (settingsTree strictly) (Path.ofText ".") = .ok chosen := by
  have hload : load (settingsTree loosely) (Path.ofText ".") = .ok chosen := by
    rw [load_of_read (filePath_settingsTree _) (read_settingsTree _), read_texts.1]
    rfl
  exact ⟨hload, (load_written (isProper_settingsTree _) hload).2.2 (settingsTree strictly) _ _
    strictly (filePath_settingsTree _) rfl (read_settingsTree _) read_texts.2⟩

end Settings

end TypeReach
