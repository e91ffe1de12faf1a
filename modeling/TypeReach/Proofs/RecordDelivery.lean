import Mathlib.Data.List.Basic
import TypeReach.Log.Session
import TypeReach.Proofs.Answers
import TypeReach.Proofs.FileTrees

/-!
# Where records arrive

After a choice of level and log file, a record of at least the chosen level is written once to the
console and once to the end of the log file, whatever was chosen and recorded before. This holds for
every component whose name does not begin with a dot, and for no other: of two dots side by side the
way up passes over the first, and with it the program's logger.
-/

namespace TypeReach.Log

open Files (FileError Path Tree)

variable {s : Session} {l : Logger} {r : Record} {loggers : List String}

/-- The name of a component does not begin with a dot. -/
def IsPlain (component : String) : Prop := component.toList.head? ≠ some '.'

/-! ### The way up -/

/-- The program's name, read backwards. -/
def programBackwards : List Char := programName.toList.reverse

theorem programBackwards_eq :
    programBackwards = 'e' :: ['r', 'u', 's', 'o', 'l', 'c', 'e', 'p', 'y', 't'] := by decide

theorem forwards_programBackwards : forwards programBackwards = programName := by
  rw [forwards, programBackwards, List.reverse_reverse, String.ofList_toList]

/-- The program's name has no dot. -/
theorem forwards_ne_programName {cs : List Char} (h : '.' ∈ cs) :
    (forwards cs == programName) = false := by
  rw [beq_eq_false_iff_ne]
  intro heq
  have hmem : '.' ∈ programName.toList := by
    rw [← heq, forwards, String.toList_ofList]
    exact List.mem_reverse.2 h
  exact absurd hmem (by decide)

theorem fullName_of_ne (h : r.component ≠ "") :
    r.fullName.toList.reverse = r.component.toList.reverse ++ '.' :: programBackwards := by
  simp [Record.fullName, h, programBackwards]

theorem climbs_programBackwards : climbs loggers programBackwards = false := by
  simp [programBackwards_eq, climbs]

theorem climbs_dot (known : programName ∈ loggers) :
    climbs loggers ('.' :: programBackwards) = true := by
  have hname := forwards_programBackwards
  rw [programBackwards_eq] at hname ⊢
  rw [climbs, if_neg (by simp), hname, if_pos known]
  simp

/-- From a component whose name does not begin with a dot, the way up comes to the program, whatever
loggers are known on the way. -/
theorem climbs_of_plain (known : programName ∈ loggers) :
    ∀ {cs : List Char}, cs.getLast? ≠ some '.' →
      climbs loggers (cs ++ '.' :: programBackwards) = true
  | [], _ => climbs_dot known
  | [c], h => by
    have hdot : c ≠ '.' := by simpa using h
    rw [List.cons_append, List.nil_append, climbs, if_pos hdot]
    exact climbs_dot known
  | c :: d :: cs, h => by
    have hrest : (d :: cs).getLast? ≠ some '.' := by rwa [List.getLast?_cons_cons] at h
    have hlast : cs.getLast? ≠ some '.' := by
      cases cs with
      | nil => simp
      | cons e cs => rwa [List.getLast?_cons_cons] at hrest
    have hnear := climbs_of_plain known hrest
    have hfar := climbs_of_plain known hlast
    rw [List.cons_append] at hnear
    rw [List.cons_append, List.cons_append, climbs, hnear, hfar]
    simp

/-- From a component whose name begins with a dot, the way up passes the program by, once the logger
behind its two dots is known. -/
theorem climbs_of_dots (hone : forwards ('.' :: programBackwards) ∉ loggers)
    (htwo : forwards ('.' :: '.' :: programBackwards) ∈ loggers) :
    ∀ cs : List Char, climbs loggers (cs ++ '.' :: '.' :: programBackwards) = false
  | [] => by
    rw [List.nil_append, climbs, if_neg (by simp), if_neg hone]
    exact climbs_programBackwards
  | [c] => by
    have hdots := climbs_of_dots hone htwo []
    rw [List.nil_append] at hdots
    rw [List.cons_append, List.nil_append, climbs, if_pos htwo, hdots,
      forwards_ne_programName (by simp)]
    simp
  | c :: d :: cs => by
    have hnear := climbs_of_dots hone htwo (d :: cs)
    have hfar := climbs_of_dots hone htwo cs
    rw [List.cons_append] at hnear
    rw [List.cons_append, List.cons_append, climbs, hnear, hfar,
      forwards_ne_programName (by simp)]
    simp

/-! ### Loggers -/

theorem resolveLevel_nonneg {name : Option String} {level : Int}
    (h : resolveLevel name = .ok level) : 0 ≤ level := by
  cases name with
  | none =>
    cases h
    decide
  | some name =>
    rw [resolveLevel] at h
    split at h
    · next found hfound =>
      cases h
      obtain ⟨before, after, hlevels, -⟩ := List.lookup_eq_some_iff.1 hfound
      have hmem : (Text.upper (Text.strip name), level) ∈
          before ++ (Text.upper (Text.strip name), level) :: after := by simp
      rw [← hlevels] at hmem
      simp only [List.mem_cons, Prod.mk.injEq, List.not_mem_nil, or_false] at hmem
      omega
    · cases h

theorem Choice.level_nonneg {c : Choice} (h : c.logger = .ok l) : 0 ≤ l.level := by
  rw [logger, Logger.configure] at h
  split at h
  · cases h
    exact Int.natCast_nonneg 10
  · cases hlevel : resolveLevel c.level with
    | error unknown =>
      rw [hlevel] at h
      cases h
    | ok level =>
      rw [hlevel] at h
      cases h
      exact resolveLevel_nonneg hlevel

/-- Only records of positive level come up to a choice. -/
theorem Choice.threshold_pos {c : Choice} (h : c.logger = .ok l) : 0 < l.threshold := by
  have hlevel := c.level_nonneg h
  rw [Logger.threshold]
  split
  · decide
  · next hne =>
    have hzero : l.level ≠ 0 := by simpa using hne
    omega

namespace Logger

/-- Handlers write to the log file that is chosen, which can be read. -/
def Serves (l : Logger) (t : Tree) (files : List Handler) : Prop :=
  match l.file with
  | none => files = []
  | some p => ∃ place bytes, t.place p = .ok place ∧ t.read p = .ok bytes ∧
      files = [.appending l.level place]

/-- A text is put at the end of the log file, if one is chosen, and nothing else happens. -/
def Extends (l : Logger) (t : Tree) (text : String) (t' : Tree) : Prop :=
  match l.file with
  | none => t' = t
  | some p => t.Extends p text t'

theorem exists_read_of_prepare {t t' : Tree} {p : Path} (hfile : l.file = some p)
    (h : l.prepare t = .ok t') : ∃ bytes, t'.read p = .ok bytes := by
  simp only [prepare, hfile] at h
  obtain ⟨made, -, htouch⟩ := exists_of_bind_eq_ok h
  exact Tree.exists_read_of_touch htouch

theorem serves_of_opened {t t' : Tree} {files : List Handler} (h : l.opened t = .ok (t', files)) :
    l.Serves t' files := by
  cases hfile : l.file with
  | none =>
    simp only [opened, hfile] at h
    cases h
    simp only [Serves, hfile]
  | some p =>
    simp only [opened, hfile] at h
    obtain ⟨prepared, hprepare, h⟩ := exists_of_bind_eq_ok h
    obtain ⟨bytes, hbytes⟩ := exists_read_of_prepare hfile hprepare
    cases hplace : prepared.place p with
    | error problem =>
      simp only [hplace] at h
      cases h
    | ok place =>
      simp only [hplace] at h
      cases h
      simp only [Serves, hfile]
      exact ⟨place, bytes, hplace, hbytes, rfl⟩

theorem Serves.appendAt {t : Tree} {files : List Handler} (h : l.Serves t files)
    (place : List String) (text : String) : l.Serves (t.appendAt place text) files := by
  cases hfile : l.file with
  | none =>
    simp only [Serves, hfile] at h ⊢
    exact h
  | some p =>
    simp only [Serves, hfile] at h ⊢
    obtain ⟨own, bytes, hown, hread, hfiles⟩ := h
    obtain ⟨bytes', hread'⟩ := Tree.exists_read_appendAt hread place text
    exact ⟨own, bytes', by rw [Tree.place_appendAt, hown], hread', hfiles⟩

/-- There is one way out, or two with a log file. -/
theorem Serves.length {t : Tree} {files : List Handler} (h : l.Serves t files) (level : Int) :
    (Handler.console level :: files).length = l.handlers := by
  cases hfile : l.file with
  | none =>
    simp only [Serves, hfile] at h
    simp [handlers, hfile, h]
  | some p =>
    simp only [Serves, hfile] at h
    obtain ⟨place, bytes, -, -, hfiles⟩ := h
    simp [handlers, hfile, hfiles]

theorem level_le_threshold (l : Logger) : l.level ≤ l.threshold := by
  rw [threshold]
  split
  · next hzero =>
    rw [beq_iff_eq.1 hzero]
    decide
  · exact Int.le_refl _

theorem writes_iff (l : Logger) (positive : 0 < l.threshold) (r : Record) :
    l.writes r = true ↔ l.threshold ≤ r.level := by
  rw [writes, Bool.and_eq_true, decide_eq_true_iff, decide_eq_true_iff]
  omega

theorem write_cons_of_writes {t t' : Tree} (hwrites : l.writes r = true)
    (h : l.Extends t (r.fileText ++ "\n") t') (rs : List Record) :
    l.write t (r :: rs) = l.write t' rs := by
  rw [write, write, List.filter_cons_of_pos hwrites]
  cases hfile : l.file with
  | none =>
    rw [Extends, hfile] at h
    exact h.symm
  | some p =>
    simp only [Extends, hfile] at h
    simp only [List.foldl_cons, h.eq_append]

theorem write_cons_of_not_writes (hwrites : ¬l.writes r = true) (t : Tree) (rs : List Record) :
    l.write t (r :: rs) = l.write t rs := by
  rw [write, write, List.filter_cons_of_neg hwrites]

end Logger

namespace Session

/-! ### One record -/

/-- What is there while a logger is chosen: the program's logger is known and has the handlers of
the choice, and of components whose names do not begin with a dot only what is right is
remembered. -/
structure Configured (s : Session) (l : Logger) : Prop where
  known : programName ∈ s.loggers
  level : s.level = l.level
  stops : s.passesOn = false
  handlers : ∃ files, l.Serves s.tree files ∧ s.handlers = .console l.level :: files
  remembers : ∀ (r : Record) (admitted : Bool), IsPlain r.component →
    s.decided.lookup (r.fullName, r.level) = some admitted → admitted = l.writes r

theorem handle_console {level : Int} (hlevel : level ≤ r.level) (s : Session) :
    s.handle r (.console level) = { s with console := s.console ++ [r.consoleText] } :=
  if_pos hlevel

theorem handle_appending {level : Int} (hlevel : level ≤ r.level) (place : List String)
    (s : Session) :
    s.handle r (.appending level place) =
      { s with tree := s.tree.appendAt place (r.fileText ++ "\n") } :=
  if_pos hlevel

theorem foldl_erase_self {α : Type} [BEq α] [LawfulBEq α] (xs : List α) :
    xs.foldl List.erase xs = [] := by
  induction xs with
  | nil => rfl
  | cons x xs ih => rw [List.foldl_cons, List.erase_cons_head, ih]

/-- The session in which a logger has just been chosen. -/
def chosen (s : Session) (l : Logger) (t : Tree) (files : List Handler) : Session :=
  { s with
    tree := t
    loggers := s.loggers.insert programName
    decided := []
    level := l.level
    handlers := .console l.level :: files
    passesOn := false }

/-- Whatever was chosen before, choosing anew leaves the handlers of the new choice alone. -/
theorem install_of_opened {t : Tree} {files : List Handler} (h : l.opened s.tree = .ok (t, files)) :
    s.install l = (s.chosen l t files, none) := by
  simp [install, chosen, clear, know, foldl_erase_self, h]

theorem configured_install (s : Session) (h : (s.install l).2 = none) :
    (s.install l).1.Configured l := by
  cases hopened : l.opened s.tree with
  | error e =>
    simp [install, clear, know, hopened] at h
  | ok made =>
    obtain ⟨t, files⟩ := made
    rw [install_of_opened hopened]
    exact {
      known := List.mem_insert_self
      level := rfl
      stops := rfl
      handlers := ⟨files, Logger.serves_of_opened hopened, rfl⟩
      remembers := fun r admitted _ hnone => by cases hnone }

namespace Configured

theorem isUnder (h : s.Configured l) (plain : IsPlain r.component) :
    s.isUnder r.fullName = true := by
  rw [Session.isUnder]
  by_cases hempty : r.component = ""
  · simp [Record.fullName, hempty]
  · rw [fullName_of_ne hempty, climbs_of_plain h.known (by rwa [List.getLast?_reverse]),
      Bool.or_true]

/-- A component whose name does not begin with a dot admits what the choice admits. -/
theorem admits (h : s.Configured l) (plain : IsPlain r.component) :
    s.admits r.fullName r.level = l.writes r := by
  have hleast : s.least r.fullName = l.threshold := by
    rw [least, h.isUnder plain, h.level, Bool.true_and, Logger.threshold]
    by_cases hlevel : l.level = 0 <;> simp [hlevel]
  rw [Session.admits]
  cases hlookup : s.decided.lookup (r.fullName, r.level) with
  | none => rw [Option.getD_none, hleast, Logger.writes]
  | some admitted => exact h.remembers r admitted plain hlookup

theorem know (h : s.Configured l) (name : String) : (s.know name).Configured l :=
  { h with known := List.mem_insert_of_mem h.known }

theorem remember (h : s.Configured l) (name : String) (level : Int) :
    (s.remember name level).Configured l :=
  { h with
    remembers := fun r admitted plain hlookup => by
      rw [Session.remember, List.lookup_cons] at hlookup
      split at hlookup
      · next hkey =>
        have hrecord : r.fullName = name ∧ r.level = level := by simpa using hkey
        obtain ⟨rfl, rfl⟩ := hrecord
        cases hlookup
        exact h.admits plain
      · exact h.remembers r admitted plain hlookup }

theorem handle (h : s.Configured l) (r : Record) (way : Handler) :
    (s.handle r way).Configured l := by
  rw [Session.handle]
  split
  · split
    · exact { h with }
    · next place hplace =>
      obtain ⟨files, hserves, hhandlers⟩ := h.handlers
      exact { h with handlers := ⟨files, hserves.appendAt place _, hhandlers⟩ }
  · exact h

/-- A record of any component leaves the choice in place. -/
theorem emit (h : s.Configured l) (r : Record) : (s.emit r).Configured l := by
  have hasked := (h.know r.fullName).remember r.fullName r.level
  rw [Session.emit]
  split
  · refine List.foldlRecOn (motive := fun t : Session => t.Configured l) _ _ hasked ?_
    intro t ht way _
    exact ht.handle r way
  · exact hasked

/-- A record of a component whose name does not begin with a dot goes to all handlers of the choice,
if it is admitted. -/
theorem emit_eq (h : s.Configured l) (plain : IsPlain r.component) :
    s.emit r =
      if l.writes r then
        s.handlers.foldl (Session.handle r) ((s.know r.fullName).remember r.fullName r.level)
      else (s.know r.fullName).remember r.fullName r.level := by
  have hasked := (h.know r.fullName).remember r.fullName r.level
  obtain ⟨files, -, hhandlers⟩ := h.handlers
  have hreached : ((s.know r.fullName).remember r.fullName r.level).reached r.fullName =
      s.handlers := by
    rw [reached, hasked.isUnder plain, hasked.stops]
    simp [Session.remember, Session.know, hhandlers]
  rw [Session.emit, hasked.admits plain, hreached]

end Configured

/-- A record arrives as chosen: if it comes up to the threshold, once on the console and once at the
end of the log file, else nowhere. -/
def Delivers (s : Session) (l : Logger) (r : Record) : Prop :=
  if l.threshold ≤ r.level then
    (s.emit r).console = s.console ++ [r.consoleText] ∧
      l.Extends s.tree (r.fileText ++ "\n") (s.emit r).tree
  else (s.emit r).console = s.console ∧ (s.emit r).tree = s.tree

theorem Delivers.console (h : s.Delivers l r) (hreach : l.threshold ≤ r.level) :
    (s.emit r).console = s.console ++ [r.consoleText] := by
  rw [Delivers, if_pos hreach] at h
  exact h.1

theorem Configured.delivers (h : s.Configured l) (positive : 0 < l.threshold)
    (plain : IsPlain r.component) : s.Delivers l r := by
  have hwrites := l.writes_iff positive r
  rw [Delivers]
  split
  · next hreach =>
    have hlevel : l.level ≤ r.level := Int.le_trans l.level_le_threshold hreach
    obtain ⟨files, hserves, hhandlers⟩ := h.handlers
    rw [h.emit_eq plain, if_pos (hwrites.2 hreach), hhandlers, List.foldl_cons,
      handle_console hlevel]
    cases hfile : l.file with
    | none =>
      simp only [Logger.Serves, hfile] at hserves
      simp only [Logger.Extends, hfile, hserves]
      exact ⟨rfl, rfl⟩
    | some p =>
      simp only [Logger.Serves, hfile] at hserves
      obtain ⟨place, bytes, hplace, hread, rfl⟩ := hserves
      simp only [Logger.Extends, hfile, List.foldl_cons, handle_appending hlevel]
      exact ⟨rfl, Tree.extends_appendAt hplace hread _⟩
  · next hbelow =>
    rw [h.emit_eq plain, if_neg (mt hwrites.1 hbelow)]
    exact ⟨rfl, rfl⟩

end Session

/-! ### Whole sessions -/

/-- What does not choose anew: a record, or a choice of a level that is not known. -/
def Event.IsIdle : Event → Prop
  | .configure c => ∃ unknown, c.logger = .error unknown
  | .emit _ => True

namespace Session

/-- A level that is not known is refused, and nothing changes. -/
theorem configure_unknown {c : Choice} {unknown : UnknownLevel} (h : c.logger = .error unknown) :
    s.configure c = (s, some (.unusable unknown.message)) := by
  rw [configure, h]

theorem configure_of_opened {c : Choice} {t : Tree} {files : List Handler}
    (h : c.logger = .ok l) (hopened : l.opened s.tree = .ok (t, files)) :
    s.configure c = (s.chosen l t files, none) := by
  rw [configure, h]
  dsimp only
  rw [install_of_opened hopened]
  rfl

theorem configure_known {c : Choice} (h : c.logger = .ok l) (hdone : (s.configure c).2 = none) :
    (s.configure c).1.Configured l := by
  rw [configure, h] at hdone ⊢
  exact configured_install s (Option.map_eq_none_iff.1 hdone)

/-- What does not choose anew leaves the choice in place. -/
theorem Configured.step (h : s.Configured l) {e : Event} (idle : e.IsIdle) :
    (s.step e).Configured l := by
  cases e with
  | configure c =>
    obtain ⟨unknown, hunknown⟩ := idle
    rw [Session.step, configure_unknown hunknown]
    exact h
  | emit r => exact h.emit r

theorem Configured.run (h : s.Configured l) {es : List Event} (idle : ∀ e ∈ es, e.IsIdle) :
    (s.run es).Configured l := by
  induction es generalizing s with
  | nil => exact h
  | cons e es ih =>
    exact ih (h.step (idle e List.mem_cons_self)) fun f hf => idle f (List.mem_cons_of_mem e hf)

/-- One way out for records, or two with a log file, and every record of a component arrives as
chosen. -/
structure Keeps (s : Session) (l : Logger) (component : String) : Prop where
  handlers : s.handlers.length = l.handlers
  delivers : ∀ level message, s.Delivers l { component, level, message }

/-- A session as it comes about, with any choices and records. -/
def Arises (s : Session) : Prop := ∃ t outer before, (start t outer).run before = s

/-- The records of a component arrive in every session: a choice of a level that is not known is
refused and changes nothing, and after any other choice they arrive as chosen until the next. -/
structure KeepsRecords (component : String) : Prop where
  refuses : ∀ (s : Session) (c : Choice) (unknown : UnknownLevel), s.Arises →
    c.logger = .error unknown → s.configure c = (s, some (.unusable unknown.message))
  keeps : ∀ (s : Session) (c : Choice) (l : Logger), s.Arises → c.logger = .ok l →
    (s.configure c).2 = none → ∀ between : List Event, (∀ e ∈ between, e.IsIdle) →
      ((s.configure c).1.run between).Keeps l component

theorem Configured.keeps (h : s.Configured l) (positive : 0 < l.threshold) {component : String}
    (plain : IsPlain component) : s.Keeps l component where
  handlers := by
    obtain ⟨files, hserves, hhandlers⟩ := h.handlers
    rw [hhandlers, hserves.length]
  delivers _ _ := h.delivers positive plain

theorem keepsRecords_of_plain {component : String} (plain : IsPlain component) :
    KeepsRecords component where
  refuses _ _ _ _ hunknown := configure_unknown hunknown
  keeps _ c _ _ hlogger hdone _ idle :=
    ((configure_known hlogger hdone).run idle).keeps (c.threshold_pos hlogger) plain

/-- Records in a row are written as the logger alone tells. -/
theorem Configured.run_emit (h : s.Configured l) (positive : 0 < l.threshold) {rs : List Record}
    (plain : ∀ r ∈ rs, IsPlain r.component) :
    (s.run (rs.map .emit)).tree = l.write s.tree rs ∧
      ∃ texts, (s.run (rs.map .emit)).console = s.console ++ texts ∧
        l.console rs = texts.flatMap fun text => Text.lines (text ++ "\n") := by
  induction rs generalizing s with
  | nil =>
    refine ⟨?_, [], by simp, rfl⟩
    cases hfile : l.file <;> simp [Logger.write, hfile]
  | cons r rs ih =>
    have hdelivers := h.delivers positive (plain r List.mem_cons_self)
    obtain ⟨htree, texts, hconsole, hlines⟩ :=
      ih (h.emit r) fun q hq => plain q (List.mem_cons_of_mem r hq)
    rw [List.map_cons, run_cons, Session.step, htree, hconsole]
    by_cases hreach : l.threshold ≤ r.level
    · have hwrites := (l.writes_iff positive r).2 hreach
      rw [Delivers, if_pos hreach] at hdelivers
      refine ⟨?_, r.consoleText :: texts, by rw [hdelivers.1]; simp, ?_⟩
      · rw [Logger.write_cons_of_writes hwrites hdelivers.2]
      · rw [List.flatMap_cons, ← hlines, Logger.console, Logger.console,
          List.filter_cons_of_pos hwrites, List.flatMap_cons]
    · have hwrites : ¬l.writes r = true := mt (l.writes_iff positive r).1 hreach
      rw [Delivers, if_neg hreach] at hdelivers
      refine ⟨?_, texts, by rw [hdelivers.1], ?_⟩
      · rw [hdelivers.2, Logger.write_cons_of_not_writes hwrites]
      · rw [← hlines, Logger.console, Logger.console, List.filter_cons_of_neg hwrites]

/-- The tree without files. -/
def emptyTree : Tree := { home := [], files := .empty }

/-- A session in which everything is to be written, and the logger of the component "." has been
asked for. -/
def dotted : Session :=
  ((start emptyTree []).run
    [.configure { verbose := true }, .emit { component := ".", level := 0, message := "" }])

theorem forwards_dots :
    forwards ('.' :: '.' :: programBackwards) = "typeclosure.." ∧
      forwards ('.' :: programBackwards) = "typeclosure." := by decide

theorem dotted_eq : dotted.loggers = ["typeclosure..", "typeclosure"] ∧
    dotted.decided = [(("typeclosure..", 0), false)] ∧ dotted.console = [] :=
  ⟨rfl, rfl, rfl⟩

/-- A component whose name begins with a dot is not below the program's logger. -/
theorem not_isUnder_dotted (leading : r.component.toList.head? = some '.') :
    (dotted.know r.fullName).isUnder r.fullName = false := by
  obtain ⟨rest, hrest⟩ := List.head?_eq_some_iff.1 leading
  have hname : r.fullName.toList.reverse = rest.reverse ++ '.' :: '.' :: programBackwards := by
    have hne : r.component ≠ "" := fun hempty => by rw [hempty] at hrest; cases hrest
    rw [fullName_of_ne hne, hrest, List.reverse_cons, List.append_assoc, List.singleton_append]
  have hforwards : forwards (rest.reverse ++ '.' :: '.' :: programBackwards) = r.fullName := by
    rw [← hname, forwards, List.reverse_reverse, String.ofList_toList]
  have hlonger : r.fullName ≠ "typeclosure." := fun heq => by
    have hlength := congrArg List.length hname
    rw [heq] at hlength
    simp [programBackwards_eq] at hlength
  have hloggers : (dotted.know r.fullName).loggers =
      ["typeclosure..", "typeclosure"].insert r.fullName := by
    rw [know, dotted_eq.1]
  rw [isUnder, hname, hloggers, Bool.or_eq_false_iff]
  constructor
  · rw [← hforwards]
    exact forwards_ne_programName (by simp)
  · apply climbs_of_dots
    · rw [forwards_dots.2, List.mem_insert_iff]
      simp [hlonger.symm]
    · rw [forwards_dots.1, List.mem_insert_iff]
      simp

/-- A record of such a component is not written, although everything is to be written. -/
theorem console_emit_dotted (leading : r.component.toList.head? = some '.') (hlevel : r.level = 10) :
    (dotted.emit r).console = [] := by
  have hleast : (dotted.know r.fullName).least r.fullName = warningLevel := by
    rw [least, not_isUnder_dotted leading]
    rfl
  have hadmits : (dotted.know r.fullName).admits r.fullName r.level = false := by
    have hother : ((r.fullName, (10 : Int)) == ("typeclosure..", 0)) = false := by simp
    rw [admits, hleast, know, dotted_eq.2.1, hlevel, List.lookup_cons, hother]
    rfl
  have hremembered : ((dotted.know r.fullName).remember r.fullName r.level).admits r.fullName
      r.level = false := by
    rw [admits, remember, hadmits]
    simp
  rw [emit, if_neg (by simp [hremembered])]
  exact dotted_eq.2.2

theorem not_keepsRecords_of_leading {component : String}
    (leading : component.toList.head? = some '.') : ¬KeepsRecords component := by
  intro hkeeps
  have hkept := hkeeps.keeps (start emptyTree []) { verbose := true }
    ⟨debugLevel, none⟩ ⟨_, _, [], rfl⟩ rfl rfl
    [.emit { component := ".", level := 0, message := "" }] (by simp [Event.IsIdle])
  have hwritten : (dotted.emit ⟨component, 10, ""⟩).console =
      dotted.console ++ [Record.consoleText ⟨component, 10, ""⟩] :=
    (hkept.delivers 10 "").console (Int.le_refl 10)
  rw [console_emit_dotted leading rfl, dotted_eq.2.2] at hwritten
  cases hwritten

/-- The records of a component arrive in every session exactly if its name does not begin with a
dot. -/
theorem keepsRecords_iff (component : String) :
    KeepsRecords component ↔ component.toList.head? ≠ some '.' :=
  ⟨fun hkeeps leading => not_keepsRecords_of_leading leading hkeeps, keepsRecords_of_plain⟩

/-- A logger of warnings with a log file in an empty directory. -/
def warnings : Logger := { level := warningLevel, file := some (.ofText "a.log") }

theorem opened_warnings :
    warnings.opened emptyTree =
      .ok (emptyTree.putAt ["a.log"] [], [.appending warningLevel ["a.log"]]) := by
  simp only [warnings, Logger.opened, Logger.prepare, Tree.touch, Tree.makeFolder,
    Tree.makeFolders, Tree.place, Tree.holdsNull, String.contains_char_eq]
  rfl

/-- A warning of the component ".x" comes to the handler of last resort instead of those that were
chosen, and the console shows the message alone. -/
theorem not_keepsRecords_dot_x : ¬KeepsRecords ".x" := by
  intro hkeeps
  have hlogger : Choice.logger { level := some "warning", file := some (.ofText "a.log") } =
      .ok warnings := by rfl
  have harises : (start emptyTree []).Arises := ⟨_, _, [], rfl⟩
  have hconfigure := configure_of_opened (s := start emptyTree []) hlogger opened_warnings
  have hkept := hkeeps.keeps _ _ _ harises hlogger (congrArg Prod.snd hconfigure) []
    (by simp)
  rw [hconfigure] at hkept
  have hwritten := (hkept.delivers 30 "lost").console (Int.le_refl 30)
  have hshown : (((start emptyTree []).chosen warnings (emptyTree.putAt ["a.log"] [])
      [.appending warningLevel ["a.log"]]).emit ⟨".x", 30, "lost"⟩).console = ["lost"] := rfl
  exact absurd (hshown.symm.trans hwritten) (by decide)

end Session

end TypeReach.Log
