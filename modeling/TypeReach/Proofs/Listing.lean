import TypeReach.Proofs.GraphAnswers
import TypeReach.Proofs.Related

/-!
# Look-ups of members

A walk asks for the members of each type that it opens: seven look-ups, in a fixed order, with those
of other types in between. A provider that keeps a log of them shows that no type is asked for its
members twice, and that the types asked for all of them are those that get marked.
-/

namespace TypeReach

/-- A look-up of what a type declares. -/
inductive Listing where
  | methods
  | constructors
  | fields
  | supertype
  | interfaces
  | annotations
  | package
  deriving DecidableEq, Repr

namespace Listing

/-- The look-ups for a type, in order. -/
def all : List Listing :=
  [methods, constructors, fields, supertype, interfaces, annotations, package]

variable {δ : Type} [DecidableEq δ]

/-- The look-ups in a log that are about a type. -/
def about (d : δ) (log : List (δ × Listing)) : List Listing :=
  log.filterMap fun entry => if entry.1 = d then some entry.2 else none

@[simp] theorem about_nil (d : δ) : about d [] = [] := rfl

@[simp] theorem about_append (d : δ) (log log' : List (δ × Listing)) :
    about d (log ++ log') = about d log ++ about d log' := by
  simp [about]

theorem about_eq_nil {d : δ} {log : List (δ × Listing)} (h : ∀ entry ∈ log, entry.1 ≠ d) :
    about d log = [] := by
  simpa [about] using h

theorem about_map_self (d : δ) (listings : List Listing) :
    about d (listings.map fun listing => (d, listing)) = listings := by
  induction listings with
  | nil => rfl
  | cons listing listings ih => simp [about]

end Listing

section

variable {σ κ δ α ν β γ : Type}

/-- A look-up beside a log, which stays as it is. -/
def Lookup.aside (look : Lookup σ β) : Lookup (σ × κ) β := fun m =>
  match look m.1 with
  | .ok b memory => .ok b (memory, m.2)
  | .error fault memory => .error fault (memory, m.2)

/-- A look-up that is entered in a log when it starts. -/
def Lookup.logged (entry : κ) (look : Lookup σ β) : Lookup (σ × List κ) β := fun m =>
  look.aside (m.1, m.2 ++ [entry])

/-- A provider with a log of the look-ups of what types declare. -/
def Provider.logged (p : Provider σ δ α ν) : Provider (σ × List (δ × Listing)) δ α ν where
  typeName := p.typeName
  shown := p.shown
  methods d := (p.methods d).logged (d, .methods)
  constructors d := (p.constructors d).logged (d, .constructors)
  fields d := (p.fields d).logged (d, .fields)
  supertype d := (p.supertype d).logged (d, .supertype)
  interfaces d := (p.interfaces d).logged (d, .interfaces)
  annotations d := (p.annotations d).logged (d, .annotations)
  packageAnnotations d := (p.packageAnnotations d).logged (d, .package)
  accessors a := (p.accessors a).aside
  invoke a accessor := (p.invoke a accessor).aside
  naming d := (p.naming d).aside

end

namespace Walk

/-! ### The log does not show -/

section

variable {σ κ δ α ν β γ : Type}

/-- A state without the log. -/
def unlogged (s : WalkState (σ × κ) δ) : WalkState σ δ :=
  { s with memory := s.memory.1 }

/-- A result without the log. -/
def withoutLog : EStateM.Result Fault (WalkState (σ × κ) δ) β →
    EStateM.Result Fault (WalkState σ δ) β
  | .ok b s => .ok b (unlogged s)
  | .error fault s => .error fault (unlogged s)

/-- A step beside a log does what another does without it. -/
def Mirrors (a : Walk (σ × κ) δ β) (b : Walk σ δ β) : Prop :=
  ∀ s, withoutLog (a s) = b (unlogged s)

theorem mirrors_pure (b : β) : Mirrors (pure b : Walk (σ × κ) δ β) (pure b) :=
  fun _ => rfl

theorem Mirrors.bind {a : Walk (σ × κ) δ β} {b : Walk σ δ β} {f : β → Walk (σ × κ) δ γ}
    {g : β → Walk σ δ γ} (h : Mirrors a b) (hf : ∀ x, Mirrors (f x) (g x)) :
    Mirrors (a >>= f) (b >>= g) := by
  intro s
  simp only [Bind.bind, EStateM.bind]
  rw [← h s]
  cases a s with
  | ok x t => exact hf x t
  | error fault t => rfl

theorem mirrors_note (n : Note) : Mirrors (note n : Walk (σ × κ) δ Unit) (note n) :=
  fun _ => rfl

theorem mirrors_consult (look : Lookup σ β) :
    Mirrors (consult look.aside : Walk (σ × κ) δ β) (consult look) := by
  intro s
  simp only [consult, Lookup.aside, unlogged]
  cases look s.memory.1 <;> rfl

theorem mirrors_ask (call : Call) (look : Lookup σ β) :
    Mirrors (ask call look.aside : Walk (σ × κ) δ β) (ask call look) :=
  fun s => mirrors_consult look { s with calls := call :: s.calls }

theorem mirrors_logged (call : Call) (entry : κ) (look : Lookup σ β) :
    Mirrors (ask call (look.logged entry) : Walk (σ × List κ) δ β) (ask call look) :=
  fun s => mirrors_ask call look { s with memory := (s.memory.1, s.memory.2 ++ [entry]) }

variable {p : Provider σ δ α ν}

theorem mirrors_readAttribute (a : AnnotationUse δ α) (accessor : String) :
    Mirrors (readAttribute p.logged a accessor) (readAttribute p a accessor) := by
  intro s
  have hask := mirrors_ask (.invoke (p.typeName a.descriptor) accessor) (p.invoke a accessor) s
  have hskip (fault : Fault) : Mirrors (skip p.logged a accessor fault) (skip p a accessor fault) :=
    (mirrors_consult (p.naming a.descriptor)).bind fun _ => mirrors_note _
  simp only [readAttribute]
  rw [← hask]
  simp only [Provider.logged]
  cases ask (.invoke (p.typeName a.descriptor) accessor) (p.invoke a accessor).aside s with
  | ok v t => rfl
  | error fault t =>
    cases fault with
    | restricted message => exact hskip _ t
    | _ => rfl

theorem mirrors_classify (d : δ) (fault : Fault) :
    Mirrors (classify p.logged d fault) (classify p d fault) := by
  cases fault with
  | linkage message typeName =>
    have hblame : Mirrors (consult (blame p.logged d typeName) : Walk (σ × List (δ × Listing)) δ _)
        (consult (blame p d typeName)) := by
      cases typeName with
      | none => exact mirrors_consult _
      | some name =>
        simp only [blame]
        split
        · exact mirrors_consult _
        · exact fun _ => rfl
    exact hblame.bind fun _ => (mirrors_note _).bind fun _ => mirrors_pure _
  | _ => exact fun _ => rfl

variable [DecidableEq δ]

theorem Mirrors.opened {a : Walk (σ × List (δ × Listing)) δ Unit} {b : Walk σ δ Unit}
    (h : Mirrors a b) (d : δ) : Mirrors (opened p.logged d a) (opened p d b) := by
  intro s
  have hbody : b (enter d (unlogged s)) = withoutLog (a (enter d s)) := (h (enter d s)).symm
  simp only [Walk.opened, hbody]
  cases a (enter d s) with
  | ok _ t => rfl
  | error fault t =>
    have hclassify := mirrors_classify (p := p) d fault t
    simp only [withoutLog]
    rw [← hclassify]
    cases classify p.logged d fault t <;> rfl

end

/-! ### Steps that are not logged -/

section

variable {σ κ δ α ν β : Type}

/-- What came of a step from `s` has the same marks and the same log. -/
def SameSince (s : WalkState (σ × κ) δ) :
    EStateM.Result Fault (WalkState (σ × κ) δ) β → Prop
  | .ok _ t => t.marked = s.marked ∧ t.memory.2 = s.memory.2
  | .error _ t => t.marked = s.marked ∧ t.memory.2 = s.memory.2

theorem sameSince_consult (look : Lookup σ β) (s : WalkState (σ × κ) δ) :
    SameSince s (consult look.aside s) := by
  simp only [consult, Lookup.aside]
  cases look s.memory.1 <;> exact ⟨rfl, rfl⟩

theorem sameSince_ask (call : Call) (look : Lookup σ β)
    (s : WalkState (σ × κ) δ) : SameSince s (ask call look.aside s) := by
  simp only [ask, consult, Lookup.aside]
  cases look s.memory.1 <;> exact ⟨rfl, rfl⟩

variable {p : Provider σ δ α ν}

theorem sameSince_skip (a : AnnotationUse δ α) (accessor : String) (fault : Fault)
    (s : WalkState (σ × List (δ × Listing)) δ) :
    SameSince s (skip p.logged a accessor fault s) := by
  have hconsult := sameSince_consult (p.naming a.descriptor) s
  simp only [skip, Provider.logged, Bind.bind, EStateM.bind]
  cases hc : consult (p.naming a.descriptor).aside s with
  | ok name t =>
    rw [hc] at hconsult
    exact hconsult
  | error fault t =>
    rw [hc] at hconsult
    exact hconsult

theorem sameSince_readAttribute (a : AnnotationUse δ α) (accessor : String)
    (s : WalkState (σ × List (δ × Listing)) δ) :
    SameSince s (readAttribute p.logged a accessor s) := by
  have hask : SameSince s (ask (.invoke (p.logged.typeName a.descriptor) accessor)
    (p.logged.invoke a accessor) s) := sameSince_ask _ _ s
  unfold readAttribute
  cases hi : ask (.invoke (p.logged.typeName a.descriptor) accessor)
    (p.logged.invoke a accessor) s with
  | ok v t =>
    rw [hi] at hask
    exact hask
  | error fault t =>
    rw [hi] at hask
    cases fault with
    | restricted message =>
      have hskip := sameSince_skip (p := p) a accessor (.restricted message) t
      simp only
      cases hs : skip p.logged a accessor (.restricted message) t with
      | ok x u =>
        rw [hs] at hskip
        exact ⟨hskip.1.trans hask.1, hskip.2.trans hask.2⟩
      | error fault u =>
        rw [hs] at hskip
        exact ⟨hskip.1.trans hask.1, hskip.2.trans hask.2⟩
    | _ => exact hask

theorem sameSince_classify (d : δ) (fault : Fault) (s : WalkState (σ × List (δ × Listing)) δ) :
    SameSince s (classify p.logged d fault s) := by
  cases fault with
  | linkage message typeName =>
    have hblame : SameSince s (consult (blame p.logged d typeName) s) := by
      cases typeName with
      | none => exact sameSince_consult _ s
      | some name =>
        simp only [blame]
        split
        · exact sameSince_consult _ s
        · exact ⟨rfl, rfl⟩
    simp only [classify, Bind.bind, EStateM.bind]
    cases hc : consult (blame p.logged d typeName) s with
    | ok name t =>
      rw [hc] at hblame
      exact hblame
    | error fault t =>
      rw [hc] at hblame
      exact hblame
  | _ => exact ⟨rfl, rfl⟩

end

/-! ### What the log says -/

section

variable {σ δ α ν β γ : Type} [DecidableEq δ]

open Listing

/-- From `s` to `t` the log grew by `own` and by all look-ups for each type that got marked. -/
structure Listed (own : List (δ × Listing)) (s t : WalkState (σ × List (δ × Listing)) δ) :
    Prop where
  keeps : ∀ x ∈ s.marked, x ∈ t.marked
  log : ∃ new, t.memory.2 = s.memory.2 ++ new ∧
    ∀ x, about x new = about x own ++ if x ∈ s.marked ∨ x ∉ t.marked then [] else all

/-- From `s` to `t` the log grew by some of `own` and by some look-ups for unmarked types, in
order. -/
def ListedInPart (own : List (δ × Listing)) (s t : WalkState (σ × List (δ × Listing)) δ) : Prop :=
  ∃ new, t.memory.2 = s.memory.2 ++ new ∧
    ∀ x, about x new <+: about x own ++ if x ∈ s.marked then [] else all

/-- What came of a step from `s` is in the log as far as the step got. -/
def ListedSince (own : List (δ × Listing)) (s : WalkState (σ × List (δ × Listing)) δ) :
    EStateM.Result Fault (WalkState (σ × List (δ × Listing)) δ) β → Prop
  | .ok _ t => Listed own s t
  | .error _ t => ListedInPart own s t

/-- A step makes the look-ups in `own` itself, if these are about marked types. -/
def Lists (own : List (δ × Listing)) (a : Walk (σ × List (δ × Listing)) δ β) : Prop :=
  ∀ s, (∀ entry ∈ own, entry.1 ∈ s.marked) → ListedSince own s (a s)

variable {own own' : List (δ × Listing)} {s t u : WalkState (σ × List (δ × Listing)) δ}

theorem Listed.of_append (hm : t.marked = s.marked) (hl : t.memory.2 = s.memory.2 ++ own) :
    Listed own s t := by
  refine ⟨fun x hx => hm ▸ hx, own, hl, fun x => ?_⟩
  have hx : x ∈ s.marked ∨ x ∉ t.marked := by
    rw [hm]
    exact Classical.em _
  simp [hx]

theorem ListedInPart.of_append (hl : t.memory.2 = s.memory.2 ++ own) : ListedInPart own s t :=
  ⟨own, hl, fun _ => List.prefix_append _ _⟩

/-- What is logged about a type that is not marked is not a step's own. -/
theorem about_own_of_notMem (hown : ∀ entry ∈ own, entry.1 ∈ s.marked) {x : δ}
    (hx : x ∉ s.marked) : about x own = [] := by
  refine about_eq_nil fun entry hentry heq => hx ?_
  rw [← heq]
  exact hown entry hentry

theorem Listed.trans (hown : ∀ entry ∈ own ++ own', entry.1 ∈ s.marked) (h : Listed own s t)
    (h' : Listed own' t u) : Listed (own ++ own') s u := by
  obtain ⟨new, hlog, hnew⟩ := h.log
  obtain ⟨new', hlog', hnew'⟩ := h'.log
  refine ⟨fun x hx => h'.keeps x (h.keeps x hx), new ++ new', ?_, fun x => ?_⟩
  · rw [hlog', hlog, List.append_assoc]
  · rw [about_append, about_append, hnew, hnew']
    by_cases hs : x ∈ s.marked
    · simp [hs, h.keeps x hs]
    · have hnone := about_own_of_notMem hown hs
      rw [about_append, List.append_eq_nil_iff] at hnone
      rw [hnone.1, hnone.2]
      -- The type gets marked in one of the two parts, if at all.
      by_cases ht : x ∈ t.marked
      · simp [hs, ht, h'.keeps x ht]
      · simp [hs, ht]

theorem Listed.trans_inPart (hown : ∀ entry ∈ own ++ own', entry.1 ∈ s.marked) (h : Listed own s t)
    (h' : ListedInPart own' t u) : ListedInPart (own ++ own') s u := by
  obtain ⟨new, hlog, hnew⟩ := h.log
  obtain ⟨new', hlog', hnew'⟩ := h'
  refine ⟨new ++ new', ?_, fun x => ?_⟩
  · rw [hlog', hlog, List.append_assoc]
  · have hx := hnew' x
    rw [about_append, about_append, hnew]
    by_cases hs : x ∈ s.marked
    · simpa [hs, h.keeps x hs] using hx
    · have hnone := about_own_of_notMem hown hs
      rw [about_append, List.append_eq_nil_iff] at hnone
      rw [hnone.2] at hx
      rw [hnone.1, hnone.2]
      by_cases ht : x ∈ t.marked
      · simp_all
      · simpa [hs, ht] using hx

theorem ListedInPart.append (own' : List (δ × Listing)) (h : ListedInPart own s t)
    (hown : ∀ entry ∈ own ++ own', entry.1 ∈ s.marked) : ListedInPart (own ++ own') s t := by
  obtain ⟨new, hlog, hnew⟩ := h
  refine ⟨new, hlog, fun x => ?_⟩
  have hx := hnew x
  rw [about_append]
  by_cases hs : x ∈ s.marked
  · simp only [hs, if_true, List.append_nil] at hx ⊢
    exact hx.trans (List.prefix_append _ _)
  · have hnone := about_own_of_notMem hown hs
    rw [about_append, List.append_eq_nil_iff] at hnone
    rwa [hnone.2, List.append_nil]

theorem Lists.bind {a : Walk (σ × List (δ × Listing)) δ β}
    {f : β → Walk (σ × List (δ × Listing)) δ γ} (h : Lists own a) (hf : ∀ x, Lists own' (f x)) :
    Lists (own ++ own') (a >>= f) := by
  intro s hown
  have hs := h s fun entry hentry => hown entry (List.mem_append_left _ hentry)
  simp only [Bind.bind, EStateM.bind]
  cases ha : a s with
  | error fault t =>
    rw [ha] at hs
    exact hs.append own' hown
  | ok x t =>
    rw [ha] at hs
    have ht := hf x t fun entry hentry => hs.keeps _ (hown entry (List.mem_append_right _ hentry))
    simp only
    cases hb : f x t with
    | error fault u =>
      rw [hb] at ht
      exact hs.trans_inPart hown ht
    | ok y u =>
      rw [hb] at ht
      exact hs.trans hown ht

/-- A step that changes neither marks nor log makes no look-ups of members. -/
theorem Lists.of_same {a : Walk (σ × List (δ × Listing)) δ β} (h : ∀ s, SameSince s (a s)) :
    Lists [] a := by
  intro s _
  have hs := h s
  cases ha : a s with
  | ok x t =>
    rw [ha] at hs
    exact .of_append hs.1 (by simp [hs.2])
  | error fault t =>
    rw [ha] at hs
    exact .of_append (by simp [hs.2])

theorem lists_logged (call : Call) (entry : δ × Listing) (look : Lookup σ β) :
    Lists [entry] (ask call (look.logged entry) : Walk (σ × List (δ × Listing)) δ β) := by
  intro s _
  simp only [ask, consult, Lookup.logged, Lookup.aside]
  cases look s.memory.1 with
  | ok x m => exact .of_append rfl rfl
  | error fault m => exact .of_append rfl

variable {p : Provider σ δ α ν}

/-- A logged step does what another does without the log, and makes the look-ups in `own`. -/
structure Records (own : List (δ × Listing)) (a : Walk (σ × List (δ × Listing)) δ β)
    (b : Walk σ δ β) : Prop where
  mirrors : Mirrors a b
  lists : Lists own a

theorem Records.of_same {a : Walk (σ × List (δ × Listing)) δ β} {b : Walk σ δ β}
    (hm : Mirrors a b) (h : ∀ s, SameSince s (a s)) : Records [] a b :=
  ⟨hm, .of_same h⟩

theorem Records.bind {a : Walk (σ × List (δ × Listing)) δ β} {b : Walk σ δ β}
    {f : β → Walk (σ × List (δ × Listing)) δ γ} {g : β → Walk σ δ γ} (h : Records own a b)
    (hf : ∀ x, Records own' (f x) (g x)) : Records (own ++ own') (a >>= f) (b >>= g) :=
  ⟨h.mirrors.bind fun x => (hf x).mirrors, h.lists.bind fun x => (hf x).lists⟩

theorem records_logged (call : Call) (entry : δ × Listing) (look : Lookup σ β) :
    Records [entry] (ask call (look.logged entry)) (ask call look) :=
  ⟨mirrors_logged call entry look, lists_logged call entry look⟩

theorem relatingParts_records : RelatingParts p.logged p fun a b => Records [] a b where
  pure _ := .of_same (mirrors_pure _) fun _ => ⟨rfl, rfl⟩
  bind h hf := h.bind hf
  stop _ := .of_same (fun _ => rfl) fun _ => ⟨rfl, rfl⟩
  accessors _ := .of_same (mirrors_ask _ _) (sameSince_ask _ _)
  reads a accessor :=
    .of_same (mirrors_readAttribute a accessor) (sameSince_readAttribute a accessor)

/-- Walking what a type declares makes the look-ups for it. -/
theorem records_members {visit : δ → Walk (σ × List (δ × Listing)) δ Unit}
    {visit' : δ → Walk σ δ Unit} (hv : ∀ x, Records [] (visit x) (visit' x))
    (options : WalkOptions) (d : δ) :
    Records (all.map fun listing => (d, listing)) (members p.logged options visit d)
      (members p options visit' d) := by
  have parts := relatingParts_records (p := p)
  have rest : Records [(d, .interfaces), (d, .annotations), (d, .package)]
      (do
        Walk.references visit (← ask (.interfaces (p.typeName d)) (p.logged.interfaces d))
        Walk.annotations p.logged visit
          (← ask (.annotations (p.typeName d)) (p.logged.annotations d))
        Walk.package p.logged visit
          (← ask (.package (p.typeName d)) (p.logged.packageAnnotations d)))
      (do
        Walk.references visit' (← ask (.interfaces (p.typeName d)) (p.interfaces d))
        Walk.annotations p visit' (← ask (.annotations (p.typeName d)) (p.annotations d))
        Walk.package p visit' (← ask (.package (p.typeName d)) (p.packageAnnotations d))) :=
    (records_logged _ _ _).bind fun rs => (parts.references hv rs).bind fun _ =>
      (records_logged _ _ _).bind fun as => (parts.annotationsOf hv as).bind fun _ =>
        (records_logged _ _ _).bind fun own => parts.packageOf hv own
  refine (records_logged _ _ _).bind fun ms => (parts.each (parts.method hv) ms).bind fun _ => ?_
  refine (records_logged _ _ _).bind fun cs =>
    (parts.each (parts.constructor hv) cs).bind fun _ => ?_
  refine (records_logged _ _ _).bind fun fs => (parts.each (parts.field hv) fs).bind fun _ => ?_
  refine (records_logged _ _ _).bind fun r => ?_
  split
  · exact (parts.reference hv r).bind fun _ => rest
  · exact rest

/-- Opening a type makes its look-ups, which are those of a newly marked type. -/
theorem listedSince_opened {d : δ} {body : Walk (σ × List (δ × Listing)) δ Unit}
    (hbody : Lists (all.map fun listing => (d, listing)) body) (hd : d ∉ s.marked) :
    ListedSince [] s (opened p.logged d body s) := by
  have hb := hbody (enter d s) (by simp [enter])
  have hother (x : δ) (hx : x ≠ d) : about x (all.map fun listing => (d, listing)) = [] :=
    about_eq_nil (by simp [Ne.symm hx])
  simp only [opened]
  cases hr : body (enter d s) with
  | ok _ t =>
    rw [hr] at hb
    obtain ⟨hkeeps, new, hlog, hnew⟩ := hb
    refine ⟨fun x hx => hkeeps x (List.mem_cons_of_mem _ hx), new, hlog, fun x => ?_⟩
    have hx := hnew x
    by_cases hxd : x = d
    · subst hxd
      have hmark : x ∈ t.marked := hkeeps x (by simp [enter])
      simpa [enter, leave, hd, hmark, about_map_self] using hx
    · by_cases hs : x ∈ s.marked <;> by_cases ht : x ∈ t.marked <;>
        simpa [enter, leave, hxd, hother x hxd, hs, ht] using hx
  | error fault t =>
    rw [hr] at hb
    obtain ⟨new, hlog, hnew⟩ := hb
    have hclassify := sameSince_classify (p := p) d fault t
    have hpart (u : WalkState (σ × List (δ × Listing)) δ) (hu : u.memory.2 = t.memory.2) :
        ListedInPart [] s (rollBack p.logged d u) := by
      refine ⟨new, hu.trans hlog, fun x => ?_⟩
      have hx := hnew x
      by_cases hxd : x = d
      · subst hxd
        simpa [enter, hd, about_map_self] using hx
      · simpa [enter, hxd, hother x hxd] using hx
    simp only
    cases hc : classify p.logged d fault t with
    | ok fault u =>
      rw [hc] at hclassify
      exact hpart u hclassify.2
    | error fault u =>
      rw [hc] at hclassify
      exact hpart u hclassify.2

theorem records_type (options : WalkOptions) (depth : Nat) (d : δ) :
    Records [] (type p.logged options depth d) (type p options depth d) := by
  induction depth generalizing d with
  | zero =>
    refine .of_same (fun s => ?_) fun s => ?_
    · by_cases hd : d ∈ s.marked <;> simp [type, unlogged, withoutLog, hd]
    · by_cases hd : d ∈ s.marked <;> simp [type, hd, SameSince]
  | succ depth ih =>
    have hmembers := records_members (p := p) ih options d
    refine ⟨fun s => ?_, fun s _ => ?_⟩
    · have hopened := Mirrors.opened (p := p) hmembers.mirrors d s
      by_cases hd : d ∈ s.marked
      · simp [type, unlogged, withoutLog, hd]
      · simpa [type, unlogged, hd] using hopened
    · by_cases hd : d ∈ s.marked
      · simp only [type, hd, if_true]
        exact .of_append rfl (by simp)
      · simp only [type, hd, if_false]
        exact listedSince_opened hmembers.lists hd

theorem records_root (options : WalkOptions) (depth : Nat) (root : TypeRef δ) :
    Records [] (reference (type p.logged options depth) root)
      (reference (type p options depth) root) :=
  (relatingParts_records (p := p)).reference (records_type options depth) root

end

end Walk

namespace Walker

variable {σ δ α ν : Type} [DecidableEq δ]

open Listing

/-- A walk on a walker succeeds; its marks and the memory of the provider are carried on. -/
inductive Succeeds (p : Provider σ δ α ν) : Walker δ × σ → Walker δ × σ → Prop
  | load {w : Walker δ} {memory : σ} {depth : Nat} {root : TypeRef δ} {r : WalkReport σ δ Unit}
      (hr : r = w.load p depth memory root) (h : r.outcome = .ok ()) :
      Succeeds p (w, memory) ({ w with marked := r.marked }, r.memory)
  | check {w : Walker δ} {memory : σ} {depth : Nat} {root : TypeRef δ}
      {r : WalkReport σ δ (Option Fault)} (hr : r = w.check p depth memory root)
      (h : r.outcome = .ok none) :
      Succeeds p (w, memory) ({ w with marked := r.marked }, r.memory)

theorem Succeeds.exists_load {p : Provider σ δ α ν} {w w' : Walker δ} {memory memory' : σ}
    (h : Succeeds p (w, memory) (w', memory')) :
    ∃ depth root, (w.load p depth memory root).outcome = .ok () ∧
      w'.marked = (w.load p depth memory root).marked ∧
      memory' = (w.load p depth memory root).memory := by
  cases h with
  | @load _ _ depth root r hr h =>
    subst hr
    exact ⟨depth, root, h, rfl, rfl⟩
  | @check _ _ depth root r hr h =>
    subst hr
    exact ⟨depth, root, failure_eq_ok_none.1 h, rfl, rfl⟩

variable (p : Provider σ δ α ν) (w : Walker δ)

theorem load_logged (depth : Nat) (memory : σ) (log : List (δ × Listing)) (root : TypeRef δ) :
    let r := w.load p.logged depth (memory, log) root
    ({ r with memory := r.memory.1 } : WalkReport σ δ Unit) = w.load p depth memory root := by
  have h := (Walk.records_root (p := p) w.options depth root).mirrors
    { marked := w.marked, moves := [], notes := [], calls := [], memory := (memory, log) }
  simp only [load, run]
  simp only [Walk.unlogged] at h
  rw [← h]
  cases Walk.reference (Walk.type p.logged w.options depth) root
    { marked := w.marked, moves := [], notes := [], calls := [], memory := (memory, log) } <;> rfl

/-- What a walk adds to the log. -/
theorem load_lists (depth : Nat) (memory : σ) (log : List (δ × Listing)) (root : TypeRef δ) :
    let r := w.load p.logged depth (memory, log) root
    ∃ new, r.memory.2 = log ++ new ∧ (∀ d, about d new <+: if d ∈ w.marked then [] else all) ∧
      (r.outcome = .ok () → (∀ d ∈ w.marked, d ∈ r.marked) ∧
        ∀ d, about d new = if d ∈ w.marked ∨ d ∉ r.marked then [] else all) := by
  have h := (Walk.records_root (p := p) w.options depth root).lists
    { marked := w.marked, moves := [], notes := [], calls := [], memory := (memory, log) } (by simp)
  intro r
  cases hr : Walk.reference (Walk.type p.logged w.options depth) root
    { marked := w.marked, moves := [], notes := [], calls := [], memory := (memory, log) } with
  | ok _ t =>
    have hload : r = .ofState (.ok ()) t := by simp only [r, load, run, hr]
    rw [hr] at h
    rw [hload]
    obtain ⟨hkeeps, new, hlog, hnew⟩ := h
    simp only [about_nil, List.nil_append] at hnew
    refine ⟨new, hlog, fun d => ?_, fun _ => ⟨hkeeps, hnew⟩⟩
    rw [hnew]
    by_cases hw : d ∈ w.marked
    · simp [hw]
    · by_cases ht : d ∈ t.marked <;> simp [hw, ht]
  | error fault t =>
    have hload : r = .ofState (.error fault) t := by simp only [r, load, run, hr]
    rw [hr] at h
    rw [hload]
    obtain ⟨new, hlog, hnew⟩ := h
    refine ⟨new, hlog, by simpa using hnew, fun ho => ?_⟩
    cases ho

/-- What successful walks have added to the log. Marks are kept, so what later walks ask about is
not marked yet. -/
theorem log_of_run {memory : σ} {now : Walker δ × σ × List (δ × Listing)}
    (h : Relation.ReflTransGen (Succeeds p.logged) (w, memory, []) now) :
    (∀ d ∈ w.marked, d ∈ now.1.marked) ∧
      ∀ d, about d now.2.2 = if d ∈ w.marked ∨ d ∉ now.1.marked then [] else all := by
  induction h with
  | refl => exact ⟨fun _ hd => hd, fun d => by simp [Classical.em]⟩
  | @tail mid last _ hstep ih =>
    obtain ⟨wm, mm, lm⟩ := mid
    obtain ⟨wl, ml, ll⟩ := last
    obtain ⟨hkeeps, hlog⟩ := ih
    obtain ⟨depth, root, ho, hm, hmem⟩ := hstep.exists_load
    obtain ⟨new, hnew, -, hok⟩ := load_lists p wm depth mm lm root
    obtain ⟨hkeeps', hlog'⟩ := hok ho
    have hll : ll = lm ++ new := (congrArg Prod.snd hmem).trans hnew
    rw [← hm] at hkeeps' hlog'
    refine ⟨fun d hd => hkeeps' d (hkeeps d hd), fun d => ?_⟩
    simp only [hll, about_append, hlog', hlog d]
    by_cases hw : d ∈ w.marked
    · simp [hw, hkeeps d hw]
    · by_cases hd : d ∈ wm.marked
      · simp [hw, hd, hkeeps' d hd]
      · simp [hw, hd]

/-- A log of look-ups changes nothing about a walk. Over any successful walks on one walker each
type that gets marked is asked once, in order, for all that it declares, and no other type is; a
single walk, also one that fails, asks each type for a part of that at most, and asks no type that
was marked before. -/
theorem lists_members_once :
    (∀ depth memory log root,
      let r := w.load p.logged depth (memory, log) root
      ({ r with memory := r.memory.1 } : WalkReport σ δ Unit) = w.load p depth memory root) ∧
    (∀ memory w' now, Relation.ReflTransGen (Succeeds p.logged) (w, memory, []) (w', now) →
      ∀ d, about d now.2 = if d ∈ w.marked ∨ d ∉ w'.marked then [] else all) ∧
    ∀ depth memory root d,
      about d (w.load p.logged depth (memory, []) root).memory.2 <+:
        if d ∈ w.marked then [] else all := by
  refine ⟨load_logged p w, fun memory w' now h => ?_, fun depth memory root d => ?_⟩
  · exact (log_of_run p w h).2
  · obtain ⟨new, hnew, hpart, -⟩ := load_lists p w depth memory [] root
    rw [hnew]
    exact hpart d

section

open TypeReach.Graph TypeReach.Graph.Environment

/-- Loading `A` and then checking `B` asks each of `A`, `B` and `X` once. Where `X` is missing, `B`
is asked for all that it declares and `A` for no more than its fields. -/
theorem lists_members_once_finished :
    let p := finished.provider
    let w : Walker Descriptor := {}
    let r := w.load p.logged 4 (.empty, []) (.concrete (.named "A"))
    let w' : Walker Descriptor := { w with marked := r.marked }
    let r' := w'.check p.logged 4 r.memory (.concrete (.named "B"))
    let w'' : Walker Descriptor := { w' with marked := r'.marked }
    Relation.ReflTransGen (Succeeds p.logged) (w, .empty, []) (w'', r'.memory) ∧
      (∀ d, about d r'.memory.2 = if d ∈ w.marked ∨ d ∉ w''.marked then [] else all) ∧
      w''.marked = [.named "X", .named "B", .named "A"] ∧
      ∃ log, log = (w.load unfinished.provider.logged 4 (.empty, [])
          (.concrete (.named "A"))).memory.2 ∧
        (∀ d, about d log <+: if d ∈ w.marked then [] else all) ∧
        about (.named "A") log = [.methods, .constructors, .fields] ∧
        about (.named "B") log = all := by
  intro p w r w' r' w''
  have hload : r.outcome = .ok () := by decide +kernel
  have hcheck : r'.outcome = .ok none := by decide +kernel
  have hrun : Relation.ReflTransGen (Succeeds p.logged) (w, .empty, []) (w'', r'.memory) :=
    .tail (.single (.load rfl hload)) (.check rfl hcheck)
  have honce := (lists_members_once p w).2.1 .empty w'' r'.memory hrun
  refine ⟨hrun, honce, by decide +kernel, _, rfl, ?_, by decide +kernel, by decide +kernel⟩
  exact (lists_members_once unfinished.provider w).2.2 4 .empty (.concrete (.named "A"))

end

end Walker

end TypeReach
