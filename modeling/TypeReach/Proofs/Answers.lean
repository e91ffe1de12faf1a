import TypeReach.Provider

/-!
# Answers of a provider

A provider may remember what it has looked up. It is steady if its memory never shows: as long as
the memory is in order, every question has one answer, and asking keeps the memory in order.
-/

namespace TypeReach

section

variable {ε β γ : Type}

theorem exists_of_bind_eq_ok {a : Except ε β} {f : β → Except ε γ} {c : γ}
    (h : a >>= f = .ok c) : ∃ b, a = .ok b ∧ f b = .ok c := by
  cases a with
  | error fault => cases h
  | ok b => exact ⟨b, rfl, h⟩

/-- What comes out of a list of steps came out of one of them. -/
theorem exists_of_mem_mapM {f : β → Except ε γ} {bs : List β} {cs : List γ}
    (h : bs.mapM f = .ok cs) {c : γ} (hc : c ∈ cs) : ∃ b ∈ bs, f b = .ok c := by
  induction bs generalizing cs with
  | nil => cases h; simp at hc
  | cons b bs ih =>
    rw [List.mapM_cons] at h
    obtain ⟨x, hb, h⟩ := exists_of_bind_eq_ok h
    obtain ⟨xs, hbs, h⟩ := exists_of_bind_eq_ok h
    cases h
    rcases List.mem_cons.1 hc with rfl | hc
    · exact ⟨b, by simp, hb⟩
    · obtain ⟨y, hy, hf⟩ := ih hbs hc
      exact ⟨y, List.mem_cons_of_mem b hy, hf⟩

theorem mapM_eq_ok_of_forall {f g : β → Except ε γ}
    (h : ∀ b c, f b = .ok c → g b = .ok c) {bs : List β} {cs : List γ}
    (hf : bs.mapM f = .ok cs) : bs.mapM g = .ok cs := by
  induction bs generalizing cs with
  | nil => exact hf
  | cons b bs ih =>
    rw [List.mapM_cons] at hf ⊢
    obtain ⟨c, hc, hf⟩ := exists_of_bind_eq_ok hf
    obtain ⟨cs', hcs, hf⟩ := exists_of_bind_eq_ok hf
    rw [h b c hc, ih hcs]
    exact hf

/-- Steps that all succeed give their results in order. -/
theorem mapM_eq_ok_map {f : β → Except ε γ} {g : β → γ} {bs : List β}
    (h : ∀ b ∈ bs, f b = .ok (g b)) : bs.mapM f = .ok (bs.map g) := by
  induction bs with
  | nil => rfl
  | cons b bs ih =>
    obtain ⟨hb, hbs⟩ := List.forall_mem_cons.1 h
    rw [List.mapM_cons, hb, ih hbs]
    rfl

theorem bind_eq_error_iff {a : Except ε β} {f : β → Except ε γ} {fault : ε} :
    (a >>= f) = .error fault ↔ a = .error fault ∨ ∃ b, a = .ok b ∧ f b = .error fault := by
  cases a <;> simp [Bind.bind, Except.bind]

/-- Steps for items fail with the first item whose step fails. -/
theorem mapM_eq_error_iff {f : β → Except ε γ} {bs : List β} {fault : ε} :
    bs.mapM f = .error fault ↔ ∃ before b after, bs = before ++ b :: after ∧
      (∀ x ∈ before, ∃ c, f x = .ok c) ∧ f b = .error fault := by
  induction bs with
  | nil =>
    constructor
    · rintro ⟨⟩
    · rintro ⟨before, b, after, h, -⟩
      simp at h
  | cons b bs ih =>
    rw [List.mapM_cons, bind_eq_error_iff]
    constructor
    · rintro (hb | ⟨c, hc, h⟩)
      · exact ⟨[], b, bs, rfl, by simp, hb⟩
      · obtain h | ⟨_, -, ⟨⟩⟩ := bind_eq_error_iff.1 h
        obtain ⟨before, b', after, rfl, hok, herror⟩ := ih.1 h
        exact ⟨b :: before, b', after, rfl, List.forall_mem_cons.2 ⟨⟨c, hc⟩, hok⟩, herror⟩
    · rintro ⟨_ | ⟨b', before⟩, b'', after, h, hok, herror⟩
      · cases h
        exact .inl herror
      · cases h
        obtain ⟨⟨c, hc⟩, hok⟩ := List.forall_mem_cons.1 hok
        exact .inr ⟨c, hc, bind_eq_error_iff.2 (.inl (ih.2 ⟨before, b'', after, rfl, hok, herror⟩))⟩

theorem exists_of_mapM_eq_error {f : β → Except ε γ} {bs : List β} {fault : ε}
    (h : bs.mapM f = .error fault) : ∃ b ∈ bs, f b = .error fault := by
  obtain ⟨before, b, after, rfl, -, hb⟩ := mapM_eq_error_iff.1 h
  exact ⟨b, by simp, hb⟩

theorem exists_mapM_eq_ok_iff {f : β → Except ε γ} {bs : List β} :
    (∃ cs, bs.mapM f = .ok cs) ↔ ∀ b ∈ bs, ∃ c, f b = .ok c := by
  induction bs with
  | nil => simp [pure, Except.pure]
  | cons b bs ih =>
    rw [List.forall_mem_cons, ← ih, List.mapM_cons]
    cases f b with
    | error fault => simp [Bind.bind, Except.bind]
    | ok c => cases bs.mapM f <;> simp [Bind.bind, Except.bind, pure, Except.pure]

end

namespace Lookup

variable {σ β γ : Type}

/-- The answer to a look-up, given what the provider remembers. -/
def answer (look : Lookup σ β) (memory : σ) : Except Fault β :=
  match look memory with
  | .ok b _ => .ok b
  | .error fault _ => .error fault

/-- What the provider remembers after a look-up. -/
def after (look : Lookup σ β) (memory : σ) : σ :=
  match look memory with
  | .ok _ memory => memory
  | .error _ memory => memory

/-- A look-up with one answer for all memories in order, which it keeps in order. -/
structure Steady (inOrder : σ → Prop) (look : Lookup σ β) : Prop where
  answer_eq : ∀ {m m'}, inOrder m → inOrder m' → look.answer m = look.answer m'
  after : ∀ {m}, inOrder m → inOrder (look.after m)

/-- A look-up whose answer is known for all memories in order, which it keeps in order. -/
structure Gives (inOrder : σ → Prop) (look : Lookup σ β) (answer : Except Fault β) : Prop where
  answer_eq : ∀ {m}, inOrder m → look.answer m = answer
  after : ∀ {m}, inOrder m → inOrder (look.after m)

variable {inOrder : σ → Prop} {look : Lookup σ β} {next : β → Lookup σ γ}

theorem answer_bind (look : Lookup σ β) (next : β → Lookup σ γ) (m : σ) :
    answer (look >>= next) m = look.answer m >>= fun b => (next b).answer (look.after m) := by
  simp only [answer, after, bind, EStateM.bind, Except.bind]
  cases look m <;> rfl

theorem after_bind (look : Lookup σ β) (next : β → Lookup σ γ) (m : σ) :
    after (look >>= next) m = match look.answer m with
      | .ok b => (next b).after (look.after m)
      | .error _ => look.after m := by
  simp only [answer, after, bind, EStateM.bind]
  cases look m <;> rfl

theorem Steady.pure (b : β) : Steady inOrder (Pure.pure b : Lookup σ β) where
  answer_eq _ _ := rfl
  after h := h

namespace Gives

theorem steady {answer : Except Fault β} (h : Gives inOrder look answer) : Steady inOrder look where
  answer_eq hm hm' := (h.answer_eq hm).trans (h.answer_eq hm').symm
  after := h.after

theorem pure (b : β) : Gives inOrder (Pure.pure b : Lookup σ β) (.ok b) where
  answer_eq _ := rfl
  after h := h

theorem throw (fault : Fault) :
    Gives inOrder (MonadExcept.throw fault : Lookup σ β) (.error fault) where
  answer_eq _ := rfl
  after h := h

theorem bind {answer : Except Fault β} {onward : β → Except Fault γ}
    (h : Gives inOrder look answer) (hn : ∀ b, Gives inOrder (next b) (onward b)) :
    Gives inOrder (look >>= next) (answer >>= onward) where
  answer_eq {m} hm := by
    rw [answer_bind, h.answer_eq hm]
    cases answer with
    | error fault => rfl
    | ok b => exact (hn b).answer_eq (h.after hm)
  after {m} hm := by
    rw [after_bind]
    cases look.answer m with
    | error fault => exact h.after hm
    | ok b => exact (hn b).after (h.after hm)

theorem mapM {f : β → Lookup σ γ} {g : β → Except Fault γ} (h : ∀ b, Gives inOrder (f b) (g b))
    (bs : List β) : Gives inOrder (bs.mapM f) (bs.mapM g) := by
  induction bs with
  | nil => exact pure []
  | cons b bs ih =>
    rw [List.mapM_cons, List.mapM_cons]
    exact (h b).bind fun c => ih.bind fun cs => pure (c :: cs)

end Gives

end Lookup

/-- What a provider says about types and annotations. -/
structure Answers (δ α ν : Type) where
  methods : δ → Except Fault (List (Method δ α))
  constructors : δ → Except Fault (List (Constructor δ α))
  fields : δ → Except Fault (List (Field δ α))
  supertype : δ → Except Fault (TypeRef δ)
  interfaces : δ → Except Fault (List (TypeRef δ))
  annotations : δ → Except Fault (List (AnnotationUse δ α))
  packageAnnotations : δ → Except Fault (Option (List (AnnotationUse δ α)))
  accessors : AnnotationUse δ α → Except Fault (List String)
  invoke : AnnotationUse δ α → String → Except Fault ν
  naming : δ → Except Fault String

namespace Provider

variable {σ δ α ν : Type}

/-- The answers of a provider, given what it remembers. -/
def answers (p : Provider σ δ α ν) (memory : σ) : Answers δ α ν where
  methods d := (p.methods d).answer memory
  constructors d := (p.constructors d).answer memory
  fields d := (p.fields d).answer memory
  supertype d := (p.supertype d).answer memory
  interfaces d := (p.interfaces d).answer memory
  annotations d := (p.annotations d).answer memory
  packageAnnotations d := (p.packageAnnotations d).answer memory
  accessors a := (p.accessors a).answer memory
  invoke a accessor := (p.invoke a accessor).answer memory
  naming d := (p.naming d).answer memory

/-- A provider whose answers depend on nothing but the question, while its memory is in order. -/
structure Steady (p : Provider σ δ α ν) (inOrder : σ → Prop) : Prop where
  methods : ∀ d, (p.methods d).Steady inOrder
  constructors : ∀ d, (p.constructors d).Steady inOrder
  fields : ∀ d, (p.fields d).Steady inOrder
  supertype : ∀ d, (p.supertype d).Steady inOrder
  interfaces : ∀ d, (p.interfaces d).Steady inOrder
  annotations : ∀ d, (p.annotations d).Steady inOrder
  packageAnnotations : ∀ d, (p.packageAnnotations d).Steady inOrder
  accessors : ∀ a, (p.accessors a).Steady inOrder
  invoke : ∀ a accessor, (p.invoke a accessor).Steady inOrder
  naming : ∀ d, (p.naming d).Steady inOrder

theorem Steady.answers_eq {p : Provider σ δ α ν} {inOrder : σ → Prop} (h : p.Steady inOrder)
    {m m' : σ} (hm : inOrder m) (hm' : inOrder m') : p.answers m = p.answers m' := by
  simp only [answers, Answers.mk.injEq]
  exact ⟨funext fun d => (h.methods d).answer_eq hm hm',
    funext fun d => (h.constructors d).answer_eq hm hm',
    funext fun d => (h.fields d).answer_eq hm hm',
    funext fun d => (h.supertype d).answer_eq hm hm',
    funext fun d => (h.interfaces d).answer_eq hm hm',
    funext fun d => (h.annotations d).answer_eq hm hm',
    funext fun d => (h.packageAnnotations d).answer_eq hm hm',
    funext fun use => (h.accessors use).answer_eq hm hm',
    funext fun use => funext fun accessor => (h.invoke use accessor).answer_eq hm hm',
    funext fun d => (h.naming d).answer_eq hm hm'⟩

/-- A provider whose answers are known, while its memory is in order. -/
structure Gives (p : Provider σ δ α ν) (inOrder : σ → Prop) (a : Answers δ α ν) : Prop where
  methods : ∀ d, (p.methods d).Gives inOrder (a.methods d)
  constructors : ∀ d, (p.constructors d).Gives inOrder (a.constructors d)
  fields : ∀ d, (p.fields d).Gives inOrder (a.fields d)
  supertype : ∀ d, (p.supertype d).Gives inOrder (a.supertype d)
  interfaces : ∀ d, (p.interfaces d).Gives inOrder (a.interfaces d)
  annotations : ∀ d, (p.annotations d).Gives inOrder (a.annotations d)
  packageAnnotations : ∀ d, (p.packageAnnotations d).Gives inOrder (a.packageAnnotations d)
  accessors : ∀ use, (p.accessors use).Gives inOrder (a.accessors use)
  invoke : ∀ use accessor, (p.invoke use accessor).Gives inOrder (a.invoke use accessor)
  naming : ∀ d, (p.naming d).Gives inOrder (a.naming d)

namespace Gives

variable {p : Provider σ δ α ν} {inOrder : σ → Prop} {a : Answers δ α ν}

theorem steady (h : p.Gives inOrder a) : p.Steady inOrder where
  methods d := (h.methods d).steady
  constructors d := (h.constructors d).steady
  fields d := (h.fields d).steady
  supertype d := (h.supertype d).steady
  interfaces d := (h.interfaces d).steady
  annotations d := (h.annotations d).steady
  packageAnnotations d := (h.packageAnnotations d).steady
  accessors use := (h.accessors use).steady
  invoke use accessor := (h.invoke use accessor).steady
  naming d := (h.naming d).steady

theorem answers_eq (h : p.Gives inOrder a) {m : σ} (hm : inOrder m) : p.answers m = a := by
  cases a
  simp only [answers, Answers.mk.injEq]
  exact ⟨funext fun d => (h.methods d).answer_eq hm,
    funext fun d => (h.constructors d).answer_eq hm,
    funext fun d => (h.fields d).answer_eq hm,
    funext fun d => (h.supertype d).answer_eq hm,
    funext fun d => (h.interfaces d).answer_eq hm,
    funext fun d => (h.annotations d).answer_eq hm,
    funext fun d => (h.packageAnnotations d).answer_eq hm,
    funext fun use => (h.accessors use).answer_eq hm,
    funext fun use => funext fun accessor => (h.invoke use accessor).answer_eq hm,
    funext fun d => (h.naming d).answer_eq hm⟩

end Gives

end Provider

end TypeReach
