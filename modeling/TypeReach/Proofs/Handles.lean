import TypeReach.Graph.Environment
import TypeReach.Proofs.GraphAnswers

/-!
# Handles

A handle is an object of its own: it is made when its name is first asked for, and kept from then
on. An expression is read with a handle for each name, as the names are read; what is made so is
kept also if the expression does not parse. Reading it again later gives the same handles and makes
none.
-/

namespace TypeReach

/-- A result with a state to go on from. -/
def resultAt {ε α τ : Type} (r : Except ε α) (t : τ) : EStateM.Result ε τ α :=
  match r with
  | .ok a => .ok a t
  | .error fault => .error fault t

@[simp] theorem resultAt_ok {ε α τ : Type} (a : α) (t : τ) :
    resultAt (.ok a : Except ε α) t = .ok a t := rfl

@[simp] theorem resultAt_error {ε α τ : Type} (fault : ε) (t : τ) :
    resultAt (.error fault : Except ε α) t = .error fault t := rfl

theorem Table.size_put_of_new {β : Type} {t : Table β} {name : String} (h : t.get? name = none)
    (value : β) : (t.put name value).size = t.size + 1 := by
  have hnew : name ∉ t.entries.map Prod.fst := (t.get?_eq_none_iff name).1 h
  have hlength := congrArg List.length (Table.map_fst_putIn name value t.entries)
  rw [if_neg hnew] at hlength
  simpa [Table.size, Table.put] using hlength

namespace Expression

section

variable {σ δ : Type} (resolve : String → EStateM ParseError σ δ)

mutual

/-- Reads one type from the front, as `parseType` does; each name is resolved as it is read. -/
def resolveType : (fuel : Nat) → List Token → EStateM ParseError σ (TypeRef δ × List Token)
  | 0, _ => throw .ended
  | _ + 1, [] => throw .ended
  | fuel + 1, .question :: .name "extends" :: rest => do
    let (bounds, rest) ← resolveSeparated .ampersand fuel rest
    return (.wildcard [] bounds, rest)
  | fuel + 1, .question :: .name "super" :: rest => do
    let (bounds, rest) ← resolveSeparated .ampersand fuel rest
    return (.wildcard bounds [], rest)
  | _ + 1, .question :: rest => return (.wildcard [] [], rest)
  | fuel + 1, .name owner :: .less :: rest => do
    let owner ← resolve owner
    let (args, rest) ← resolveSeparated .comma fuel rest
    match rest with
    | [] => throw .ended
    | .greater :: rest => return arrays (.parameterized (.concrete owner) args) rest
    | _ :: _ => throw .unclosed
  | _ + 1, .name owner :: rest => do
    let owner ← resolve owner
    return arrays (.concrete owner) rest
  | _ + 1, token :: _ => throw (.expectedName token)

/-- Reads one or more types with a separator between them. -/
def resolveSeparated (separator : Token) :
    (fuel : Nat) → List Token → EStateM ParseError σ (List (TypeRef δ) × List Token)
  | 0, _ => throw .ended
  | fuel + 1, tokens => do
    let (first, rest) ← resolveType fuel tokens
    match rest with
    | [] => return ([first], [])
    | token :: rest =>
      if token = separator then
        let (others, rest) ← resolveSeparated separator fuel rest
        return (first :: others, rest)
      else return ([first], token :: rest)

end

/-- Reads tokens that are one type and nothing else. -/
def resolveTokens (tokens : List Token) : EStateM ParseError σ (TypeRef δ) := do
  let (reference, rest) ← resolveType resolve (2 * tokens.length + 2) tokens
  if rest.isEmpty then return reference else throw .trailing

/-- The reference that an expression stands for. Names are resolved only once all tokens are
found. -/
def resolveWith (source : String) : EStateM ParseError σ (TypeRef δ) :=
  match tokens source with
  | .ok tokens => resolveTokens resolve tokens
  | .error why => throw why

end

end Expression

namespace Graph

/-- A handle: which object it is, and its name. -/
structure Handle where
  number : Nat
  name : String
  deriving DecidableEq, Repr

/-- The handles that were made so far, each under its name. -/
abbrev Handles := Table Handle

/-- What stands for a type: a handle of an environment, a handle made elsewhere, or some other
value. -/
inductive Entity where
  | made (h : Handle)
  | foreign (name : String) (id : Int)
  | plain (value : Plain)
  deriving DecidableEq, Inhabited

namespace Entity

/-- What stands for a type, with the handles of an environment known by their names alone. -/
def descriptor : Entity → Descriptor
  | made h => .named h.name
  | foreign name id => .foreign name id
  | plain value => .plain value

end Entity

namespace Handles

/-- The handle of a name. It is made if there is none yet. -/
def handle {ε : Type} (name : String) : EStateM ε Handles Handle := fun t =>
  match t.get? name with
  | some h => .ok h t
  | none => .ok ⟨t.size, name⟩ (t.put name ⟨t.size, name⟩)

/-- Each handle has the name that it is stored under, and no two are the same object. -/
structure WellFormed (t : Handles) : Prop where
  named : ∀ {name h}, t.get? name = some h → h.name = name
  numbered : ∀ {name h}, t.get? name = some h → h.number < t.size
  distinct : ∀ {name name' h h'}, t.get? name = some h → t.get? name' = some h' →
    h.number = h'.number → name = name'

theorem wellFormed_empty : WellFormed .empty := by
  constructor <;> simp

/-- All handles are kept. -/
def KeptIn (t t' : Handles) : Prop :=
  ∀ name h, t.get? name = some h → t'.get? name = some h

theorem KeptIn.refl (t : Handles) : KeptIn t t :=
  fun _ _ h => h

theorem KeptIn.trans {t t' t'' : Handles} (h : KeptIn t t') (h' : KeptIn t' t'') : KeptIn t t'' :=
  fun name x hx => h' name x (h name x hx)

theorem WellFormed.put {t : Handles} (wf : WellFormed t) {name : String} (h : t.get? name = none) :
    WellFormed (t.put name ⟨t.size, name⟩) := by
  have hsize := Table.size_put_of_new h (⟨t.size, name⟩ : Handle)
  constructor
  · intro other x hx
    rw [Table.get?_put] at hx
    split at hx
    · next heq =>
      cases hx
      exact heq.symm
    · exact wf.named hx
  · intro other x hx
    rw [hsize]
    rw [Table.get?_put] at hx
    split at hx
    · cases hx
      exact Nat.lt_succ_self _
    · exact Nat.lt_succ_of_lt (wf.numbered hx)
  · intro n n' x x' hx hx' hnumber
    rw [Table.get?_put] at hx hx'
    -- A handle that was there has a smaller number than the new one.
    split at hx <;> split at hx'
    · next heq heq' => exact heq.trans heq'.symm
    · cases hx
      exact absurd (wf.numbered hx') (by simp [← hnumber])
    · cases hx'
      exact absurd (wf.numbered hx) (by simp [hnumber])
    · exact wf.distinct hx hx' hnumber

theorem keptIn_put {t : Handles} {name : String} (h : t.get? name = none) (x : Handle) :
    KeptIn t (t.put name x) := by
  intro other y hy
  have hne : other ≠ name := by
    rintro rfl
    cases hy.symm.trans h
  simpa [hne] using hy

end Handles

/-- A step that makes handles has an answer that is known up to the objects that they are, keeps the
handles there are, and once done gives the same and makes none. -/
def Resolves {ε α β : Type} (φ : α → β) (m : EStateM ε Handles α) (answer : Except ε β) : Prop :=
  ∀ t : Handles, t.WellFormed → ∃ r t₁, m t = resultAt r t₁ ∧ t₁.WellFormed ∧ t.KeptIn t₁ ∧
    (∀ t', t₁.KeptIn t' → m t' = resultAt r t') ∧ r.map φ = answer

namespace Resolves

variable {ε α β γ κ : Type} {φ : α → β} {ψ : γ → κ}

theorem pure (a : α) : Resolves φ (Pure.pure a : EStateM ε Handles α) (.ok (φ a)) :=
  fun t wf => ⟨.ok a, t, rfl, wf, .refl t, fun _ _ => rfl, rfl⟩

theorem throw (fault : ε) :
    Resolves φ (MonadExcept.throw fault : EStateM ε Handles α) (.error fault) :=
  fun t wf => ⟨.error fault, t, rfl, wf, .refl t, fun _ _ => rfl, rfl⟩

section

variable {m : EStateM ε Handles α} {f : α → EStateM ε Handles γ}

theorem bindOf {answer : Except ε β} {next : β → Except ε κ} (h : Resolves φ m answer)
    (hf : ∀ a, answer = .ok (φ a) → Resolves ψ (f a) (next (φ a))) :
    Resolves ψ (m >>= f) (answer >>= next) := by
  intro t wf
  obtain ⟨r, t₁, hm, wf₁, hkept, hagain, hr⟩ := h t wf
  cases r with
  | error fault =>
    subst hr
    refine ⟨.error fault, t₁, ?_, wf₁, hkept, fun t' ht' => ?_, rfl⟩
    · simp [Bind.bind, EStateM.bind, hm]
    · simp [Bind.bind, EStateM.bind, hagain t' ht']
  | ok a =>
    obtain ⟨r', t₂, hf', wf₂, hkept', hagain', hr'⟩ := hf a hr.symm t₁ wf₁
    subst hr
    refine ⟨r', t₂, ?_, wf₂, hkept.trans hkept', fun t' ht' => ?_, hr'⟩
    · simp [Bind.bind, EStateM.bind, hm, hf']
    -- What was kept behind both steps was kept behind the first.
    · simp [Bind.bind, EStateM.bind, hagain t' (hkept'.trans ht'), hagain' t' ht']

theorem bind {answer : Except ε β} {next : β → Except ε κ} (h : Resolves φ m answer)
    (hf : ∀ a, Resolves ψ (f a) (next (φ a))) : Resolves ψ (m >>= f) (answer >>= next) :=
  h.bindOf fun a _ => hf a

/-- A step with a known result does not show in what comes behind it. -/
theorem bindOk {b : β} {answer : Except ε κ} (h : Resolves φ m (.ok b))
    (hf : ∀ a, φ a = b → Resolves ψ (f a) answer) : Resolves ψ (m >>= f) answer := by
  have hnext : Resolves ψ (m >>= f) (Except.ok b >>= fun _ => answer) :=
    h.bindOf fun a ha => hf a (Except.ok.inj ha).symm
  exact hnext

end

theorem handle (name : String) :
    Resolves Handle.name (Handles.handle name : EStateM ε Handles Handle) (.ok name) := by
  intro t wf
  cases h : t.get? name with
  | some x =>
    refine ⟨.ok x, t, by simp [Handles.handle, h], wf, .refl t, fun t' ht' => ?_, ?_⟩
    · simp [Handles.handle, ht' name x h]
    · simp [Except.map, wf.named h]
  | none =>
    refine ⟨.ok ⟨t.size, name⟩, t.put name ⟨t.size, name⟩, by simp [Handles.handle, h], wf.put h,
      Handles.keptIn_put h _, fun t' ht' => ?_, rfl⟩
    have hthere : t'.get? name = some ⟨t.size, name⟩ := ht' _ _ (by simp)
    simp [Handles.handle, hthere]

end Resolves

/-- The entity of a name as it is read. -/
def entityOf {ε : Type} (name : String) : EStateM ε Handles Entity := do
  return .made (← Handles.handle name)

theorem resolves_entityOf {ε : Type} (name : String) :
    Resolves Entity.descriptor (entityOf name : EStateM ε Handles Entity) (.ok (.named name)) :=
  (Resolves.handle name).bindOk fun h hname => hname ▸ .pure (Entity.made h)

open Expression

/-- Names are read as handles just as they are read as names. -/
theorem resolves_type :
    (∀ fuel tokens, Resolves (fun p => (p.1.map Entity.descriptor, p.2))
      (resolveType entityOf fuel tokens) (parseType Descriptor.named fuel tokens)) ∧
    ∀ separator fuel tokens, Resolves (fun p => (TypeRef.mapList Entity.descriptor p.1, p.2))
      (resolveSeparated entityOf separator fuel tokens)
      (parseSeparated Descriptor.named separator fuel tokens) := by
  refine parseType.mutual_induct
    (fun fuel tokens => Resolves (fun p => (p.1.map Entity.descriptor, p.2))
      (resolveType entityOf fuel tokens) (parseType Descriptor.named fuel tokens))
    (fun separator fuel tokens => Resolves (fun p => (TypeRef.mapList Entity.descriptor p.1, p.2))
      (resolveSeparated entityOf separator fuel tokens)
      (parseSeparated Descriptor.named separator fuel tokens))
    ?ended ?empty ?upper ?lower ?question ?arguments ?name ?other ?endedRow ?row
  case ended =>
    intro tokens
    rw [resolveType, parseType]
    exact .throw _
  case empty =>
    intro fuel
    rw [resolveType, parseType]
    exact .throw _
  case upper =>
    intro fuel tokens ih
    rw [resolveType, parseType]
    exact ih.bind fun p => .pure _
  case lower =>
    intro fuel tokens ih
    rw [resolveType, parseType]
    exact ih.bind fun p => .pure _
  case question =>
    intro fuel tokens hextends hsuper
    rw [resolveType, parseType]
    · exact .pure _
    all_goals assumption
  case arguments =>
    intro fuel owner tokens ih
    rw [resolveType, parseType]
    refine (resolves_entityOf owner).bindOk fun x hx => ih.bind fun p => ?_
    obtain ⟨args, rest⟩ := p
    cases rest with
    | nil => exact .throw _
    | cons token rest =>
      cases token with
      | greater =>
        have harrays := arrays_map Entity.descriptor (.parameterized (.concrete x) args) rest
        simp only [TypeRef.map, hx] at harrays
        simp only [harrays]
        exact .pure _
      | _ => exact .throw _
  case name =>
    intro fuel owner tokens hless
    rw [resolveType, parseType]
    · refine (resolves_entityOf owner).bindOk fun x hx => ?_
      have harrays := arrays_map Entity.descriptor (.concrete x) tokens
      simp only [TypeRef.map, hx] at harrays
      simp only [harrays]
      exact .pure _
    all_goals assumption
  case other =>
    intro fuel token tail hextends hsuper hquestion hless hname
    rw [resolveType, parseType]
    · exact .throw _
    all_goals assumption
  case endedRow =>
    intro separator tokens
    rw [resolveSeparated, parseSeparated]
    exact .throw _
  case row =>
    intro separator fuel tokens ihFirst ihOthers
    rw [resolveSeparated, parseSeparated]
    refine ihFirst.bind fun p => ?_
    obtain ⟨first, rest⟩ := p
    cases rest with
    | nil => exact .pure _
    | cons token rest =>
      by_cases htoken : token = separator
      · simp only [htoken, if_true]
        exact (ihOthers rest).bind fun _ => .pure _
      · simp only [htoken, if_false]
        exact .pure _

theorem resolves_with (source : String) :
    Resolves (TypeRef.map Entity.descriptor) (resolveWith entityOf source)
      (parseWith Descriptor.named source) := by
  simp only [resolveWith, parseWith]
  cases tokens source with
  | error why => exact .throw why
  | ok tokens =>
    refine (resolves_type.1 _ _).bind fun p => ?_
    by_cases hrest : p.2.isEmpty
    · simp only [hrest, if_true]
      exact .pure p.1
    · simp only [hrest]
      exact .throw _

end Graph

end TypeReach
