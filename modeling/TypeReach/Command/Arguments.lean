import TypeReach.Text.Digit

/-!
# Arguments of a command line

Arguments are options, which begin with a dash, and positionals. An option may be shortened as long
as it stays the only one that begins so, and may carry its value behind an equals sign. Behind two
dashes all arguments are positionals. Two dashes are never a value themselves: the first of them
among the texts of an option or positional is dropped.
-/

namespace TypeReach.Command

/-- What an option is for: help, a flag, or a value. -/
inductive OptionKind where
  | help
  | flag
  | value
  deriving DecidableEq, Repr

/-- An option: what it is for, and its names with their dashes. -/
structure OptionSpec where
  kind : OptionKind
  names : List String
  deriving Repr

/-- How many arguments a positional takes: one, one or more, or all that is left. -/
inductive Arity where
  | one
  | many
  | rest
  deriving DecidableEq, Repr

/-- What a command line may hold. -/
structure Spec where
  options : List OptionSpec
  positionals : List Arity

/-- Why a command line is not run. -/
inductive ArgumentsError where
  | help
  | usage
  deriving DecidableEq, Repr, Inhabited

/-- An argument, seen by what it may be: a positional, the two dashes, or an option with the name
it is known by and the text it carries. -/
inductive Argument where
  | positional (text : String)
  | dashes
  | option (text : String) (known : Option (OptionSpec × String)) (carried : Option String)

/-- What a command line held: the options in order with the texts given to them, the texts of the
positionals, and what has no place. -/
structure Parsed where
  options : List (String × List String) := []
  positionals : List (List String) := []
  extras : List String := []

namespace Spec

variable (spec : Spec)

/-- The option with a name. -/
def named? (name : String) : Option OptionSpec :=
  spec.options.find? (·.names.contains name)

/-- All names of options, each with its option. -/
def allNames : List (OptionSpec × String) :=
  spec.options.flatMap fun o => o.names.map fun n => (o, n)

/-- The parts of a text in front of and behind its first equals sign. -/
private def cutEquals (cs : List Char) : Option (String × String) :=
  let front := cs.takeWhile (· != '=')
  match cs.drop front.length with
  | [] => none
  | _ :: back => some (String.ofList front, String.ofList back)

/-- The options that an argument may be short for, with the text it carries. -/
private def shortened (text : String) : List ((OptionSpec × String) × Option String) :=
  let cs := text.toList
  if "--".isPrefixOf text then
    let (stem, value) := match cutEquals cs with
      | some (stem, value) => (stem, some value)
      | none => (text, none)
    (spec.allNames.filter fun o => stem.isPrefixOf o.2).map fun o => (o, value)
  else
    let short := String.ofList (cs.take 2)
    spec.allNames.filterMap fun o =>
      if o.2 == short then some (o, some (String.ofList (cs.drop 2)))
      else if text.isPrefixOf o.2 then some (o, none)
      else none

private def isDigit (c : Char) : Bool := (Text.digitValue? c).isSome

/-- Whether a text is a negative number, with or without a point; a line may end behind it. -/
private def isNegativeNumber (cs : List Char) : Bool :=
  match if cs.getLast? == some '\n' then cs.dropLast else cs with
  | '-' :: rest =>
    let whole := rest.takeWhile isDigit
    match rest.drop whole.length with
    | [] => !whole.isEmpty
    | '.' :: digits => !digits.isEmpty && digits.all isDigit
    | _ => false
  | _ => false

/-- What an argument is. -/
def argument (text : String) : Except ArgumentsError Argument :=
  let cs := text.toList
  if cs.head? != some '-' || cs.length == 1 then .ok (.positional text)
  else
    match spec.named? text with
    | some o => .ok (.option text (some (o, text)) none)
    | none =>
      match (cutEquals cs).bind fun e => (spec.named? e.1).map fun o => (o, e) with
      | some (o, name, value) => .ok (.option text (some (o, name)) (some value))
      | none =>
        match spec.shortened text with
        | [(o, value)] => .ok (.option text (some o) value)
        | _ :: _ :: _ => .error .usage
        | [] =>
          if isNegativeNumber cs || cs.contains ' ' then .ok (.positional text)
          else .ok (.option text none none)

/-- What all arguments are. -/
def arguments : List String → Except ArgumentsError (List Argument)
  | [] => .ok []
  | "--" :: rest => .ok (.dashes :: rest.map .positional)
  | text :: rest => do return (← spec.argument text) :: (← arguments rest)

end Spec

namespace Argument

/-- The text of an argument. -/
def text : Argument → String
  | positional t => t
  | dashes => "--"
  | option t _ _ => t

/-- Whether an argument is an option. -/
def isOption : Argument → Bool
  | option .. => true
  | _ => false

/-- Whether an argument is the two dashes. -/
def isDashes : Argument → Bool
  | dashes => true
  | _ => false

/-- The arguments behind the two dashes at the beginning. -/
private def skipDashes : List Argument → List Argument
  | dashes :: rest => skipDashes rest
  | as => as

/-- The texts of a value: the first two dashes among them are dropped. -/
def valueTexts (as : List Argument) : List String :=
  (as.map text).erase "--"

/-- What a positional takes from the front, and the rest. One argument that is two dashes leaves no
text. -/
def take? (arity : Arity) (as : List Argument) : Option (List String × List Argument) :=
  let behind := skipDashes as
  let before := as.take (as.length - behind.length)
  match arity, behind with
  | .one, .positional t :: rest =>
    let more := rest.takeWhile isDashes
    some (valueTexts (before ++ .positional t :: more), rest.drop more.length)
  | .many, .positional t :: rest =>
    let more := rest.takeWhile fun a => !a.isOption
    some (valueTexts (before ++ .positional t :: more), rest.drop more.length)
  | .rest, .positional _ :: _ => some (as.map text, [])
  | _, _ => none

/-- What the next positionals take from the front, as many of them as can. -/
def takeAll : List Arity → List Argument → List (List String) × List Arity × List Argument
  | [], as => ([], [], as)
  | arity :: arities, as =>
    match take? arity as with
    | none => ([], arity :: arities, as)
    | some (texts, rest) =>
      let (more, left, rest) := takeAll arities rest
      (texts :: more, left, rest)

end Argument

namespace Spec

/-- The options that an option with the text it carries stands for, each with the texts given to it,
and the arguments behind them. The letter of an option without value may be followed by the letters
of others. -/
private def readLetters (spec : Spec) : (size : Nat) → OptionSpec × String → Option String →
    List Argument → Except ArgumentsError (List (OptionSpec × List String) × List Argument)
  | 0, _, _, _ => .error .usage
  | size + 1, (o, name), carried, rest =>
    match o.kind, carried with
    | .value, some value => .ok ([(o, Argument.valueTexts [.positional value])], rest)
    | .value, none =>
      match rest with
      | .positional value :: rest => .ok ([(o, Argument.valueTexts [.positional value])], rest)
      | _ => .error .usage
    | _, none => .ok ([(o, [])], rest)
    | _, some letters =>
      match letters.toList with
      | [] => .error .usage
      | c :: more =>
        let next := String.ofList ['-', c]
        match if "--".isPrefixOf name then none else spec.named? next with
        | none => .error .usage
        | some other => do
          let carried := if more.isEmpty then none else some (String.ofList more)
          let (options, rest) ← spec.readLetters size (other, next) carried rest
          return ((o, []) :: options, rest)

/-- Reads arguments: positionals up to the next option, and then that option. A call for help ends
the reading. -/
private def readFrom (spec : Spec) : (size : Nat) → List Arity → List Argument → Parsed →
    Except ArgumentsError Parsed
  | 0, _, _, _ => .error .usage
  | size + 1, arities, as, parsed =>
    match as with
    | .option text known carried :: rest =>
      match known with
      | none => spec.readFrom size arities rest { parsed with extras := parsed.extras ++ [text] }
      | some o => do
        let (options, rest) ← spec.readLetters (text.length + 1) o carried rest
        if options.any (·.1.kind == .help) then throw .help
        else
          let given := options.map fun g => (g.1.names.getLastD "", g.2)
          spec.readFrom size arities rest { parsed with options := parsed.options ++ given }
    | as =>
      let (texts, left, rest) := Argument.takeAll arities as
      let parsed := { parsed with positionals := parsed.positionals ++ texts }
      if rest.any Argument.isOption then
        let behind := rest.dropWhile fun a => !a.isOption
        let extras :=
          if texts.isEmpty then (rest.takeWhile fun a => !a.isOption).map (·.text) else []
        let rest := if texts.isEmpty then behind else rest
        spec.readFrom size left rest { parsed with extras := parsed.extras ++ extras }
      else if left.isEmpty then
        .ok { parsed with extras := parsed.extras ++ rest.map (·.text) }
      else .error .usage

/-- What a command line holds; every positional must be there. -/
def parse (spec : Spec) (texts : List String) : Except ArgumentsError Parsed := do
  let as ← spec.arguments texts
  spec.readFrom (2 * as.length + 2) spec.positionals as {}

/-- A text that is a positional wherever it stands. -/
def TakesAsPositional (spec : Spec) (text : String) : Prop :=
  text ≠ "--" ∧ spec.argument text = .ok (.positional text)

variable {spec : Spec} {text : String} {texts : List String}

theorem takesAsPositional_of_head? (h : text.toList.head? ≠ some '-') :
    spec.TakesAsPositional text := by
  refine ⟨?_, by simp [argument, h]⟩
  rintro rfl
  exact h rfl

theorem arguments_of_positionals (h : ∀ text ∈ texts, spec.TakesAsPositional text) :
    spec.arguments texts = .ok (texts.map .positional) := by
  induction texts with
  | nil => rfl
  | cons text texts ih =>
    obtain ⟨⟨hdashes, hargument⟩, hrest⟩ := List.forall_mem_cons.1 h
    rw [arguments, hargument, ih hrest]
    · rfl
    · exact hdashes

/-- Where the only positional takes more than one text, texts that are positionals go to it. -/
theorem parse_of_positionals {arity : Arity} (harity : arity ≠ .one)
    (hspec : spec.positionals = [arity])
    (h : ∀ x ∈ text :: texts, spec.TakesAsPositional x) :
    spec.parse (text :: texts) = .ok { positionals := [text :: texts] } := by
  have listed : (texts.map Argument.positional).map Argument.text = texts := by
    simp [Function.comp_def, Argument.text]
  have free : "--" ∉ text :: texts := fun hmem => (h _ hmem).1 rfl
  have taken : Argument.take? arity (.positional text :: texts.map .positional) =
      some (text :: texts, []) := by
    have all : (texts.map Argument.positional).takeWhile (fun a => !a.isOption) =
        texts.map .positional := by
      have isPositional : ∀ a ∈ texts.map Argument.positional, (!a.isOption) = true := by
        simp [Argument.isOption]
      simpa using @List.takeWhile_append_of_pos _ _ _ [] isPositional
    cases arity with
    | one => exact absurd rfl harity
    | many =>
      simp [Argument.take?, Argument.skipDashes, Argument.valueTexts, all, listed, Argument.text,
        List.erase_of_not_mem free]
    | rest => simp [Argument.take?, Argument.skipDashes, listed, Argument.text]
  rw [parse, arguments_of_positionals h, hspec]
  simp [readFrom, Argument.takeAll, taken, bind, Except.bind]

end Spec

end TypeReach.Command
