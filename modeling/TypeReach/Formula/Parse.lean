import TypeReach.Formula.Lexeme

/-!
# Reading formulas

    Formula    ::= Or ['if' Or 'else' Formula] | 'lambda' Parameters ':' Formula
    Or         ::= And ('or' And)*
    And        ::= Not ('and' Not)*
    Not        ::= 'not' Not | Comparison
    Comparison ::= Either (comparison Either)*
    Either     ::= the binary operators, from `|` down to `*`, over Signed
    Signed     ::= ('+' | '-' | '~') Signed | Primary ['**' Signed]
    Primary    ::= Atom ('.' name | '(' Arguments ')' | '[' Items ']')*

A text is one formula or several with commas between them. Only whether a text is a formula matters,
not why it is none, so that a reader gives nothing for any other text. What a loop or a function
without a name does is not kept.
-/

namespace TypeReach

open Formula (Lexeme Operator Comparison Constant LoopKind TextMarks isSpace lexemes? resolved?)

/-- The arguments of a call: by their places, and by names. No name is in front of a value that
gives some itself. -/
structure Arguments where
  placed : List Formula := []
  named : List (Option String × Formula) := []

/-- Arguments behind one that is given by its place. -/
def Arguments.withPlaced (a : Arguments) (f : Formula) : Arguments :=
  { a with placed := f :: a.placed }

/-- Arguments behind one that is given by a name. -/
def Arguments.withNamed (a : Arguments) (name : Option String) (f : Formula) : Arguments :=
  { a with named := (name, f) :: a.named }

/-- A step of reading a formula. -/
abbrev FormulaReader := StateT (List Lexeme) Option

namespace FormulaReader

/-- The next lexeme, if there is one. -/
def peek : FormulaReader (Option Lexeme) := do return (← get).head?

/-- Passes over the next lexeme. -/
def drop : FormulaReader Unit := modify List.tail

/-- Passes over the next lexeme if it is the given one, and tells whether it was. -/
def accept (l : Lexeme) : FormulaReader Bool := do
  if (← peek) = some l then
    drop
    return true
  else return false

/-- Passes over a mark if it comes next, and tells whether it did. -/
def acceptMark (m : String) : FormulaReader Bool := accept (.mark m)

/-- Passes over a word if it comes next, and tells whether it did. -/
def acceptWord (w : String) : FormulaReader Bool := accept (.word w)

/-- Passes over a mark that must come next. -/
def expectMark (m : String) : FormulaReader Unit := do
  if !(← acceptMark m) then failure

/-- Passes over a word that must come next. -/
def expectWord (w : String) : FormulaReader Unit := do
  if !(← acceptWord w) then failure

/-- Whether a mark comes next. -/
def isAtMark (m : String) : FormulaReader Bool := do return (← peek) = some (.mark m)

/-- A name that must come next. -/
def expectName : FormulaReader String := do
  match ← peek with
  | some (.name n) => do
    drop
    return n
  | _ => failure

/-- Whether a name for a value comes next. -/
def isAtNaming : FormulaReader Bool := do
  match ← get with
  | .name _ :: .mark ":=" :: _ => return true
  | _ => return false

/-- The name that comes next, if the given mark stands behind it; both are passed over. -/
def nameBefore? (m : String) : FormulaReader (Option String) := do
  match ← get with
  | .name n :: .mark other :: rest =>
    if other = m then
      set rest
      return some n
    else return none
  | _ => return none

/-- The binary operators by their marks, those that bind least first. -/
def operatorLevels : List (List (String × Operator)) :=
  [[("|", .either)], [("^", .exclusive)], [("&", .both)], [("<<", .shiftLeft), (">>", .shiftRight)],
   [("+", .plus), ("-", .minus)],
   [("*", .times), ("@", .matrix), ("/", .divided), ("//", .floorDivided), ("%", .remainder)]]

/-- The operator of a level that comes next, passed over. -/
def operatorIn? (level : List (String × Operator)) : FormulaReader (Option Operator) := do
  match ← peek with
  | some (.mark m) =>
    match level.lookup m with
    | some o => do
      drop
      return some o
    | none => return none
  | _ => return none

/-- The comparison that comes next, passed over. -/
def comparison? : FormulaReader (Option Comparison) := do
  let signs : List (String × Comparison) :=
    [("==", .equal), ("!=", .unequal), ("<", .less), ("<=", .lessEqual), (">", .greater),
     (">=", .greaterEqual)]
  match ← get with
  | .mark m :: rest =>
    match signs.lookup m with
    | some c => do
      set rest
      return some c
    | none => return none
  | .word "in" :: rest => do
    set rest
    return some .inside
  | .word "not" :: .word "in" :: rest => do
    set rest
    return some .outside
  | .word "is" :: .word "not" :: rest => do
    set rest
    return some .other
  | .word "is" :: rest => do
    set rest
    return some .same
  | _ => return none

/-- The constant that a word stands for. -/
def wordConstant? : String → Option Constant
  | "None" => some .null
  | "True" => some (.bool true)
  | "False" => some (.bool false)
  | _ => none

/-- Whether a loop may give items to a formula. -/
def isTarget : Formula → Bool
  | .name _ | .member .. | .item .. => true
  | .tuple items | .list items => areTargets items
  | .spread f => isTarget f
  | _ => false
where
  /-- Whether a loop may give items to formulas. -/
  areTargets : List Formula → Bool
    | [] => true
    | f :: fs => isTarget f && areTargets fs

/-- The parts of a text with fields: plain characters and the formulas between braces. A doubled
brace is plain. -/
inductive Piece where
  | plain (cs : List Char)
  | field (cs : List Char)
  deriving DecidableEq, Repr, Inhabited

/-- The characters of a field up to its closing brace, and what follows it; `opened` is the number
of brackets that are open inside. -/
def fieldBody? (opened : Nat) : List Char → Option (List Char × List Char)
  | [] => none
  | c :: cs =>
    if c == '\x7d' && opened == 0 then some ([], cs)
    else if c == '\\' || c == '#' || ((c == ':' || c == '!') && opened == 0) then none
    else
      let opened := if "([\x7b".toList.contains c then opened + 1
        else if ")]\x7d".toList.contains c then opened - 1 else opened
      (fieldBody? opened cs).map fun (body, rest) => (c :: body, rest)

/-- A plain character in front of pieces. -/
def plainBefore (c : Char) : List Piece → List Piece
  | .plain cs :: pieces => .plain (c :: cs) :: pieces
  | pieces => .plain [c] :: pieces

/-- The pieces of a text with fields; `size` bounds its length. No field is empty. -/
def pieces? : (size : Nat) → List Char → Option (List Piece)
  | 0, _ => none
  | _ + 1, [] => some []
  | size + 1, c :: cs =>
    if c == '\x7b' || c == '\x7d' then
      if cs.head? == some c then (pieces? size cs.tail).map (plainBefore c)
      else if c == '\x7d' then none
      else do
        let (body, rest) ← fieldBody? 0 cs
        if body.all fun c => isSpace c || c == '\n' then none
        else return .field body :: (← pieces? size rest)
    else (pieces? size cs).map (plainBefore c)

mutual

/-- Reads a formula; `fuel` bounds the nesting. -/
def readFormula : (fuel : Nat) → FormulaReader Formula
  | 0 => failure
  | fuel + 1 => do
    if ← acceptWord "lambda" then
      readParameters fuel [] false false false
      let _ ← readFormula fuel
      return .function
    else
      let value ← readOr fuel
      if ← acceptWord "if" then
        let condition ← readOr fuel
        expectWord "else"
        return .choice condition value (← readFormula fuel)
      else return value

/-- Reads the parameters of a function without a name, with the mark behind them: `names` are those
before, `given` tells whether one before has a value of its own, `starred` whether there was a star,
and `closed` whether nothing but a mark may follow. -/
def readParameters : (fuel : Nat) → (names : List String) → (given starred closed : Bool) →
    FormulaReader Unit
  | 0, _, _, _, _ => failure
  | fuel + 1, names, given, starred, closed => do
    if ← acceptMark ":" then return ()
    else if closed then failure
    else if ← acceptMark "**" then
      let n ← expectName
      if names.contains n then failure
      let _ ← acceptMark ","
      readParameters fuel (n :: names) given starred true
    else if ← acceptMark "*" then
      if starred then failure
      match ← peek with
      | some (.name n) => do
        drop
        if names.contains n then failure
        if (← acceptMark ",") || (← isAtMark ":") then
          readParameters fuel (n :: names) false true false
        else failure
      | _ => do
        expectMark ","
        match ← peek with
        | some (.name _) => readParameters fuel names false true false
        | _ => failure
    else if ← acceptMark "/" then
      if starred || names.isEmpty || names.contains "/" then failure
      if (← acceptMark ",") || (← isAtMark ":") then
        readParameters fuel ("/" :: names) given starred false
      else failure
    else
      let n ← expectName
      if names.contains n then failure
      let valued ← acceptMark "="
      if valued then
        let _ ← readFormula fuel
      if given && !valued && !starred then failure
      if (← acceptMark ",") || (← isAtMark ":") then
        readParameters fuel (n :: names) (given || valued) starred false
      else failure

/-- Reads a formula that may get a name on the way. -/
def readNamed : (fuel : Nat) → FormulaReader Formula
  | 0 => failure
  | fuel + 1 => do
    match ← nameBefore? ":=" with
    | some n => return .named n (← readFormula fuel)
    | none => readFormula fuel

/-- Reads a formula that may get a name on the way, or the items of a value. -/
def readSpread : (fuel : Nat) → FormulaReader Formula
  | 0 => failure
  | fuel + 1 => do
    if ← acceptMark "*" then return .spread (← readOperators fuel operatorLevels)
    else readNamed fuel

/-- Reads formulas, each behind a comma; a comma may stand at the end. -/
def readFormulas : (fuel : Nat) → FormulaReader (List Formula)
  | 0 => failure
  | fuel + 1 => do
    if ← acceptMark "," then
      match ← peek with
      | none | some .lineEnd => return []
      | _ => do
        let f ← readFormula fuel
        return f :: (← readFormulas fuel)
    else return []

/-- Reads formulas with `or` between them. -/
def readOr : (fuel : Nat) → FormulaReader Formula
  | 0 => failure
  | fuel + 1 => do
    let left ← readAnd fuel
    if ← acceptWord "or" then return .or left (← readOr fuel)
    else return left

/-- Reads formulas with `and` between them. -/
def readAnd : (fuel : Nat) → FormulaReader Formula
  | 0 => failure
  | fuel + 1 => do
    let left ← readNot fuel
    if ← acceptWord "and" then return .and left (← readAnd fuel)
    else return left

/-- Reads a formula that may be negated. -/
def readNot : (fuel : Nat) → FormulaReader Formula
  | 0 => failure
  | fuel + 1 => do
    if ← acceptWord "not" then return .signed .negation (← readNot fuel)
    else
      let first ← readOperators fuel operatorLevels
      let (comparisons, others) ← readComparisons fuel
      return if comparisons.isEmpty then first else .compared first comparisons others

/-- Reads comparisons, each with the formula behind it. -/
def readComparisons : (fuel : Nat) → FormulaReader (List Comparison × List Formula)
  | 0 => failure
  | fuel + 1 => do
    match ← comparison? with
    | none => return ([], [])
    | some c => do
      let other ← readOperators fuel operatorLevels
      let (cs, others) ← readComparisons fuel
      return (c :: cs, other :: others)

/-- Reads formulas with operators of the given levels between them. -/
def readOperators : (fuel : Nat) → List (List (String × Operator)) → FormulaReader Formula
  | 0, _ => failure
  | fuel + 1, [] => readSigned fuel
  | fuel + 1, level :: levels => do
    let first ← readOperators fuel levels
    readOperatorsBehind fuel level levels first

/-- Reads what stands behind a formula on one level of operators. -/
def readOperatorsBehind : (fuel : Nat) → List (String × Operator) →
    List (List (String × Operator)) → Formula → FormulaReader Formula
  | 0, _, _, _ => failure
  | fuel + 1, level, levels, left => do
    match ← operatorIn? level with
    | none => return left
    | some o => do
      let right ← readOperators fuel levels
      readOperatorsBehind fuel level levels (.binary o left right)

/-- Reads a formula that may have a sign, and powers of it. -/
def readSigned : (fuel : Nat) → FormulaReader Formula
  | 0 => failure
  | fuel + 1 => do
    if ← acceptMark "+" then return .signed .plus (← readSigned fuel)
    else if ← acceptMark "-" then return .signed .minus (← readSigned fuel)
    else if ← acceptMark "~" then return .signed .complement (← readSigned fuel)
    else
      let base ← readAtom fuel
      let base ← readBehind fuel base
      if ← acceptMark "**" then return .binary .power base (← readSigned fuel)
      else return base

/-- Reads the attributes, items and calls behind a formula. -/
def readBehind : (fuel : Nat) → Formula → FormulaReader Formula
  | 0, _ => failure
  | fuel + 1, f => do
    if ← acceptMark "." then
      let n ← expectName
      readBehind fuel (.member f n)
    else if ← acceptMark "[" then
      let index ← readIndex fuel
      readBehind fuel (.item f index)
    else if ← acceptMark "(" then
      let given ← readArguments fuel true false false
      let names := given.named.map Prod.fst
      if !(names.filterMap id).Nodup then failure
      readBehind fuel (.call f given.placed names (given.named.map Prod.snd))
    else return f

/-- Reads what stands between the brackets behind a value, with the closing one. -/
def readIndex : (fuel : Nat) → FormulaReader Formula
  | 0 => failure
  | fuel + 1 => do
    let first ← readSlice fuel
    if ← acceptMark "]" then
      return match first with
        | .spread _ => .tuple [first]
        | _ => first
    else
      expectMark ","
      return .tuple (first :: (← readSlices fuel))

/-- Reads more of what stands between the brackets behind a value. -/
def readSlices : (fuel : Nat) → FormulaReader (List Formula)
  | 0 => failure
  | fuel + 1 => do
    if ← acceptMark "]" then return []
    else
      let first ← readSlice fuel
      if ← acceptMark "]" then return [first]
      else
        expectMark ","
        return first :: (← readSlices fuel)

/-- Reads a formula, or the ends and the step of a stretch of a sequence. -/
def readSlice : (fuel : Nat) → FormulaReader Formula
  | 0 => failure
  | fuel + 1 => do
    let naming ← isAtNaming
    let first ← if ← isAtMark ":" then pure none else some <$> readSpread fuel
    if ← isAtMark ":" then
      if naming then failure
      match first with
      | some (.spread _) => failure
      | _ => do
        drop
        let start := first.getD (.constant .null)
        let stop ← readEnd fuel
        let step ← if ← acceptMark ":" then readEnd fuel else pure (.constant .null)
        return .slice start stop step
    else
      match first with
      | some f => return f
      | none => failure

/-- Reads one end of a stretch, which may be left out. -/
def readEnd : (fuel : Nat) → FormulaReader Formula
  | 0 => failure
  | fuel + 1 => do
    if (← isAtMark ":") || (← isAtMark "]") || (← isAtMark ",") then return .constant .null
    else readFormula fuel

/-- Reads the arguments of a call with the closing bracket. `first` tells whether no argument is
before, `named` whether one before is named, and `spreadNames` whether one before stands for named
ones. -/
def readArguments : (fuel : Nat) → (first named spreadNames : Bool) → FormulaReader Arguments
  | 0, _, _, _ => failure
  | fuel + 1, first, named, spreadNames => do
    if ← acceptMark ")" then return {}
    else if ← acceptMark "**" then
      let value ← readFormula fuel
      return (← readMoreArguments fuel true true).withNamed none value
    else if ← acceptMark "*" then
      if spreadNames then failure
      let value ← readFormula fuel
      return (← readMoreArguments fuel named spreadNames).withPlaced (.spread value)
    else
      match ← nameBefore? "=" with
      | some n => do
        let value ← readFormula fuel
        return (← readMoreArguments fuel true spreadNames).withNamed (some n) value
      | none => do
        if named then failure
        let value ← readNamed fuel
        match ← readLoop? fuel .generator value with
        | some loop =>
          if !first then failure
          expectMark ")"
          return { placed := [loop] }
        | none => return (← readMoreArguments fuel named spreadNames).withPlaced value

/-- Reads the arguments behind another. -/
def readMoreArguments : (fuel : Nat) → (named spreadNames : Bool) → FormulaReader Arguments
  | 0, _, _ => failure
  | fuel + 1, named, spreadNames => do
    if ← acceptMark ")" then return {}
    else
      expectMark ","
      readArguments fuel false named spreadNames

/-- Reads the loops and conditions behind what a loop makes, if there are any. -/
def readLoop? : (fuel : Nat) → LoopKind → Formula → FormulaReader (Option Formula)
  | 0, _, _ => failure
  | fuel + 1, kind, made => do
    if ← acceptWord "for" then
      match made with
      | .spread _ => failure
      | _ => do
        let source ← readOver fuel
        readConditions fuel
        return some (.loop kind source)
    else return none

/-- Reads what the items of a loop are given to, and the value that has them, in which nothing gets
a name. -/
def readOver : (fuel : Nat) → FormulaReader Formula
  | 0 => failure
  | fuel + 1 => do
    readTargets fuel
    expectWord "in"
    let source ← readOr fuel
    if source.givesNames then failure
    return source

/-- Reads what the items of a loop are given to. -/
def readTargets : (fuel : Nat) → FormulaReader Unit
  | 0 => failure
  | fuel + 1 => do
    let _ ← acceptMark "*"
    let target ← readBehind fuel (← readAtom fuel)
    if !isTarget target then failure
    if ← acceptMark "," then
      if (← peek) = some (.word "in") then return ()
      else readTargets fuel
    else return ()

/-- Reads the conditions and the loops behind a loop. -/
def readConditions : (fuel : Nat) → FormulaReader Unit
  | 0 => failure
  | fuel + 1 => do
    if ← acceptWord "if" then
      let _ ← readOr fuel
      readConditions fuel
    else if ← acceptWord "for" then
      let _ ← readOver fuel
      readConditions fuel
    else return ()

/-- Reads more items up to a closing mark, each after a comma; a comma may stand at the end. -/
def readItems : (fuel : Nat) → (closing : String) → FormulaReader (List Formula)
  | 0, _ => failure
  | fuel + 1, closing => do
    if ← acceptMark closing then return []
    else
      expectMark ","
      if ← acceptMark closing then return []
      else
        let item ← readSpread fuel
        return item :: (← readItems fuel closing)

/-- Reads the entries of a mapping, behind the first, with the closing mark. -/
def readEntries : (fuel : Nat) → FormulaReader (List Formula × List Formula)
  | 0 => failure
  | fuel + 1 => do
    if ← acceptMark "\x7d" then return ([], [])
    else
      expectMark ","
      if ← acceptMark "\x7d" then return ([], [])
      else readEntry fuel

/-- Reads an entry of a mapping and those behind it, with the closing mark. -/
def readEntry : (fuel : Nat) → FormulaReader (List Formula × List Formula)
  | 0 => failure
  | fuel + 1 => do
    if ← acceptMark "**" then
      let f ← readOperators fuel operatorLevels
      let (keys, values) ← readEntries fuel
      return (.spread f :: keys, f :: values)
    else
      let key ← readFormula fuel
      expectMark ":"
      let value ← readFormula fuel
      let (keys, values) ← readEntries fuel
      return (key :: keys, value :: values)

/-- Reads what stands between braces, with the closing one. -/
def readBraces : (fuel : Nat) → FormulaReader Formula
  | 0 => failure
  | fuel + 1 => do
    if ← acceptMark "\x7d" then return .mapping [] []
    else if ← isAtMark "**" then
      let (keys, values) ← readEntry fuel
      return .mapping keys values
    else
      let naming ← isAtNaming
      let first ← readSpread fuel
      if ← acceptMark ":" then
        if naming then failure
        match first with
        | .spread _ => failure
        | _ => do
          let value ← readFormula fuel
          match ← readLoop? fuel .mapping value with
          | some loop => do
            expectMark "\x7d"
            return loop
          | none => do
            let (keys, values) ← readEntries fuel
            return .mapping (first :: keys) (value :: values)
      else
        match ← readLoop? fuel .set first with
        | some loop => do
          expectMark "\x7d"
          return loop
        | none => return .set (first :: (← readItems fuel "\x7d"))

/-- Reads what stands between round brackets, with the closing one. -/
def readGroup : (fuel : Nat) → FormulaReader Formula
  | 0 => failure
  | fuel + 1 => do
    if ← acceptMark ")" then return .tuple []
    else
      let first ← readSpread fuel
      match ← readLoop? fuel .generator first with
      | some loop => do
        expectMark ")"
        return loop
      | none => do
        if ← isAtMark "," then return .tuple (first :: (← readItems fuel ")"))
        else
          expectMark ")"
          match first with
          | .spread _ => failure
          | _ => return first

/-- Reads texts in a row, all of one sort. -/
def readTexts : (fuel : Nat) → FormulaReader (List Formula)
  | 0 => failure
  | fuel + 1 => do
    match ← peek with
    | some (.text s) => do
      drop
      return .constant (.str s) :: (← readTexts fuel)
    | some (.formatted m body) => do
      drop
      match pieces? (body.length + 1) body with
      | none => failure
      | some pieces => do
        let parts ← readPieces fuel m pieces
        return parts ++ (← readTexts fuel)
    | some .bytes => failure
    | _ => return []

/-- Reads the pieces of a text with fields. -/
def readPieces : (fuel : Nat) → TextMarks → List Piece → FormulaReader (List Formula)
  | 0, _, _ => failure
  | _ + 1, _, [] => return []
  | fuel + 1, m, .plain cs :: pieces => do
    match resolved? m cs with
    | none => failure
    | some cs => return .constant (.str (String.ofList cs)) :: (← readPieces fuel m pieces)
  | fuel + 1, m, .field cs :: pieces => do
    match lexemes? ("(" ++ String.ofList cs ++ ")") with
    | none => failure
    | some lexemes =>
      match (readAtom fuel).run lexemes with
      | some (f, [.lineEnd]) => return f :: (← readPieces fuel m pieces)
      | _ => failure

/-- Reads bytes behind bytes. -/
def readBytes : (fuel : Nat) → FormulaReader Formula
  | 0 => failure
  | fuel + 1 => do
    match ← peek with
    | some .bytes => do
      drop
      readBytes fuel
    | some (.text _) | some (.formatted ..) => failure
    | _ => return .constant .bytes

/-- Reads a name, a constant, or what stands between brackets. -/
def readAtom : (fuel : Nat) → FormulaReader Formula
  | 0 => failure
  | fuel + 1 => do
    match ← peek with
    | some (.name n) => do
      drop
      return .name n
    | some (.number value) => do
      drop
      return .constant value
    | some (.word w) =>
      match wordConstant? w with
      | some value => do
        drop
        return .constant value
      | none => failure
    | some .bytes => do
      drop
      readBytes fuel
    | some (.text _) | some (.formatted ..) => return .joined (← readTexts fuel)
    | some (.mark "...") => do
      drop
      return .constant .rest
    | some (.mark "(") => do
      drop
      readGroup fuel
    | some (.mark "[") => do
      drop
      if ← acceptMark "]" then return .list []
      else
        let first ← readSpread fuel
        match ← readLoop? fuel .list first with
        | some loop => do
          expectMark "]"
          return loop
        | none => return .list (first :: (← readItems fuel "]"))
    | some (.mark "\x7b") => do
      drop
      readBraces fuel
    | _ => failure

end

/-- Reads one formula, or several with commas between them, and nothing else. -/
def readAll (fuel : Nat) : FormulaReader Formula := do
  let first ← readFormula fuel
  let all ←
    if ← isAtMark "," then Formula.tuple <$> (first :: ·) <$> readFormulas fuel else pure first
  if (← get).all (· == .lineEnd) then return all else failure

end FormulaReader

/-- The formula that a text stands for, if it is one. A text that begins with a star stands for the
first of the items that it names. -/
def Formula.ofText? (s : String) : Option Formula := do
  let s := if s.startsWith "*" then "(" ++ s ++ ",)[0]" else s
  let lexemes ← lexemes? s
  return (← (FormulaReader.readAll (24 * (s.length + 2))).run lexemes).1

end TypeReach
