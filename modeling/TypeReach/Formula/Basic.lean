import TypeReach.Decimal.Double

/-!
# Formulas

The text of a hint is a formula: names and constants, joined by operators, with attributes and items
read from what they stand for.
-/

namespace TypeReach

namespace Formula

/-- A constant that is written in a formula. -/
inductive Constant where
  | null
  | bool (b : Bool)
  | int (n : Int)
  | double (x : Double)
  /-- A number times the imaginary unit. -/
  | imaginary
  | str (s : String)
  | bytes
  /-- Three dots. -/
  | rest
  deriving DecidableEq, Repr, Inhabited

/-- What stands between two values. -/
inductive Operator where
  | either
  | exclusive
  | both
  | shiftLeft
  | shiftRight
  | plus
  | minus
  | times
  | matrix
  | divided
  | floorDivided
  | remainder
  | power
  deriving DecidableEq, Repr, Inhabited

/-- How an operator is written. -/
def Operator.text : Operator → String
  | either => "|"
  | exclusive => "^"
  | both => "&"
  | shiftLeft => "<<"
  | shiftRight => ">>"
  | plus => "+"
  | minus => "-"
  | times => "*"
  | matrix => "@"
  | divided => "/"
  | floorDivided => "//"
  | remainder => "%"
  | power => "** or pow()"

/-- What stands in front of a value. -/
inductive Sign where
  | plus
  | minus
  | complement
  | negation
  deriving DecidableEq, Repr, Inhabited

/-- How a sign is written. -/
def Sign.text : Sign → String
  | plus => "+"
  | minus => "-"
  | complement => "~"
  | negation => "not"

/-- What is asked of two values. -/
inductive Comparison where
  | equal
  | unequal
  | less
  | lessEqual
  | greater
  | greaterEqual
  | same
  | other
  | inside
  | outside
  deriving DecidableEq, Repr, Inhabited

/-- How a comparison is written. -/
def Comparison.text : Comparison → String
  | equal => "=="
  | unequal => "!="
  | less => "<"
  | lessEqual => "<="
  | greater => ">"
  | greaterEqual => ">="
  | same => "is"
  | other => "is not"
  | inside => "in"
  | outside => "not in"

/-- What a loop inside a formula makes. -/
inductive LoopKind where
  | generator
  | list
  | set
  | mapping
  deriving DecidableEq, Repr, Inhabited

end Formula

/-- A formula. -/
inductive Formula where
  | name (name : String)
  | constant (value : Formula.Constant)
  | member (of : Formula) (name : String)
  | item (of index : Formula)
  /-- A stretch of a sequence: its ends and its step. -/
  | slice (start stop step : Formula)
  | tuple (items : List Formula)
  | list (items : List Formula)
  | set (items : List Formula)
  | mapping (keys values : List Formula)
  /-- The items of a value in the place of the value. -/
  | spread (of : Formula)
  | binary (operator : Formula.Operator) (left right : Formula)
  | signed (sign : Formula.Sign) (of : Formula)
  /-- Comparisons of neighbours, each with the value to its right. -/
  | compared (first : Formula) (comparisons : List Formula.Comparison) (others : List Formula)
  /-- The first of two values if it counts as false, and else the second. -/
  | and (left right : Formula)
  /-- The first of two values if it counts as true, and else the second. -/
  | or (left right : Formula)
  | choice (condition yes no : Formula)
  /-- What comes of calling a value with arguments, of which the last are given by names; no name is
  in front of a value that gives some itself. -/
  | call (of : Formula) (arguments : List Formula) (names : List (Option String))
    (values : List Formula)
  /-- A function without a name. -/
  | function
  /-- A loop over the items of a value. -/
  | loop (kind : Formula.LoopKind) (source : Formula)
  /-- Texts in a row. -/
  | joined (parts : List Formula)
  /-- A value that gets a name on the way. -/
  | named (name : String) (value : Formula)
  deriving Inhabited

namespace Formula

mutual

/-- Whether a value gets a name somewhere in a formula. -/
def givesNames : Formula → Bool
  | named .. => true
  | member f _ | spread f | signed _ f | loop _ f => f.givesNames
  | item f g | binary _ f g | and f g | or f g => f.givesNames || g.givesNames
  | choice f g h | slice f g h => f.givesNames || g.givesNames || h.givesNames
  | tuple fs | list fs | set fs | joined fs => giveNames fs
  | mapping keys values => giveNames keys || giveNames values
  | compared f _ fs => f.givesNames || giveNames fs
  | call f fs _ gs => f.givesNames || giveNames fs || giveNames gs
  | _ => false

/-- Whether a value gets a name somewhere in some formulas. -/
def giveNames : List Formula → Bool
  | [] => false
  | f :: fs => f.givesNames || giveNames fs

end

end Formula

end TypeReach
