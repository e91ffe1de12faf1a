/-!
# Merged orders

A class and its ancestors stand in one order: every class before its bases, and bases in the order
in which they are written. The order of a class is merged from those of its bases and the list of
the bases.
-/

namespace TypeReach.Classes

variable {α : Type} [DecidableEq α]

/-- The lists without their empty ones. -/
def nonempty (orders : List (List α)) : List (List α) :=
  orders.filter fun order => !order.isEmpty

/-- The first head that no list has after its own head. -/
def freeHead? (orders : List (List α)) : Option α :=
  (orders.filterMap List.head?).find? fun c => orders.all fun order => !order.tail.contains c

/-- The merger of orders: in at most the given number of steps, the first free head leaves all
lists. If no head is free, the heads that stand against each other are the fault. -/
def mergeOrders : Nat → List (List α) → Except (List α) (List α)
  | 0, _ | _, [] => .ok []
  | n + 1, orders =>
    match freeHead? orders with
    | none => .error (orders.filterMap List.head?).eraseDups
    | some c => (c :: ·) <$> mergeOrders n (nonempty (orders.map fun order => order.erase c))

/-- The order of the ancestors of a class with the given bases, whose orders are known. -/
def orderAbove (bases : List α) (order : α → List α) : Except (List α) (List α) :=
  let orders := nonempty (bases.map order ++ [bases])
  mergeOrders orders.flatten.length orders

end TypeReach.Classes
