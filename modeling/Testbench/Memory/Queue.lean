/-! Queues whose two ends are both at hand, and the list of items that each stands for. -/

namespace Testbench.Memory

/-- A queue, with its first items in order and its last items in reverse order. -/
structure Queue (α : Type) where
  front : List α := []
  back : List α := []
  deriving DecidableEq, Inhabited

namespace Queue

variable {α : Type}

/-- The items of a queue, in the order in which they leave. -/
def toList (queue : Queue α) : List α :=
  queue.front ++ queue.back.reverse

/-- The item that leaves next. -/
def first? (queue : Queue α) : Option α :=
  match queue.front with
  | item :: _ => some item
  | [] => queue.back.getLast?

/-- The number of items. -/
def size (queue : Queue α) : Nat :=
  queue.front.length + queue.back.length

/-- Lets items join a queue in their order. -/
def join (items : List α) (queue : Queue α) : Queue α :=
  match queue.front with
  -- Without a front the next item to leave would be out of reach.
  | [] => { front := queue.toList ++ items }
  | _ :: _ => { queue with back := items.reverse ++ queue.back }

/-- Lets the first item leave, if there is one. -/
def leave (queue : Queue α) : Queue α :=
  match queue.front with
  | _ :: item :: rest => { queue with front := item :: rest }
  -- A used up front is replaced by the back.
  | [_] => { front := queue.back.reverse }
  | [] => { front := queue.back.reverse.tail }

/-- The item that leaves next is the first one listed. -/
theorem first?_eq (queue : Queue α) : queue.first? = queue.toList.head? := by
  obtain ⟨front, back⟩ := queue
  -- Only an empty front leaves the choice to the back, whose last item came first.
  cases front <;> simp [first?, toList]

/-- The size counts the items listed. -/
theorem size_eq (queue : Queue α) : queue.size = queue.toList.length := by
  -- The items that wait in either of the two halves are counted and listed alike.
  simp [size, toList]

/-- Joining items are listed behind all others. -/
theorem toList_join (items : List α) (queue : Queue α) :
    (queue.join items).toList = queue.toList ++ items := by
  obtain ⟨front, back⟩ := queue
  -- Both ways of joining keep the listed order, and differ only in the end that is filled.
  cases front <;> simp [join, toList]

/-- The first listed item is the only one to leave. -/
theorem toList_leave (queue : Queue α) : queue.leave.toList = queue.toList.tail := by
  obtain ⟨front, back⟩ := queue
  -- The front decides, except that one of a single item makes room for the back.
  match front with
  | [] => simp [leave, toList]
  | [_] => simp [leave, toList]
  | _ :: _ :: _ => simp [leave, toList]

end Queue

end Testbench.Memory
