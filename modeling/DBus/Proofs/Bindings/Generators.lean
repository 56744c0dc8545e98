import DBus.Bindings.Synthesis

/-!
# What generators give and ask for

A generator is told the names of the routines that it asks for. If each routine goes by the name of
its type, a generator has one result and asks for certain routines, in order; these can be read off
its parts.
-/

namespace DBus.Bindings.Generator

variable {α β : Type}

/-- What a generator gives if each routine goes by the name of its type. -/
def result : Generator α → α
  | .done a => a
  | .ask d t next => (next (routineName d t)).result

/-- The routines that a generator then asks for, in order. -/
def requests : Generator α → List (Direction × Ty)
  | .done _ => []
  | .ask d t next => (d, t) :: (next (routineName d t)).requests

/-! ### Results -/

@[simp] theorem result_pure (a : α) : (pure a : Generator α).result = a := rfl

@[simp] theorem result_bind (g : Generator α) (f : α → Generator β) :
    (g >>= f).result = (f g.result).result := by
  induction g with
  | done => rfl
  | ask d t next ih => exact ih _

@[simp] theorem result_reader (t : Ty) : (reader t).result = routineName .read t := rfl

@[simp] theorem result_writer (t : Ty) : (writer t).result = routineName .write t := rfl

@[simp] theorem result_mapM' (f : α → Generator β) (xs : List α) :
    (xs.mapM' f).result = xs.map fun x => (f x).result := by
  induction xs with
  | nil => rfl
  | cons x xs ih => simp [ih]

@[simp] theorem result_each (f : α → Generator Code) (xs : List α) :
    (each f xs).result = xs.flatMap fun x => (f x).result := by
  simp [each, List.flatMap_def]

/-! ### Requests -/

@[simp] theorem requests_pure (a : α) : (pure a : Generator α).requests = [] := rfl

@[simp] theorem requests_bind (g : Generator α) (f : α → Generator β) :
    (g >>= f).requests = g.requests ++ (f g.result).requests := by
  induction g with
  | done => rfl
  | ask d t next ih => exact congrArg (List.cons (d, t)) (ih _)

@[simp] theorem requests_reader (t : Ty) : (reader t).requests = [(.read, t)] := rfl

@[simp] theorem requests_writer (t : Ty) : (writer t).requests = [(.write, t)] := rfl

@[simp] theorem requests_mapM' (f : α → Generator β) (xs : List α) :
    (xs.mapM' f).requests = xs.flatMap fun x => (f x).requests := by
  induction xs with
  | nil => rfl
  | cons x xs ih => simp [ih]

@[simp] theorem requests_each (f : α → Generator Code) (xs : List α) :
    (each f xs).requests = xs.flatMap fun x => (f x).requests := by
  simp [each]

end DBus.Bindings.Generator
