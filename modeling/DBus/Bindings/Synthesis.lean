import DBus.Bindings.Routine

/-!
# Synthesis of routines

Routines are made when they are asked for. A routine that there is already is found by the signature
of its type; a new one is made after those that it calls, which are asked for in the same way. What
generates other code asks for the routines that it calls, and only learns their names.
-/

namespace DBus.Bindings

/-- The routines of one direction that have been made. -/
structure Cache where
  /-- The names of the routines, by the signatures of their types. -/
  names : List (String × String) := []
  /-- The routines in the order in which they were made. -/
  routines : List Code := []
  deriving Inhabited

namespace Cache

section

variable (rt : String) (d : Direction)

/-- The name of the routine for a type. If there is none it is made: what its body needs is asked for
first, so it comes behind the routines that it calls. -/
def getOrMake (t : Ty) (makeBody : Cache → Code × Cache) (c : Cache) : String × Cache :=
  match c.names.lookup t.signature with
  | some name => (name, c)
  | none =>
    let name := routineName d t
    let (body, c) := makeBody c
    (name, ⟨(t.signature, name) :: c.names, c.routines ++ [Routine.define rt d t name body]⟩)

mutual

/-- Asks for the routine for a type. -/
def request : Ty → Cache → String × Cache
  | .basic b => getOrMake rt d (.basic b) fun c => (Routine.basicBody rt d b, c)
  | .variant => getOrMake rt d .variant fun c => (Routine.variantBody d, c)
  | .array element => getOrMake rt d (.array element) fun c =>
    let (name, c) := request element c
    (Routine.arrayBody d element name, c)
  | .struct fields => getOrMake rt d (.struct fields) fun c =>
    let (names, c) := requestAll fields c
    (Routine.structBody d fields names, c)
  | .entry k v => getOrMake rt d (.entry k v) fun c =>
    let (key, c) := request k c
    let (value, c) := request v c
    (Routine.entryBody d key value, c)

/-- Asks for the routines for some types in turn. -/
def requestAll : List Ty → Cache → List String × Cache
  | [], c => ([], c)
  | t :: ts, c =>
    let (name, c) := request t c
    let (names, c) := requestAll ts c
    (name :: names, c)

end

end

end Cache

/-- The routines of both directions that have been made. -/
structure Synthesis where
  readers : Cache := {}
  writers : Cache := {}
  deriving Inhabited

namespace Synthesis

/-- The routines of one direction. -/
def cache (s : Synthesis) : Direction → Cache
  | .read => s.readers
  | .write => s.writers

/-- Asks for the routine for a type in a direction. -/
def request (rt : String) (s : Synthesis) (d : Direction) (t : Ty) : String × Synthesis :=
  match d with
  | .read =>
    let (name, readers) := Cache.request rt .read t s.readers
    (name, { s with readers })
  | .write =>
    let (name, writers) := Cache.request rt .write t s.writers
    (name, { s with writers })

/-- Asks for several routines in turn. -/
def requestAll (rt : String) (s : Synthesis) (calls : List (Direction × Ty)) : Synthesis :=
  calls.foldl (fun s c => (s.request rt c.1 c.2).2) s

/-- The number of routines of one direction. -/
def count (s : Synthesis) (d : Direction) : Nat :=
  (s.cache d).routines.length

/-- Whether no routines have been made. -/
def isEmpty (s : Synthesis) : Bool :=
  s.readers.routines.isEmpty && s.writers.routines.isEmpty

/-- The code of the routines of one direction. -/
def code (s : Synthesis) (d : Direction) : Code :=
  (s.cache d).routines.flatten

end Synthesis

/-! ### Generators -/

/-- What generates something, `α`. It may ask for routines, and goes on with the name that it is
told. -/
inductive Generator (α : Type) where
  /-- Asks for no more. -/
  | done (result : α)
  /-- Asks for the routine for a type in a direction. -/
  | ask (direction : Direction) (type : Ty) (next : String → Generator α)

namespace Generator

/-- Goes on with a generator made from the result of another one. -/
def bind : Generator α → (α → Generator β) → Generator β
  | .done a, f => f a
  | .ask d t next, f => .ask d t fun name => (next name).bind f

instance : Monad Generator where
  pure := .done
  bind := .bind

/-- Asks for the routine that reads a type. -/
def reader (t : Ty) : Generator String := .ask .read t .done

/-- Asks for the routine that writes a type. -/
def writer (t : Ty) : Generator String := .ask .write t .done

/-- Generates code for several things, one after the other. -/
def each (f : α → Generator Code) (xs : List α) : Generator Code := do
  return (← xs.mapM' f).flatten

/-- Generates with the routines that have been made; what is asked for besides is made. -/
def run (rt : String) : Generator α → Synthesis → α × Synthesis
  | .done a, s => (a, s)
  | .ask d t next, s =>
    let (name, s) := s.request rt d t
    (next name).run rt s

end Generator

end DBus.Bindings
