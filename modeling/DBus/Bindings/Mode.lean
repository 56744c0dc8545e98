import DBus.Text.Split

/-!
# Modes

Which bindings an interface is to have: a proxy to call it, a handler to implement it, or both. A
mode is a set of flags, of which the first two have a meaning.
-/

namespace DBus.Bindings

/-- A set of bindings. -/
structure Mode where
  /-- The flags, one a bit. -/
  bits : UInt8
  deriving DecidableEq, Repr, Inhabited

namespace Mode

/-- No bindings. -/
def none : Mode := ⟨0⟩

/-- The proxy. -/
def proxy : Mode := ⟨1⟩

/-- The handler. -/
def handler : Mode := ⟨2⟩

/-- The bindings of either mode. -/
def union (a b : Mode) : Mode := ⟨a.bits ||| b.bits⟩

/-- The bindings of just one of two modes. -/
def symmDiff (a b : Mode) : Mode := ⟨a.bits ^^^ b.bits⟩

/-- Whether two modes have bindings in common. -/
def meets (a b : Mode) : Bool := a.bits &&& b.bits != 0

/-- Whether a mode has all bindings of another one. -/
def contains (a b : Mode) : Bool := a.bits &&& b.bits == b.bits

/-- Whether a mode has no bindings. -/
def isEmpty (a : Mode) : Bool := a.bits == 0

/-- The flags with a meaning, each with the word for it in the text of a mode and its name in
listings. -/
def flags : List (Mode × String × String) :=
  [(proxy, "Proxy", "PROXY"), (handler, "Handler", "HANDLER")]

/-- The text of a mode: the words of its bindings, with commas between them. -/
def text (m : Mode) : String :=
  ",".intercalate ((flags.filter fun f => m.meets f.1).map fun f => f.2.1)

/-- The flags of a mode without a meaning. -/
def unnamed (m : Mode) : Mode :=
  flags.foldl (fun rest f => if rest.meets f.1 then rest.symmDiff f.1 else rest) m

/-- The flags of a mode as a set; those without a meaning come last, in binary. -/
def listing (m : Mode) : String :=
  let named := (flags.filter fun f => m.meets f.1).map fun f => f.2.2
  let rest := m.unnamed
  let others := if rest.isEmpty then [] else [String.ofList (Nat.toDigits 2 rest.bits.toNat)]
  "\x7b" ++ ", ".intercalate (named ++ others) ++ "\x7d"

/-- The mode that a text names, or else the first word in it that names no binding. -/
def parse (text : String) : Except String Mode :=
  (Text.split ',' text).foldlM (fun mode word =>
    let word := Text.trim word
    match flags.find? fun f => f.2.1 == word with
    | some f => .ok (mode.union f.1)
    | Option.none => .error word) none

end Mode

end DBus.Bindings
