import DBus.Bus

/-!
# Watches

A watch takes every signal of a subscription of its own as soon as it gets the chance to.
-/

namespace DBus

/-- A watch over signals. -/
inductive Watch where
  /-- The watch takes the signals of a subscription. -/
  | running (subscription : Nat)
  /-- The watch has been given up. -/
  | cancelled
  deriving DecidableEq, Repr

namespace Watch

variable {H : Type}

/-- Begins to watch the signals that a rule accepts. -/
def start (rule : MatchRule) (b : Bus H) : Watch × Bus H :=
  let (id, b) := b.subscribe rule
  (.running id, b)

/-- Takes all signals that wait. -/
def deliver (w : Watch) (b : Bus H) : List Message × Bus H :=
  match w with
  | .running id =>
    ((b.subscription? id).elim [] (·.queue),
      b.changeSubscription id fun s => { s with queue := [] })
  | .cancelled => ([], b)

/-- Gives up a watch. The signals that wait are lost. -/
def cancel (w : Watch) (b : Bus H) : Watch × Bus H :=
  match w with
  | .running id => (.cancelled, b.drop id)
  | .cancelled => (.cancelled, b)

/-- Whether a watch that has taken all signals is over, because no more can come. -/
def isFinished (w : Watch) (b : Bus H) : Option Bool :=
  match w with
  | .running _ => some !b.isOpen
  | .cancelled => none

end Watch

end DBus
