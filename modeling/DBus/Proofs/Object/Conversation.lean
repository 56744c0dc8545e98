import DBus.Object

/-!
# Conversations

What a session says and hears: its requests, each with the answer that it got. Where the answers
come from is left open, so what holds for every conversation of a session holds whatever becomes of
its requests. A chain of sessions has one conversation after the other.
-/

namespace DBus

/-- A request together with its answer. -/
inductive Talk (H : Type) where
  | register (object : Object H) (old : Option (Object H))
  | unregister (path : ObjectPath) (old : Option (Object H))
  | emit (signal : Message)
  | call (call : Message) (result : Except Error Message)
  | subscribe (rule : MatchRule) (id : Nat)
  | receive (subscription : Nat) (signal : Option Message)
  | drop (subscription : Nat)

namespace Session

variable {H : Type} {α β : Type}

/-- A session has a conversation and ends with a result. -/
inductive Ends : Session H α → List (Talk H) → α → Prop
  | done (a : α) : Ends (.done a) [] a
  | register {object : Object H} {next : Option (Object H) → Session H α} {old talk a} :
    Ends (next old) talk a → Ends (.register object next) (.register object old :: talk) a
  | unregister {path : ObjectPath} {next : Option (Object H) → Session H α} {old talk a} :
    Ends (next old) talk a → Ends (.unregister path next) (.unregister path old :: talk) a
  | emit {signal : Message} {next : Session H α} {talk a} :
    Ends next talk a → Ends (.emit signal next) (.emit signal :: talk) a
  | call {m : Message} {next : Except Error Message → Session H α} {result talk a} :
    Ends (next result) talk a → Ends (.call m next) (.call m result :: talk) a
  | subscribe {rule : MatchRule} {next : Nat → Session H α} {id talk a} :
    Ends (next id) talk a → Ends (.subscribe rule next) (.subscribe rule id :: talk) a
  | receive {id : Nat} {next : Option Message → Session H α} {signal talk a} :
    Ends (next signal) talk a → Ends (.receive id next) (.receive id signal :: talk) a
  | drop {id : Nat} {next : Session H α} {talk a} :
    Ends next talk a → Ends (.drop id next) (.drop id :: talk) a

variable {s : Session H α} {f : α → Session H β} {talk : List (Talk H)} {a : α} {b : β}

@[simp] theorem ends_pure_iff {a' : α} :
    (pure a' : Session H α).Ends talk a ↔ talk = [] ∧ a' = a := by
  constructor
  · rintro ⟨⟩
    exact ⟨rfl, rfl⟩
  · rintro ⟨rfl, rfl⟩
    exact .done a'

theorem Ends.bind {first rest : List (Talk H)} (hs : s.Ends first a) (hf : (f a).Ends rest b) :
    (s >>= f).Ends (first ++ rest) b := by
  induction hs with
  | done => exact hf
  | register _ ih => exact .register (ih hf)
  | unregister _ ih => exact .unregister (ih hf)
  | emit _ ih => exact .emit (ih hf)
  | call _ ih => exact .call (ih hf)
  | subscribe _ ih => exact .subscribe (ih hf)
  | receive _ ih => exact .receive (ih hf)
  | drop _ ih => exact .drop (ih hf)

/-- The conversation of a chain comes apart where the first session ends. -/
theorem ends_bind_iff :
    (s >>= f).Ends talk b ↔
      ∃ a first rest, talk = first ++ rest ∧ s.Ends first a ∧ (f a).Ends rest b := by
  constructor
  · intro h
    induction s generalizing talk with
    | done a => exact ⟨a, [], talk, rfl, .done a, h⟩
    | register object next ih =>
      cases h with
      | register h =>
        obtain ⟨a, first, rest, rfl, hs, hf⟩ := ih _ h
        exact ⟨a, _, rest, rfl, .register hs, hf⟩
    | unregister path next ih =>
      cases h with
      | unregister h =>
        obtain ⟨a, first, rest, rfl, hs, hf⟩ := ih _ h
        exact ⟨a, _, rest, rfl, .unregister hs, hf⟩
    | emit m next ih =>
      cases h with
      | emit h =>
        obtain ⟨a, first, rest, rfl, hs, hf⟩ := ih h
        exact ⟨a, _, rest, rfl, .emit hs, hf⟩
    | call m next ih =>
      cases h with
      | call h =>
        obtain ⟨a, first, rest, rfl, hs, hf⟩ := ih _ h
        exact ⟨a, _, rest, rfl, .call hs, hf⟩
    | subscribe rule next ih =>
      cases h with
      | subscribe h =>
        obtain ⟨a, first, rest, rfl, hs, hf⟩ := ih _ h
        exact ⟨a, _, rest, rfl, .subscribe hs, hf⟩
    | receive id next ih =>
      cases h with
      | receive h =>
        obtain ⟨a, first, rest, rfl, hs, hf⟩ := ih _ h
        exact ⟨a, _, rest, rfl, .receive hs, hf⟩
    | drop id next ih =>
      cases h with
      | drop h =>
        obtain ⟨a, first, rest, rfl, hs, hf⟩ := ih h
        exact ⟨a, _, rest, rfl, .drop hs, hf⟩
  · rintro ⟨a, first, rest, rfl, hs, hf⟩
    exact hs.bind hf

end Session

end DBus
