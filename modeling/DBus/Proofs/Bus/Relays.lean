import Mathlib.Data.List.Perm.Subperm
import DBus.Object.Script
import DBus.Proofs.Bus.Ledger
import DBus.Proofs.Object.Routing

/-!
# Chains of relays

An object may serve a call by calling another object and failing if that fails. The fault with which
the last object of such a chain answers is then written into a reply, read from it as an error, made
a fault again and written into the next reply, once for every object on the way back. It comes to
the first caller as it was, however long the chain is.
-/

namespace DBus

namespace Exchange

variable {H : Type} {α β : Type}

/-! ### Runs in parts -/

section

variable {serve serve' : Message → Exchange H (Except Error Message)}

theorem ofSession_bind (s : Session H α) (f : α → Session H β) :
    ofSession serve (s >>= f) = ofSession serve s >>= fun a => ofSession serve (f a) := by
  induction s with
  | done a => rfl
  | register _ next ih | unregister _ next ih | subscribe _ next ih | receive _ next ih =>
    exact bind_congr fun answer => ih answer
  | call m next ih =>
    rw [ofSession, bind_assoc]
    exact bind_congr fun result => ih result
  | emit _ next ih | drop _ next ih => exact bind_congr fun _ => ih

/-- If a session ends then so does all that it goes on with. -/
theorem ofSession_bind_apply {s : Session H α} {f : α → Session H β} {b b' : Bus H} {a : α}
    (h : ofSession serve s b = some (a, b')) :
    ofSession serve (s >>= f) b = ofSession serve (f a) b' := by
  rw [ofSession_bind]
  show (ofSession serve s b).bind _ = _
  rw [h]
  rfl

theorem ofSession_call_apply {m : Message} {next : Except Error Message → Session H α}
    {b b' : Bus H} {result : Except Error Message} (h : serve m b = some (result, b')) :
    ofSession serve (.call m next) b = ofSession serve (next result) b' := by
  show (serve m b).bind _ = _
  rw [h]
  rfl

/-- In a run of a session from a bus there comes a point where a rest of the session is still to be
run, from another bus. -/
inductive Arrives (serve : Message → Exchange H (Except Error Message)) :
    Session H α → Bus H → Session H α → Bus H → Prop
  | here {s : Session H α} {b : Bus H} : Arrives serve s b s b
  | register {object : Object H} {next : Option (Object H) → Session H α} {b b' rest} :
    Arrives serve (next (b.register object).1) (b.register object).2 rest b' →
    Arrives serve (.register object next) b rest b'
  | unregister {path : ObjectPath} {next : Option (Object H) → Session H α} {b b' rest} :
    Arrives serve (next (b.unregister path).1) (b.unregister path).2 rest b' →
    Arrives serve (.unregister path next) b rest b'
  | emit {signal : Message} {next : Session H α} {b b' rest} :
    Arrives serve next (b.emit signal) rest b' → Arrives serve (.emit signal next) b rest b'
  | call {m : Message} {next : Except Error Message → Session H α} {result b b₁ b' rest} :
    serve m b = some (result, b₁) → Arrives serve (next result) b₁ rest b' →
    Arrives serve (.call m next) b rest b'
  | subscribe {rule : MatchRule} {next : Nat → Session H α} {b b' rest} :
    Arrives serve (next (b.subscribe rule).1) (b.subscribe rule).2 rest b' →
    Arrives serve (.subscribe rule next) b rest b'
  | receive {id : Nat} {next : Option Message → Session H α} {b b' rest} :
    Arrives serve (next (b.receive id).1) (b.receive id).2 rest b' →
    Arrives serve (.receive id next) b rest b'
  | drop {id : Nat} {next : Session H α} {b b' rest} :
    Arrives serve next (b.drop id) rest b' → Arrives serve (.drop id next) b rest b'

/-- The run goes on from there. -/
theorem Arrives.ofSession_eq {s rest : Session H α} {b b' : Bus H} (h : Arrives serve s b rest b') :
    ofSession serve s b = ofSession serve rest b' := by
  induction h with
  | here => rfl
  | call hserve _ ih => exact (ofSession_call_apply hserve).trans ih
  | register _ ih | unregister _ ih | subscribe _ ih | receive _ ih | emit _ ih | drop _ ih =>
    exact ih

/-! ### Deeper nesting -/

/-- What ends one way ends the same way if its calls are served by who serves others too. -/
theorem ofSession_mono (hserve : ∀ m b r, serve m b = some r → serve' m b = some r)
    {s : Session H α} {b : Bus H} {r : α × Bus H} (h : ofSession serve s b = some r) :
    ofSession serve' s b = some r := by
  induction s generalizing b with
  | done a => exact h
  | register _ next ih | unregister _ next ih | subscribe _ next ih | receive _ next ih =>
    exact ih _ h
  | emit _ next ih | drop _ next ih => exact ih h
  | call m next ih =>
    obtain ⟨⟨result, b₁⟩, hcall, hrest⟩ := Option.bind_eq_some_iff.1 h
    exact Option.bind_eq_some_iff.2 ⟨_, hserve m b _ hcall, ih _ hrest⟩

end

/-- Distinct objects that are on a bus are no more than its places. -/
theorem length_le_places {b : Bus H} {objects : List (Object H)}
    (hidle : ∀ o ∈ objects, b.placeOf o.path = some (.idle o))
    (hnodup : (objects.map (·.path)).Nodup) : objects.length ≤ b.places.length := by
  have hsub : objects.map (·.path) ⊆ b.places.map (·.1) := by
    intro path hpath
    obtain ⟨o, ho, rfl⟩ := List.mem_map.1 hpath
    obtain ⟨before, behind, hplaces, -⟩ := List.lookup_eq_some_iff.1 (hidle o ho)
    rw [hplaces]
    simp
  simpa using (List.subperm_of_subset hnodup hsub).length_le

variable [InterfaceHandler H]

/-- The bus on which an object begins to serve a call to its path. -/
def lent (b : Bus H) (path : ObjectPath) : Bus H :=
  b.nextSerial.2.occupy path .serving

/-- How a call goes, from the bus on which it is made. -/
theorem call_apply (depth : Nat) (m : Message) (b : Bus H) :
    call depth m b =
      match m.path? with
      | none => some (.error .unexpectedReply, b.nextSerial.2)
      | some path =>
        match b.placeOf path, depth with
        | none, _ =>
          finishCall ((m.withSerial b.nextSerial.1).error (.unknownObject path.text)) b.nextSerial.2
        | some .serving, _ | some (.idle _), 0 => none
        | some (.idle object), depth + 1 =>
          (ofSession (call depth) (object.handle (m.withSerial b.nextSerial.1)) (lent b path)).bind
            fun served => finishCall served.1.1 (served.2.giveBack served.1.2) := by
  rw [← Recorded.forget_call, Recorded.forget, Recorded.call_apply]
  cases m.path? with
  | none => rfl
  | some path =>
    dsimp only
    rcases b.placeOf path with - | object | -
    · exact congrFun (Recorded.forget_finishCall _) (b.next .number)
    · cases depth with
      | zero => rfl
      | succ depth =>
        dsimp only
        rw [lent, Recorded.forget_service]
        rcases Recorded.service depth m path object b with ⟨inner, - | ⟨reply, object'⟩⟩
        · rfl
        · have hfinish := congrFun (Recorded.forget_finishCall reply)
            (b.after (Recorded.serviceSteps path inner object'))
          simpa [Recorded.forget, Recorded.serviceSteps, Bus.next] using hfinish
    · rfl

/-- A call that ends goes the same way if more nesting is allowed: it never gets that deep. -/
theorem call_mono {depth depth' : Nat} (hle : depth ≤ depth') {m : Message} {b : Bus H}
    {r : Except Error Message × Bus H} (h : call depth m b = some r) :
    call depth' m b = some r := by
  rw [call_apply] at h ⊢
  cases hm : m.path? with
  | none => simpa only [hm] using h
  | some path =>
    simp only [hm] at h ⊢
    rcases hplace : b.placeOf path with - | object | -
    · simpa only [hplace] using h
    · simp only [hplace] at h ⊢
      cases depth with
      | zero => cases h
      | succ below =>
        obtain ⟨below', rfl⟩ : ∃ d, depth' = d + 1 := ⟨depth' - 1, by omega⟩
        obtain ⟨served, hserved, hfinish⟩ := Option.bind_eq_some_iff.1 h
        have hserved' := ofSession_mono
          (fun _ _ _ hcall => call_mono (Nat.le_of_succ_le_succ hle) hcall) hserved
        exact Option.bind_eq_some_iff.2 ⟨served, hserved', hfinish⟩
    · simp [hplace] at h
  termination_by depth

/-! ### A failure on its way back -/

open InterfaceHandler (interface dispatch)
open Object (isFor offer answerOf)

/-- A call that is offered to handlers comes to one of them, because those before it are not the
ones it is for or do not know the method: the handler, and the bus when it is asked. -/
inductive Reaches (serve : Message → Exchange H (Except Error Message)) (m : Message) :
    List H → Bus H → H → Bus H → Prop
  | here {h : H} {behind : List H} {b : Bus H} :
    isFor m (interface h) = true → Reaches serve m (h :: behind) b h b
  | passing {g : H} {behind : List H} {b h b'} :
    isFor m (interface g) = false → Reaches serve m behind b h b' →
    Reaches serve m (g :: behind) b h b'
  | declined {g g' : H} {behind : List H} {b b₁ h b'} :
    isFor m (interface g) = true →
    ofSession serve (dispatch g m) b = some ((.ok .unknownMember, g'), b₁) →
    Reaches serve m behind b₁ h b' → Reaches serve m (g :: behind) b h b'

variable {serve : Message → Exchange H (Except Error Message)} {m : Message} {fault : Fault}

/-- A handler answers with a fault: it fails with an error that is reported as this fault, or makes
the reply that tells of it. -/
def Tells (m : Message) (fault : Fault) : Except Error Dispatch → Prop
  | .error e => .ofError e = fault
  | .ok (.reply reply) => m.error fault = .ok reply
  | .ok .unknownMember => False

/-- If the handler answers then that is the end of the search. -/
theorem Reaches.offer_apply {handlers : List H} {b b' b'' : Bus H} {h h' : H}
    {outcome : Except Error Dispatch} {answer : Except Error Message}
    (hreaches : Reaches serve m handlers b h b')
    (hdispatch : ofSession serve (dispatch h m) b' = some ((outcome, h'), b''))
    (hanswer : answerOf outcome = some answer) :
    ∃ handlers', ofSession serve (offer m handlers) b = some ((some answer, handlers'), b'') := by
  induction hreaches with
  | @here h behind b hfor =>
    refine ⟨h' :: behind, ?_⟩
    rw [offer, if_pos hfor, ofSession_bind_apply hdispatch]
    rcases outcome with e | reply | -
    · cases hanswer
      rfl
    · cases hanswer
      rfl
    · cases hanswer
  | @passing g behind b h b' hfor _ ih =>
    obtain ⟨handlers', hrest⟩ := ih hdispatch
    refine ⟨g :: handlers', ?_⟩
    rw [offer, if_neg (by simp [hfor]), ofSession_bind_apply hrest]
    rfl
  | @declined g g' behind b b₁ h b' hfor hdeclines _ ih =>
    obtain ⟨handlers', hrest⟩ := ih hdispatch
    refine ⟨g' :: handlers', ?_⟩
    rw [offer, if_pos hfor, ofSession_bind_apply hdeclines]
    show ofSession serve (offer m behind >>= _) b₁ = _
    rw [ofSession_bind_apply hrest]
    rfl

/-- The object then answers with the fault of its handler. -/
theorem Reaches.handle_apply {object : Object H} {b b' b'' : Bus H} {h h' : H}
    {outcome : Except Error Dispatch} (hm : m.interface ≠ some propertiesInterface)
    (hreaches : Reaches serve m object.handlers b h b')
    (hdispatch : ofSession serve (dispatch h m) b' = some ((outcome, h'), b''))
    (htells : Tells m fault outcome) (hsendable : fault.Sendable) :
    ∃ object', ofSession serve (object.handle m) b
      = some ((.ok (m.faultReply fault), object'), b'') := by
  have hreply := Message.error_eq_ok_iff.2 ⟨hsendable, @rfl _ (m.faultReply fault)⟩
  rw [Object.handle, if_neg hm, Object.handleMethod]
  rcases outcome with e | reply | -
  · obtain rfl : .ofError e = fault := htells
    obtain ⟨handlers', hoffer⟩ := hreaches.offer_apply hdispatch rfl
    refine ⟨{ object with handlers := handlers' }, ?_⟩
    rw [ofSession_bind_apply hoffer, ← hreply]
    rfl
  · obtain rfl : reply = m.faultReply fault := Except.ok.inj (htells.symm.trans hreply)
    obtain ⟨handlers', hoffer⟩ := hreaches.offer_apply hdispatch rfl
    exact ⟨{ object with handlers := handlers' }, ofSession_bind_apply hoffer⟩
  · exact htells.elim

/-- An object is called: it is at the path of the call, and does not serve another one. -/
structure Called (m : Message) (b : Bus H) (path : ObjectPath) (object : Object H) : Prop where
  path_eq : m.path? = some path
  place_eq : b.placeOf path = some (.idle object)

/-- The caller of an object that answers with a fault hears of that fault. -/
theorem Called.call_apply {b b' : Bus H} {path : ObjectPath} {object object' : Object H}
    {depth : Nat} (hcalled : Called m b path object) (hsendable : fault.Sendable)
    (hhandle : ofSession (call depth) (object.handle (m.withSerial b.nextSerial.1)) (lent b path)
      = some ((.ok ((m.withSerial b.nextSerial.1).faultReply fault), object'), b')) :
    ∃ b'', call (depth + 1) m b = some (.error (.remote fault.name fault.text), b'') := by
  refine ⟨(b'.giveBack object').nextSerial.2, ?_⟩
  rw [Exchange.call_apply, hcalled.path_eq]
  simp only [hcalled.place_eq, hhandle, Option.bind_some]
  rw [← Message.intoResult_faultReply hsendable]
  rfl

/-! ### Chains -/

/-- A chain of objects, given by their paths, each of which is called by the one before: the call
and the bus on which it is made, the calls within it nesting at most `depth` deep. -/
inductive Chain (fault : Fault) : Nat → List ObjectPath → Message → Bus H → Prop
  /-- The last object answers with the fault, and a reply can tell of it. -/
  | last {depth : Nat} {path : ObjectPath} {m : Message} {b b' : Bus H} {object object' : Object H}
    {reply : Message} :
    Called m b path object →
    ofSession (call depth) (object.handle (m.withSerial b.nextSerial.1)) (lent b path)
      = some ((.ok reply, object'), b') →
    (m.withSerial b.nextSerial.1).error fault = .ok reply →
    Chain fault (depth + 1) [path] m b
  /-- The others have a handler that comes to call the next object, and if that fails does nothing
  more and fails in the same way. -/
  | relay {depth : Nat} {path : ObjectPath} {paths : List ObjectPath} {m : Message}
    {b b₁ b₂ : Bus H} {object : Object H} {h : H} {inner : Message}
    {next : Except Error Message → Session H (Except Error Dispatch × H)} :
    Called m b path object → m.interface ≠ some propertiesInterface →
    Reaches (call depth) (m.withSerial b.nextSerial.1) object.handlers (lent b path) h b₁ →
    Arrives (call depth) (dispatch h (m.withSerial b.nextSerial.1)) b₁ (.call inner next) b₂ →
    (∀ e, ∃ h', next (.error e) = .done (.error e, h')) →
    Chain fault depth paths inner b₂ →
    Chain fault (depth + 1) (path :: paths) m b

variable {depth : Nat} {paths : List ObjectPath} {b : Bus H}

theorem Chain.sendable (h : Chain fault depth paths m b) : fault.Sendable := by
  induction h with
  | last _ _ hreply => exact (Message.error_eq_ok_iff.1 hreply).1
  | relay _ _ _ _ _ _ ih => exact ih

/-- The fault comes back through one object after the other. -/
theorem Chain.exists_call_apply (h : Chain fault depth paths m b) :
    ∃ b', call depth m b = some (.error (.remote fault.name fault.text), b') := by
  induction h with
  | last hcalled hhandle hreply =>
    obtain ⟨hsendable, rfl⟩ := Message.error_eq_ok_iff.1 hreply
    exact hcalled.call_apply hsendable hhandle
  | @relay depth path paths m b b₁ b₂ object h inner next hcalled hm hreaches harrives hnext
      hchain ih =>
    obtain ⟨b₃, hinner⟩ := ih
    obtain ⟨h', hdone⟩ := hnext (.remote fault.name fault.text)
    have hdispatch : ofSession (call depth) (dispatch h (m.withSerial b.nextSerial.1)) b₁
        = some ((.error (.remote fault.name fault.text), h'), b₃) := by
      rw [harrives.ofSession_eq, ofSession_call_apply hinner, hdone]
      rfl
    have hm' : (m.withSerial b.nextSerial.1).interface ≠ some propertiesInterface := hm
    -- The error of the inner call is reported as the fault that it came from.
    have htells : Tells (m.withSerial b.nextSerial.1) fault
        (.error (.remote fault.name fault.text)) := rfl
    obtain ⟨object', hhandle⟩ := hreaches.handle_apply hm' hdispatch htells hchain.sendable
    exact hcalled.call_apply hchain.sendable hhandle

/-- The first caller of a chain hears of the fault with which the last object answers, also if the
calls may nest deeper than they do. -/
theorem call_of_chain (h : Chain fault depth paths m b) :
    ∃ b', ∀ depth', depth ≤ depth' →
      call depth' m b = some (.error (.remote fault.name fault.text), b') := by
  obtain ⟨b', hcall⟩ := h.exists_call_apply
  exact ⟨b', fun depth' hle => call_mono hle hcall⟩

/-! ### Objects in a line -/

/-- A handler serves a call by making another one; if that fails it does nothing more and fails in
the same way. -/
def Relays (m inner : Message) (h : H) : Prop :=
  ∀ serial, ∃ next, dispatch h (m.withSerial serial) = .call inner next ∧
    ∀ e, ∃ h', next (.error e) = .done (.error e, h')

/-- A handler serves a call by answering with a fault. -/
def Refuses (m : Message) (fault : Fault) (h : H) : Prop :=
  ∀ serial, ∃ outcome h', dispatch h (m.withSerial serial) = .done (outcome, h') ∧
    Tells (m.withSerial serial) fault outcome

/-- A call is for the first handler of an object. -/
structure ForFirst (m : Message) (object : Object H) (h : H) : Prop where
  path_eq : m.path? = some object.path
  interface_ne : m.interface ≠ some propertiesInterface
  head?_eq : object.handlers.head? = some h
  isFor_eq : isFor m (interface h) = true

/-- Objects each of which relays the call that it gets to the one behind it, up to the last, which
answers with a fault. -/
inductive Line (fault : Fault) : List (Object H) → Message → Prop
  | last {m : Message} {object : Object H} {h : H} :
    ForFirst m object h → Refuses m fault h → Line fault [object] m
  | relay {m inner : Message} {object : Object H} {h : H} {behind : List (Object H)} :
    ForFirst m object h → Relays m inner h → Line fault behind inner →
    Line fault (object :: behind) m

theorem ForFirst.reaches {object : Object H} {h : H} (hfirst : ForFirst m object h)
    (serial : Serial) (b : Bus H) : Reaches serve (m.withSerial serial) object.handlers b h b := by
  obtain ⟨behind, hhandlers⟩ := List.head?_eq_some_iff.1 hfirst.head?_eq
  rw [hhandlers]
  exact .here hfirst.isFor_eq

/-- Objects in a line make a chain if they are at their places on a bus. -/
theorem Line.chain {objects : List (Object H)} (h : Line fault objects m)
    (hsendable : fault.Sendable) (hidle : ∀ o ∈ objects, b.placeOf o.path = some (.idle o))
    (hnodup : (objects.map (·.path)).Nodup) :
    Chain fault objects.length (objects.map (·.path)) m b := by
  induction h generalizing b with
  | @last m object h hfirst hrefuses =>
    obtain ⟨outcome, h', hdispatch, htells⟩ := hrefuses b.nextSerial.1
    have hdone : ofSession (call 0) (dispatch h (m.withSerial b.nextSerial.1)) (lent b object.path)
        = some ((outcome, h'), lent b object.path) := by
      rw [hdispatch]
      rfl
    have hm : (m.withSerial b.nextSerial.1).interface ≠ some propertiesInterface :=
      hfirst.interface_ne
    obtain ⟨object', hhandle⟩ :=
      (hfirst.reaches b.nextSerial.1 _).handle_apply hm hdone htells hsendable
    exact .last ⟨hfirst.path_eq, hidle object (List.mem_singleton_self object)⟩ hhandle
      (Message.error_eq_ok_iff.2 ⟨hsendable, rfl⟩)
  | @relay m inner object h behind hfirst hrelays _ ih =>
    obtain ⟨next, hdispatch, hnext⟩ := hrelays b.nextSerial.1
    rw [List.map_cons, List.nodup_cons] at hnodup
    obtain ⟨hobject, hbehind⟩ := List.forall_mem_cons.1 hidle
    have hstill : ∀ o ∈ behind, (lent b object.path).placeOf o.path = some (.idle o) := by
      intro o ho
      rw [lent, Bus.placeOf_occupy, if_neg]
      · exact hbehind o ho
      · exact fun heq => hnodup.1 (List.mem_map.2 ⟨o, ho, heq⟩)
    refine .relay ⟨hfirst.path_eq, hobject⟩ hfirst.interface_ne (hfirst.reaches _ _) ?_ hnext
      (ih hstill hnodup.2)
    rw [hdispatch]
    exact .here

/-- However many objects stand in a line on a bus, the caller of the first hears of the fault with
which the last one answers. -/
theorem callNow_of_line {objects : List (Object H)} (h : Line fault objects m)
    (hsendable : fault.Sendable) (hidle : ∀ o ∈ objects, b.placeOf o.path = some (.idle o))
    (hnodup : (objects.map (·.path)).Nodup) :
    ∃ b', callNow m b = some (.error (.remote fault.name fault.text), b') := by
  obtain ⟨b', hcall⟩ := (h.chain hsendable hidle hnodup).exists_call_apply
  exact ⟨b', call_mono (length_le_places hidle hnodup) hcall⟩

/-! ### Three objects -/

/-- A handler with one method that does one thing. -/
def guard (action : Action) : Script :=
  ⟨"org.example.Guard", [("Ask", [action])], [], 0⟩

/-- The way through a castle. -/
def gatePath : ObjectPath := ⟨"/gate", by decide +kernel⟩

@[inherit_doc gatePath]
def courtPath : ObjectPath := ⟨"/gate/court", by decide +kernel⟩

@[inherit_doc gatePath]
def towerPath : ObjectPath := ⟨"/gate/court/tower", by decide +kernel⟩

/-- The call that everyone gets. -/
def ask (path : ObjectPath) : Message := .methodCall path "Ask"

/-- What the last object says. -/
def refusal : Fault := ⟨"org.example.Error.Closed", "Закрыто 閉 🔒"⟩

/-- Three objects: two ask the next one, and the last one refuses. -/
def guards : List (Object Script) :=
  [⟨gatePath, [guard (.call (ask courtPath))]⟩, ⟨courtPath, [guard (.call (ask towerPath))]⟩,
    ⟨towerPath, [guard (.error refusal)]⟩]

/-- The bus with the objects on it. -/
def castle : Bus Script :=
  { places := guards.map fun object => (object.path, .idle object) }

theorem relays_guard (path : ObjectPath) (inner : Message) :
    Relays (ask path) inner (guard (.call inner)) :=
  fun _ => ⟨_, rfl, fun _ => ⟨_, rfl⟩⟩

theorem line_guards : Line refusal guards (ask gatePath) := by
  have hrefuses : Refuses (ask towerPath) refusal (guard (.error refusal)) := by
    intro serial
    have hreply := Message.error_eq_ok_iff.2
      ⟨show refusal.Sendable by decide +kernel,
        @rfl _ (((ask towerPath).withSerial serial).faultReply refusal)⟩
    refine ⟨_, _, rfl, ?_⟩
    rw [hreply]
    exact hreply
  have htower : Line refusal [⟨towerPath, [guard (.error refusal)]⟩] (ask towerPath) :=
    .last ⟨rfl, by decide, rfl, rfl⟩ hrefuses
  exact .relay ⟨rfl, by decide, rfl, rfl⟩ (relays_guard _ _)
    (.relay ⟨rfl, by decide, rfl, rfl⟩ (relays_guard _ _) htower)

theorem castle_refuses :
    Chain refusal 3 [gatePath, courtPath, towerPath] (ask gatePath) castle ∧
      ∃ b', callNow (ask gatePath) castle
        = some (.error (.remote "org.example.Error.Closed" "Закрыто 閉 🔒"), b') := by
  have hidle : ∀ o ∈ guards, castle.placeOf o.path = some (.idle o) :=
    List.forall_mem_cons.2 ⟨rfl, List.forall_mem_cons.2 ⟨rfl, List.forall_mem_singleton.2 rfl⟩⟩
  have hchain := line_guards.chain (b := castle) (by decide +kernel) hidle (by decide +kernel)
  obtain ⟨b', hcall⟩ := call_of_chain hchain
  exact ⟨hchain, b', hcall 3 le_rfl⟩

end Exchange

end DBus
