import DBus.Proofs.Object.Assignments
import DBus.Proofs.Object.Keeping
import DBus.Proofs.Object.Properties

/-!
# Objects as stores of properties

If the handlers of an object keep their properties, so does the object: what was set with one call
is what is got with a later one, whatever other properties have been set in between. The value has
then been written twice, behind the names of the property and at the start of a body. In between it
may have become too long: where the elements of an array begin decides how much padding is between
them, and so how long the array is.
-/

namespace DBus

open InterfaceHandler (interface getProperty setProperty)
open Message (Succeeded)

namespace Object

variable {H : Type} [InterfaceHandler H] {o o' : Object H} {m : Message}
  {talk : List (Talk H)} {answer : Except Error Message}

/-! ### One call -/

/-- The reply with one property holds the property and nothing else. -/
theorem replyWith_variant {v : Value} (hs : (Value.variant v).Storable)
    (hfits : (Value.variant v).FitsBody (Writer.new .native)) (hdepth : v.variantDepth ≤ 63) :
    ∃ reply, replyWith m .variant (Write.variant v) = .ok reply ∧
      reply.kind = .methodReturn m.serial ∧ reply.signature.text = "v" ∧
        ∃ r, Read.variant reply.reader = .ok v.canonical r ∧ r.isEmpty = true := by
  have hwrite : Write.variant v (Writer.new .native) = _ := Write.value_eq_ok hs hfits
  have hreply : replyWith m .variant (Write.variant v) = .ok (m.methodReturn.withBody .variant
      ((Writer.new .native).append (Value.variant v).layout)) := by
    rw [replyWith, Writer.write, hwrite]
    rfl
  have hread := Read.variant_append hs hfits.fits hdepth .empty
  rw [ByteArray.append_empty] at hread
  exact ⟨_, hreply, rfl, rfl, _, hread, beq_iff_eq.2 (Nat.zero_add _)⟩

/-- Only a call that sets a property and succeeds changes an object. -/
theorem eq_of_ends_handle (keeps : KeepsProperties H) (hm : m.interface = some propertiesInterface)
    (hends : (o.handle m).Ends talk (answer, o'))
    (hset : ¬(m.member? = some "Set" ∧ Succeeded answer)) : o' = o := by
  obtain ⟨outcome, hserved, rfl⟩ := (ends_handle_properties_iff hm).1 hends
  by_cases hmember : m.member? = some "Set"
  · cases hassignment : assignmentOf m with
    | error fault => exact ((ends_handleSet_of_error hmember hassignment).1 hserved).2.2
    | ok assignment =>
      have hassigns := (assignmentOf_eq_ok_iff ⟨hm, hmember⟩).1 hassignment
      obtain ⟨-, -, -, ho⟩ | ⟨front, h, h', behind, result, hfirst, hresult, rfl, rfl⟩ :=
        (ends_handleSet_iff hassigns).1 hserved
      · exact ho
      · cases result with
        | ok _ => exact absurd ⟨hmember, Message.succeeded_methodReturn m⟩ hset
        | error fault =>
          rw [keeps.failed hresult, ← hfirst.split]
  · exact eq_of_ends_handleProperties hmember hserved

/-- A call that sets a property and succeeds changes that property of the first handler of the
interface, and nothing else. -/
theorem changes_of_ends_handle (keeps : KeepsProperties H) (hasks : m.Asks "Set")
    (hends : (o.handle m).Ends talk (answer, o')) (hok : Succeeded answer) :
    ∃ i name value front h h' behind, m.Assigns i name value ∧
      FirstOf i o.handlers front h behind ∧ PropertySet h h' name value ∧
        o' = { o with handlers := front ++ h' :: behind } := by
  obtain ⟨outcome, hserved, rfl⟩ := (ends_handle_properties_iff hasks.interface).1 hends
  have hfault : ∀ fault, outcome ≠ .error fault := by
    rintro fault rfl
    exact (reported_answerTo m fault).not_succeeded hok
  cases hassignment : assignmentOf m with
  | error fault =>
    obtain ⟨-, ho, -⟩ := (ends_handleSet_of_error hasks.member hassignment).1 hserved
    exact absurd ho (hfault fault)
  | ok assignment =>
    have hassigns := (assignmentOf_eq_ok_iff hasks).1 hassignment
    obtain ⟨-, -, ho, -⟩ | ⟨front, h, h', behind, result, hfirst, hresult, rfl, rfl⟩ :=
      (ends_handleSet_iff hassigns).1 hserved
    · exact absurd ho (hfault _)
    · cases result with
      | error fault => exact absurd rfl (hfault fault)
      | ok _ =>
        exact ⟨_, _, _, front, h, h', behind, hassigns, hfirst, keeps.succeeded hresult, rfl⟩

/-- A body that was written is read, if the call succeeds. -/
theorem assigns_of_carries {i name : String} {v : Value} (hasks : m.Asks "Set")
    (hcarries : m.Carries i name v) (hends : (o.handle m).Ends talk (answer, o'))
    (hok : Succeeded answer) : v.variantDepth ≤ 63 ∧ m.Assigns i name v.canonical := by
  obtain ⟨outcome, hserved, rfl⟩ := (ends_handle_properties_iff hasks.interface).1 hends
  have hread := hcarries.laidOut.read
  unfold Read.within at hread
  cases hassignment : assignmentOf m with
  | error fault =>
    obtain ⟨-, rfl, -⟩ := (ends_handleSet_of_error hasks.member hassignment).1 hserved
    exact absurd hok (reported_answerTo m fault).not_succeeded
  | ok assignment =>
    have hassigns := (assignmentOf_eq_ok_iff hasks).1 hassignment
    have hdepth : v.variantDepth + 1 ≤ 64 := by
      by_contra hdeep
      rw [if_neg hdeep, hassigns.read] at hread
      cases hread
    rw [if_pos hdepth] at hread
    exact ⟨Nat.le_of_succ_le_succ hdepth, hasks, hassigns.signature, hread⟩

/-! ### Calls that are refused -/

/-- Why the arguments of a call do not tell a handler: the body has another signature, it cannot be
read, or nobody has the interface that it names. -/
inductive Unfit {α : Type} (o : Object H) (m : Message) (signature : String) (read : Read α)
    (nameOf : α → String) : Fault → Prop
  | signature : m.signature.text ≠ signature →
    Unfit o m signature read nameOf
      (.invalidArgs (Error.unexpectedSignature signature m.signature.text).message)
  | body {e : Error} : m.signature.text = signature → m.reader.run read = .error e →
    Unfit o m signature read nameOf (.ofError e)
  | interface {a : α} : m.signature.text = signature → m.reader.run read = .ok a →
    (∀ h ∈ o.handlers, interface h ≠ nameOf a) →
    Unfit o m signature read nameOf (.unknownInterface (nameOf a))

/-- Why a call of the properties interface fails without anybody being asked. -/
inductive Refused (o : Object H) (m : Message) : Fault → Prop
  | get {fault : Fault} : m.member? = some "Get" → Unfit o m "ss" readNames (·.1) fault →
    Refused o m fault
  | set {fault : Fault} : m.member? = some "Set" → Unfit o m "ssv" readAssignment (·.1) fault →
    Refused o m fault
  | getAll {fault : Fault} : m.member? = some "GetAll" → Unfit o m "s" Read.string id fault →
    Refused o m fault
  | member : m.member?.getD "" ∉ ["Get", "Set", "GetAll"] →
    Refused o m (.unknownMethod (m.member?.getD ""))

theorem Unfit.cases {α : Type} {signature : String} {read : Read α} {nameOf : α → String}
    {fault : Fault} (h : Unfit o m signature read nameOf fault) :
    argumentsRead m signature read = .error fault ∨
      ∃ a, argumentsRead m signature read = .ok a ∧ o.find (nameOf a) = .error fault := by
  cases h with
  | signature hsig =>
    left
    rw [argumentsRead, argumentsOf_eq, if_neg hsig]
    rfl
  | body hsig hread =>
    left
    rw [argumentsRead, argumentsOf_eq, if_pos hsig, ok_bind, hread]
    rfl
  | @interface a hsig hread hnone =>
    exact .inr ⟨a, argumentsRead_eq_ok_iff.2 ⟨hsig, hread⟩, find_eq_error_iff.2 ⟨hnone, rfl⟩⟩

/-- A call that is refused is answered with its fault. -/
theorem reported_of_refused {fault : Fault} (hm : m.interface = some propertiesInterface)
    (hrefused : Refused o m fault) (hends : (o.handle m).Ends talk (answer, o')) :
    m.Reported fault answer := by
  obtain ⟨outcome, hserved, rfl⟩ := (ends_handle_properties_iff hm).1 hends
  suffices h : outcome = .error fault by
    rw [h]
    exact reported_answerTo m fault
  cases hrefused with
  | get hmember hunfit =>
    have hnamed : o.namedProperty m = .error fault := by
      rcases hunfit.cases with h | ⟨names, h, hfind⟩
      · rw [namedProperty, h]
        rfl
      · rw [namedProperty, h, ok_bind]
        simp only [hfind, error_bind]
    rw [handleProperties_get o hmember, run_handleGet, hnamed] at hserved
    exact (Prod.mk.inj (Session.ends_pure_iff.1 hserved).2).1.symm
  | set hmember hunfit =>
    rcases hunfit.cases with h | ⟨⟨i, name, value⟩, h, hfind⟩
    · exact ((ends_handleSet_of_error hmember h).1 hserved).2.1
    · obtain ⟨hnone, rfl⟩ := find_eq_error_iff.1 hfind
      have hassigns := (assignmentOf_eq_ok_iff ⟨hm, hmember⟩).1 h
      rcases (ends_handleSet_iff hassigns).1 hserved with
        ⟨-, -, houtcome, -⟩ | ⟨front, g, g', behind, result, hfirst, -⟩
      · exact houtcome
      · have hmem : g ∈ o.handlers := hfirst.split ▸ List.mem_append_right _ List.mem_cons_self
        exact absurd hfirst.named (hnone g hmem)
  | getAll hmember hunfit =>
    have hnamed : o.namedHandler m = .error fault := by
      rcases hunfit.cases with h | ⟨name, h, hfind⟩
      · rw [namedHandler, h]
        rfl
      · rw [namedHandler, h, ok_bind]
        exact hfind
    rw [handleProperties_getAll o hmember, run_handleGetAll, hnamed] at hserved
    exact (Prod.mk.inj (Session.ends_pure_iff.1 hserved).2).1.symm
  | member hmember =>
    rw [handleProperties_unknown o hmember, Session.ends_pure_iff] at hserved
    exact (Prod.mk.inj hserved.2).1.symm

/-! ### Many calls -/

/-- A call that an object has served, with what was said meanwhile. -/
structure Served (H : Type) where
  message : Message
  talk : List (Talk H)
  answer : Except Error Message

/-- An object serves calls one after the other. -/
inductive Serves : Object H → List (Served H) → Object H → Prop
  | nil (o : Object H) : Serves o [] o
  | cons {o o₁ o₂ : Object H} {call : Served H} {rest : List (Served H)} :
    (o.handle call.message).Ends call.talk (call.answer, o₁) → Serves o₁ rest o₂ →
    Serves o (call :: rest) o₂

/-- A property has a value: when it can be read from the first handler of its interface, it is read
as that. -/
def Stored (o : Object H) (i name : String) (value : Value) : Prop :=
  ∃ h, o.find i = .ok h ∧ ∀ talk v, (getProperty h name).Ends talk (.ok v) → v = value

/-- A handler that takes the place of the first of its interface is the first then. -/
theorem FirstOf.find {i : String} {handlers front behind : List H} {h h' : H}
    (hfirst : FirstOf i handlers front h behind) (heq : interface h' = interface h) :
    ({ o with handlers := front ++ h' :: behind } : Object H).find i = .ok h' :=
  find_eq_ok_iff.2 ⟨front, behind, rfl, hfirst.before, heq.trans hfirst.named⟩

theorem FirstOf.find_of_ne {i j : String} {front behind : List H} {h h' : H}
    (hfirst : FirstOf i o.handlers front h behind) (heq : interface h' = interface h)
    (hne : i ≠ j) :
    ({ o with handlers := front ++ h' :: behind } : Object H).find j = o.find j := by
  have hskip : ∀ (g : H) (rest : List H), interface g = i →
      (g :: rest).find? (fun x => interface x == j) = rest.find? fun x => interface x == j := by
    rintro g rest rfl
    exact List.find?_cons_of_neg (by rwa [beq_iff_eq])
  rw [Object.find, Object.find, hfirst.split, List.find?_append, List.find?_append,
    hskip h' behind (heq.trans hfirst.named), hskip h behind hfirst.named]

/-- A property keeps its value until it is set again. -/
theorem Stored.of_ends_handle (keeps : KeepsProperties H) {i name : String} {value : Value}
    (h : o.Stored i name value) (hm : m.interface = some propertiesInterface)
    (hends : (o.handle m).Ends talk (answer, o'))
    (hother : ∀ v, m.Assigns i name v → ¬Succeeded answer) : o'.Stored i name value := by
  by_cases hset : m.member? = some "Set" ∧ Succeeded answer
  · obtain ⟨j, other, v, front, g, g', behind, hassigns, hfirst, hchange, rfl⟩ :=
      changes_of_ends_handle keeps ⟨hm, hset.1⟩ hends hset.2
    obtain ⟨first, hfind, hvalue⟩ := h
    by_cases hj : j = i
    · subst hj
      have hg : o.find j = .ok g := find_eq_ok_iff.2 ⟨front, behind, hfirst⟩
      obtain rfl : first = g := Except.ok.inj (hfind.symm.trans hg)
      have hname : name ≠ other := by
        rintro rfl
        exact hother v hassigns hset.2
      refine ⟨g', hfirst.find hchange.interface_eq, fun talk v hv => hvalue talk v ?_⟩
      rwa [hchange.others name hname] at hv
    · exact ⟨first, (hfirst.find_of_ne hchange.interface_eq hj).trans hfind, hvalue⟩
  · rw [eq_of_ends_handle keeps hm hends hset]
    exact h

theorem Stored.of_serves (keeps : KeepsProperties H) {i name : String} {value : Value}
    {log : List (Served H)} (hserves : Serves o log o') (h : o.Stored i name value)
    (hproperties : ∀ call ∈ log, call.message.interface = some propertiesInterface)
    (hother : ∀ call ∈ log, ∀ v, call.message.Assigns i name v → ¬Succeeded call.answer) :
    o'.Stored i name value := by
  induction hserves with
  | nil => exact h
  | cons hends _ ih =>
    obtain ⟨hm, hproperties⟩ := List.forall_mem_cons.1 hproperties
    obtain ⟨hcall, hother⟩ := List.forall_mem_cons.1 hother
    exact ih (h.of_ends_handle keeps hm hends hcall) hproperties hother

/-- What the calls of the properties interface do to an object: it is a store of properties. -/
structure PropertyStore (H : Type) [InterfaceHandler H] : Prop where
  /-- Nothing changes unless a property is set and the call succeeds. -/
  unchanged : ∀ {o o' : Object H} {m talk answer}, m.interface = some propertiesInterface →
    (o.handle m).Ends talk (answer, o') → ¬(m.member? = some "Set" ∧ Succeeded answer) → o' = o
  /-- When a property has been set, only the first handler of the interface has changed, and only in
  that property. -/
  changed : ∀ {o o' : Object H} {m talk answer i name v}, m.Asks "Set" → m.Carries i name v →
    (o.handle m).Ends talk (answer, o') → Succeeded answer →
    ∃ value front h h' behind, m.Assigns i name value ∧ FirstOf i o.handlers front h behind ∧
      PropertySet h h' name value ∧ o' = { o with handlers := front ++ h' :: behind }
  /-- A property that has been set is got as the value that was read when it was set, until it is
  set again: if it can be read, and if no array of the value is too long at the start of a body. -/
  kept : ∀ {o o₁ o₂ o₃ : Object H} {m talk answer i name v log} {get : Message} {talk' answer'},
    m.Asks "Set" → m.Carries i name v → (o.handle m).Ends talk (answer, o₁) → Succeeded answer →
    Serves o₁ log o₂ → (∀ call ∈ log, call.message.interface = some propertiesInterface) →
    (∀ call ∈ log, ∀ v, call.message.Assigns i name v → ¬Succeeded call.answer) →
    get.AsksFor i name → (o₂.handle get).Ends talk' (answer', o₃) →
    (∀ h, o₂.find i = .ok h → Readable h name) →
    ∃ value, m.Assigns i name value ∧
      ((Value.variant value).Fits .native 0 → ∃ reply, answer' = .ok reply ∧
        reply.kind = .methodReturn get.serial ∧ reply.signature.text = "v" ∧
          ∃ r, Read.variant reply.reader = .ok value r ∧ r.isEmpty = true)
  /-- A call whose arguments do not tell a handler is answered with a fault. -/
  refused : ∀ {o o' : Object H} {m talk answer fault}, m.interface = some propertiesInterface →
    Refused o m fault → (o.handle m).Ends talk (answer, o') → m.Reported fault answer

/-- An object whose handlers keep their properties is a store of properties. -/
theorem propertyStore_of_keepsProperties (keeps : KeepsProperties H) : PropertyStore H where
  unchanged := eq_of_ends_handle keeps
  changed {o o' m talk answer i name v} hasks hcarries hends hok := by
    obtain ⟨j, other, value, front, h, h', behind, hassigns, hfirst, hchange, rfl⟩ :=
      changes_of_ends_handle keeps hasks hends hok
    have hread := (assigns_of_carries hasks hcarries hends hok).2.read
    rw [hassigns.read] at hread
    obtain ⟨rfl, rfl, -⟩ : j = i ∧ other = name ∧ value = v.canonical := by simpa using hread
    exact ⟨value, front, h, h', behind, hassigns, hfirst, hchange, rfl⟩
  kept {o o₁ o₂ o₃ m talk answer i name v log get talk' answer'} hasks hcarries hends hok hserves
      hproperties hother hget hends' hreadable := by
    obtain ⟨hdepth, hassigns⟩ := assigns_of_carries hasks hcarries hends hok
    refine ⟨v.canonical, hassigns, fun hfits => ?_⟩
    -- right after it was set the property has its value
    have hstored : o₁.Stored i name v.canonical := by
      obtain ⟨j, other, value, front, h, h', behind, hassigns', hfirst, hchange, rfl⟩ :=
        changes_of_ends_handle keeps hasks hends hok
      have hread := hassigns.read
      rw [hassigns'.read] at hread
      obtain ⟨rfl, rfl, rfl⟩ : j = i ∧ other = name ∧ value = v.canonical := by simpa using hread
      exact ⟨h', hfirst.find hchange.interface_eq, hchange.stored⟩
    obtain ⟨h, hfind, hvalue⟩ := Stored.of_serves keeps hserves hstored hproperties hother
    obtain ⟨outcome, hserved, rfl⟩ := (ends_handle_properties_iff hget.asks.interface).1 hends'
    obtain ⟨-, result, hresult, rfl⟩ := (ends_handleGet_iff hget hfind).1 hserved
    cases result with
    | error fault => exact absurd hresult (hreadable h hfind _ _)
    | ok value =>
      obtain rfl := hvalue _ _ hresult
      obtain ⟨hstorable, hbody⟩ := hcarries.fitsBody hfits
      obtain ⟨reply, hreply, hkind, hsig, r, hread, hempty⟩ :=
        replyWith_variant (m := get) hstorable hbody (by rwa [Value.variantDepth_canonical])
      rw [Value.canonical_canonical] at hread
      refine ⟨reply, ?_, hkind, hsig, r, hread, hempty⟩
      rw [ok_bind, hreply]
      rfl
  refused := reported_of_refused

/-! ### An object with one property -/

/-- A handler with one property. -/
def drawer (name signature : String) (value : Option Value) : Script :=
  ⟨"a.b", [], [⟨name, .readWrite, signature, value⟩], 0⟩

/-- The path of an object. -/
def cabinetPath : ObjectPath := ⟨"/cabinet", by decide +kernel⟩

/-- An object with this handler. -/
def cabinet (name signature : String) (value : Option Value) : Object Script :=
  ⟨cabinetPath, [drawer name signature value]⟩

/-- A call of the properties interface of this object. -/
def propertiesCall (member : String) (signature : Signature) (body : ByteArray) : Message :=
  { Message.methodCall cabinetPath member with
    interface := some propertiesInterface, signature, body }

section

variable {name signature : String} {old : Option Value} {value : Value}

theorem find_cabinet : (cabinet name signature old).find "a.b" = .ok (drawer name signature old) :=
  find_eq_ok_iff.2 ⟨[], [], rfl, by simp, rfl⟩

theorem getProperty_drawer : (drawer name signature value).getProperty name = .ok value := by
  simp [drawer, Script.getProperty, Script.property?]

theorem readable_cabinet {h : Script}
    (hfind : (cabinet name signature value).find "a.b" = .ok h) : Readable h name := by
  intro talk fault hfault
  obtain rfl := Except.ok.inj (find_cabinet.symm.trans hfind)
  have hsame := (Script.ends_getProperty_iff.1 hfault).2
  rw [getProperty_drawer] at hsame
  cases hsame

/-- The property is set to a value of its signature. -/
theorem ends_set_cabinet {w : Writer} (hassigns : m.Assigns "a.b" name value)
    (hvalue : Writer.ofValue value signature = .ok w) :
    ((cabinet name signature old).handle m).Ends []
      (.ok m.methodReturn, cabinet name signature value) := by
  have hset : (drawer name signature old).setProperty name value
      = (.ok (), drawer name signature value) := by
    simp [drawer, Script.setProperty, Script.withProperty, Script.property?, hvalue]
  have hfirst : FirstOf "a.b" (cabinet name signature old).handlers [] (drawer name signature old)
      [] := ⟨rfl, by simp, rfl⟩
  exact (ends_handle_properties_iff hassigns.asks.interface).2 ⟨_, (ends_handleSet_iff hassigns).2
    (.inr ⟨[], _, _, [], .ok (), hfirst, Script.ends_setProperty_iff.2 ⟨rfl, hset⟩, rfl, rfl⟩), rfl⟩

theorem ends_get_cabinet (hasks : m.AsksFor "a.b" name) :
    ((cabinet name signature value).handle m).Ends []
      (answerTo m (replyWith m .variant (Write.variant value)), cabinet name signature value) :=
  (ends_handle_properties_iff hasks.asks.interface).2 ⟨_, (ends_handleGet_iff hasks find_cabinet).2
    ⟨rfl, .ok value, Script.ends_getProperty_iff.2 ⟨rfl, getProperty_drawer⟩, rfl⟩, rfl⟩

end

/-- A value that has more padding in front of it behind the names than at the start of a body. -/
def depth : Value := .struct [.byte 7, .int64 (-1)]

/-- Sets the property to this value. -/
def setDepth : Message :=
  propertiesCall "Set" ⟨"ssv", by decide +kernel⟩ ⟨#[3, 0, 0, 0, 97, 46, 98, 0, 1, 0, 0, 0, 80, 0,
    4, 40, 121, 120, 41, 0, 0, 0, 0, 0, 7, 0, 0, 0, 0, 0, 0, 0, 255, 255, 255, 255, 255, 255, 255,
    255]⟩

/-- Gets the property. -/
def getDepth : Message :=
  propertiesCall "Get" ⟨"ss", by decide +kernel⟩
    ⟨#[3, 0, 0, 0, 97, 46, 98, 0, 1, 0, 0, 0, 80, 0]⟩

/-- Asks for something else. -/
def askSize : Message :=
  propertiesCall "Size" .empty .empty

/-- What it is answered with. -/
def noSize : Message :=
  askSize.faultReply (.unknownMethod "Size")

/-- The property is set, something else is asked for, and the property is got. -/
theorem propertyStore_cabinet :
    KeepsProperties Script ∧ setDepth.Carries "a.b" "P" depth ∧
      ((cabinet "P" "(yx)" none).handle setDepth).Ends []
        (.ok setDepth.methodReturn, cabinet "P" "(yx)" depth) ∧
      ((cabinet "P" "(yx)" depth).handle askSize).Ends [] (.ok noSize, cabinet "P" "(yx)" depth) ∧
      ∃ reply, ((cabinet "P" "(yx)" depth).handle getDepth).Ends []
          (.ok reply, cabinet "P" "(yx)" depth) ∧
        ∃ r, Read.variant reply.reader = .ok depth r := by
  have hcarries : setDepth.Carries "a.b" "P" depth := by rfl
  have hassigns : setDepth.Assigns "a.b" "P" depth := ⟨⟨rfl, rfl⟩, rfl, hcarries.laidOut.read⟩
  have hset := @ends_set_cabinet setDepth "P" "(yx)" none depth _ hassigns rfl
  have hask : ((cabinet "P" "(yx)" depth).handle askSize).Ends []
      (.ok noSize, cabinet "P" "(yx)" depth) := by
    refine (ends_handle_properties_iff rfl).2 ⟨.error (.unknownMethod "Size"), ?_, ?_⟩
    · rw [handleProperties_unknown _ (by decide)]
      exact .done _
    · exact (Message.error_eq_ok_iff.2 ⟨by decide, rfl⟩).symm
  have hserves : Serves (cabinet "P" "(yx)" depth) [⟨askSize, [], .ok noSize⟩] _ :=
    .cons hask (.nil _)
  have hread := (@Message.reads_names "a.b" "P" .native 0 (by decide) (by decide)).run
  have hnames : getDepth.AsksFor "a.b" "P" := ⟨⟨rfl, rfl⟩, rfl, hread⟩
  have hget := @ends_get_cabinet getDepth "P" "(yx)" depth hnames
  obtain ⟨value, hvalue, hkept⟩ := (propertyStore_of_keepsProperties Script.keepsProperties).kept
    hassigns.asks hcarries hset (Message.succeeded_methodReturn setDepth) hserves
    (List.forall_mem_singleton.2 rfl)
    (List.forall_mem_singleton.2 fun _ h => absurd h.asks.member (by decide)) hnames hget
    fun _ => readable_cabinet
  obtain rfl : value = depth := by
    have hsame := hvalue.read
    rw [hassigns.read] at hsame
    simpa using hsame.symm
  obtain ⟨reply, hreply, -, -, r, hread, -⟩ := hkept ⟨trivial, trivial, trivial⟩
  rw [hreply] at hget
  exact ⟨Script.keepsProperties, hcarries, hset, hask, reply, hget, r, hread⟩

/-! ### An array that becomes too long -/

section

open Layout Write

/-- A text of some letters. -/
def letters (n : Nat) : String := String.ofList (List.replicate n 'a')

theorem utf8_letters (n : Nat) : Bytes.utf8 (letters n) = List.replicate n 97 := by
  rw [Bytes.utf8_eq_flatMap, letters, String.toList_ofList]
  induction n with
  | zero => rfl
  | succ n ih =>
    rw [List.replicate_succ, List.flatMap_cons, ih]
    rfl

theorem size_letters (n : Nat) : (letters n).toUTF8.size = n := by
  rw [← Bytes.length_utf8, utf8_letters, List.length_replicate]

/-- A number of eight bytes and a text. -/
def wideElements (n : Nat) : List Value := [.variant (.int64 0), .variant (.string (letters n))]

/-- The array of these. -/
def wide (n : Nat) : Value := .array .variant (wideElements n)

theorem storable_wide (n : Nat) : (Value.variant (wide n)).Storable := by
  have hsig : ∀ spelling ∈ ["av", "x", "s"], (Signature.ofString spelling).isOk = true := by
    decide +kernel
  refine ⟨hsig "av" (by simp), ⟨rfl, ⟨hsig "x" (by simp), trivial⟩, rfl,
    ⟨hsig "s" (by simp), ?_⟩, trivial⟩⟩
  show 0 ∉ Bytes.utf8 (letters n)
  rw [utf8_letters]
  exact fun h => absurd (List.eq_of_mem_replicate h) (by decide)

/-- There is more padding in front of the number if the elements begin at a multiple of eight. -/
theorem size_wideElements (n : Nat) (order : ByteOrder) {pos : Nat} (h : 4 ∣ pos) :
    (Value.layouts (wideElements n)).size order pos = (if 8 ∣ pos then 25 else 21) + n := by
  have hx : (Value.int64 0).spelling.toUTF8.size = 1 := by rfl
  have hs : (Value.string (letters n)).spelling.toUTF8.size = 1 := by rfl
  obtain ⟨k, rfl⟩ := h
  simp only [wideElements, Value.layouts, Value.layout, size_append, size_text, size_number,
    size_fixed, hx, hs, size_letters, paddingTo, List.length_nil]
  split <;> omega

theorem size_spelling_wide (n : Nat) (order : ByteOrder) (pos : Nat) :
    (Layout.text 1 (wide n).spelling).size order pos = 4 := by
  have hsize : (wide n).spelling.toUTF8.size = 2 := by rfl
  rw [size_text, hsize, paddingTo]
  omega

theorem allFit_wideElements {n pos : Nat} {order : ByteOrder} (hn : n < UInt32.size) :
    Value.AllFit order pos (wideElements n) :=
  ⟨trivial, by show _ < _; rwa [size_letters], trivial⟩

variable {n : Nat}

/-- The array is written where its elements begin between two multiples of eight. -/
theorem writes_wide {pos : Nat} {order : ByteOrder} (hn : 21 + n ≤ maxArrayLength)
    (hpos : firstElement 1 pos % 8 = 4) :
    Writes order pos (Write.value (wide n)) (wide n).layout ∧
      pos + (wide n).layout.size order pos = firstElement 1 pos + (21 + n) := by
  have hmax : maxArrayLength < UInt32.size := by decide
  have hsize := size_wideElements n order (show 4 ∣ firstElement 1 pos by omega)
  rw [if_neg (by omega)] at hsize
  refine ⟨writes_value (storable_wide n).2 ⟨hsize ▸ hn, allFit_wideElements (by omega)⟩, ?_⟩
  rw [← hsize, wide, Value.layout, size_array, ← Nat.add_assoc, size_array_head]
  rfl

/-- It is too long where they begin at such a multiple, as they do in a variant at the start of a
body. -/
theorem variant_wide_error (hn : maxArrayLength < 25 + n) (hn' : 21 + n ≤ maxArrayLength) :
    ∃ w, Write.variant (wide n) (Writer.new .native) = .error (.arrayTooLong (25 + n)) w := by
  have hmax : maxArrayLength < UInt32.size := by decide
  have hbody : maxArrayLength + 12 ≤ maxBodyLength := by decide
  have htype : Write.typeOf (wide n) (Writer.new .native) = .ok () _ :=
    Writes.typeOf (storable_wide n).1 _ rfl rfl (by rw [size_spelling_wide]; decide)
  have hlength : ((Writer.new .native).append (.text 1 (wide n).spelling)).length = 4 := by
    rw [Writer.length_append, size_spelling_wide]
    rfl
  have hstart : firstElement 1 4 = 8 := by rfl
  have hsize := size_wideElements n .native (show 4 ∣ firstElement 1 4 by decide)
  rw [if_pos (by decide)] at hsize
  have helements : Writes .native (firstElement 1 4) (elements .variant (wideElements n)) _ :=
    writes_elements (storable_wide n).2 (allFit_wideElements (by omega))
  have hvalue := @array_error ((Writer.new .native).append (.text 1 (wide n).spelling)) 1
    (elements .variant (wideElements n)) (Value.layouts (wideElements n))
  rw [hlength] at hvalue
  obtain ⟨w, hw⟩ := hvalue helements (by show _ + (Layout.size _ .native _) ≤ _; omega)
    (by show _ < Layout.size _ .native _; omega)
  refine ⟨w, ?_⟩
  rw [← hsize]
  exact (bind_apply_of_ok htype).trans hw

/-- The property and the array as they are written. -/
def wideBody (n : Nat) : Writer :=
  (Writer.new .native).append (.text 4 "a.b" ++ .text 4 "Prop" ++ (Value.variant (wide n)).layout)

/-- Sets the property to the array. -/
def setWide (n : Nat) : Message :=
  propertiesCall "Set" ⟨"ssv", by decide +kernel⟩ (wideBody n).bytes

/-- Gets the property. -/
def getWide : Message :=
  propertiesCall "Get" ⟨"ss", by decide +kernel⟩
    ⟨#[3, 0, 0, 0, 97, 46, 98, 0, 4, 0, 0, 0, 80, 114, 111, 112, 0]⟩

theorem carries_setWide (hn : 21 + n ≤ maxArrayLength) :
    (setWide n).Carries "a.b" "Prop" (wide n) := by
  have hbody : maxArrayLength + 28 ≤ maxBodyLength := by decide
  obtain ⟨hwide, hend⟩ := @writes_wide n (17 + 4) .native hn (by decide)
  have hnames : (Layout.text 4 "a.b" ++ .text 4 "Prop").size .native 0 = 17 := by rfl
  have hstart : firstElement 1 (17 + 4) = 28 := by rfl
  have hvariant : Writes .native 17 (Write.variant (wide n)) (Value.variant (wide n)).layout :=
    (Writes.typeOf (storable_wide n).1).bind (by rwa [size_spelling_wide])
  have hwrites : Writes .native 0 (do string "a.b"; string "Prop"; Write.variant (wide n))
      (.text 4 "a.b" ++ (.text 4 "Prop" ++ (Value.variant (wide n)).layout)) :=
    (Writes.string (by decide) (by decide)).bind
      ((Writes.string (by decide) (by decide)).bind hvariant)
  rw [← append_assoc] at hwrites
  refine hwrites (Writer.new .native) rfl rfl ?_
  rw [size_append, hnames, Nat.zero_add, Nat.zero_add, Value.layout, size_append,
    size_spelling_wide]
  omega

theorem ofValue_wide (hn : 21 + n ≤ maxArrayLength) :
    ∃ w, Writer.ofValue (wide n) "av" = .ok w := by
  have hbody : maxArrayLength + 4 ≤ maxBodyLength := by decide
  obtain ⟨hwide, hend⟩ := @writes_wide n 0 .native hn (by decide)
  have hstart : firstElement 1 0 = 4 := by rfl
  exact ⟨_, Writer.ofValue_of_write (hwide (Writer.new .native) rfl rfl (by omega)) rfl⟩

/-- A property that has been set cannot be got, though nothing has happened in between and it can be
read: the array is too long for the reply. -/
theorem not_kept_cabinet :
    KeepsProperties Script ∧ (setWide 67108840).Carries "a.b" "Prop" (wide 67108840) ∧
      ((cabinet "Prop" "av" none).handle (setWide 67108840)).Ends []
        (.ok (setWide 67108840).methodReturn, cabinet "Prop" "av" (wide 67108840)) ∧
      getWide.AsksFor "a.b" "Prop" ∧
      (∀ h, (cabinet "Prop" "av" (wide 67108840)).find "a.b" = .ok h → Readable h "Prop") ∧
      ∃ reply, ((cabinet "Prop" "av" (wide 67108840)).handle getWide).Ends []
          (.ok reply, cabinet "Prop" "av" (wide 67108840)) ∧
        reply.errorName? = some "org.freedesktop.DBus.Error.Failed" := by
  have hn : 21 + 67108840 ≤ maxArrayLength := by decide
  have hcarries := carries_setWide hn
  have hassigns : (setWide 67108840).Assigns "a.b" "Prop" (wide 67108840) :=
    ⟨⟨rfl, rfl⟩, rfl, hcarries.laidOut.read⟩
  obtain ⟨_, hvalue⟩ := ofValue_wide hn
  have hread := (@Message.reads_names "a.b" "Prop" .native 0 (by decide) (by decide)).run
  have hnames : getWide.AsksFor "a.b" "Prop" := ⟨⟨rfl, rfl⟩, rfl, hread⟩
  have hreply : replyWith getWide .variant (Write.variant (wide 67108840))
      = .error (.ofError (.arrayTooLong (25 + 67108840))) := by
    obtain ⟨w, hw⟩ := variant_wide_error (by decide) hn
    rw [replyWith, Writer.write, hw]
    rfl
  have hfault : answerTo getWide (.error (.ofError (.arrayTooLong (25 + 67108840))))
      = .ok (getWide.faultReply _) := Message.error_eq_ok_iff.2 ⟨by decide +kernel, rfl⟩
  have hget := @ends_get_cabinet getWide "Prop" "av" (wide 67108840) hnames
  rw [hreply, hfault] at hget
  exact ⟨Script.keepsProperties, hcarries, ends_set_cabinet hassigns hvalue, hnames,
    fun _ => readable_cabinet, _, hget, rfl⟩

end

end Object

end DBus
