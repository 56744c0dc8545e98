import DBus.Bus
import DBus.Object.Properties
import DBus.Object.Script
import DBus.Proofs.Wire.RoundTrip

/-!
# Property changes on the wire

A map of properties is written entry by entry, without going through values. It is the same as writing
the dict of texts and variants that has these entries, at any place of any body, also when the writing
fails half-way. So the signal that tells of changes is three values one behind the other, and whoever
asked for it reads what was told.
-/

namespace DBus

/-! ### Property maps as values -/

namespace PropertyMap

/-- The dict that a map is, with every value in a variant. -/
def toValue (m : PropertyMap) : Value :=
  .dict (.basic .string) .variant (m.entries.map fun e => (.string e.1, .variant e.2))

/-- The map with dicts in the place of arrays that would have dict entries as elements. -/
def canonical (m : PropertyMap) : PropertyMap where
  entries := m.entries.map fun e => (e.1, e.2.canonical)
  ascending := List.pairwise_map.2 (show m.entries.Pairwise fun a b => a.1 < b.1 from m.ascending)

theorem canonical_toValue (m : PropertyMap) : m.toValue.canonical = m.canonical.toValue := by
  have hentries : ∀ entries : List (String × Value),
      Value.canonicalEntries (entries.map fun e => (.string e.1, .variant e.2))
        = (entries.map fun e => (e.1, e.2.canonical)).map fun e => (.string e.1, .variant e.2) := by
    intro entries
    induction entries with
    | nil => rfl
    | cons e rest ih =>
      rw [List.map_cons, Value.canonicalEntries, ih]
      rfl
  exact congrArg (Value.dict _ _) (hentries m.entries)

/-- The variants of a map are those of its values, and one around each. -/
theorem variantDepth_toValue_le_iff (m : PropertyMap) (n : Nat) :
    m.toValue.variantDepth ≤ n ↔ ∀ e ∈ m.entries, e.2.variantDepth + 1 ≤ n := by
  have hentries : ∀ entries : List (String × Value),
      Value.entryDepths (entries.map fun e => (.string e.1, .variant e.2)) ≤ n ↔
        ∀ e ∈ entries, e.2.variantDepth + 1 ≤ n := by
    intro entries
    induction entries with
    | nil => simp [Value.entryDepths]
    | cons e rest ih =>
      simp only [List.map_cons, Value.entryDepths, Value.variantDepth, Nat.zero_max, Nat.max_le, ih,
        List.forall_mem_cons]
  exact hentries m.entries

end PropertyMap

/-- The array that texts are. -/
def Value.texts (names : List String) : Value :=
  .array (.basic .string) (names.map .string)

namespace Value

theorem canonical_texts (names : List String) : (texts names).canonical = texts names := by
  have htexts : ∀ names : List String, canonicals (names.map .string) = names.map .string := by
    intro names
    induction names with
    | nil => rfl
    | cons s rest ih =>
      rw [List.map_cons, canonicals, ih]
      rfl
  cases names with
  | nil => rfl
  | cons s rest => exact congrArg (Value.array _) (htexts (s :: rest))

theorem variantDepth_texts (names : List String) : (texts names).variantDepth = 0 := by
  have htexts : ∀ names : List String, variantDepths (names.map .string) = 0 := by
    intro names
    induction names with
    | nil => rfl
    | cons s rest ih =>
      rw [List.map_cons, variantDepths, ih]
      rfl
  exact htexts names

end Value

/-! ### Writing -/

namespace Write

theorem checkType_eq_pure {v : Value} {t : Ty} (h : v.hasType t = true) :
    checkType v t = pure () := by
  rw [checkType, if_pos h]

/-- The entries of a map are written as those of a dict; their types are what the dict declares. -/
theorem namedValues_eq_entries (entries : List (String × Value)) :
    namedValues entries = Write.entries (.basic .string) .variant
      (entries.map fun e => (.string e.1, .variant e.2)) := by
  induction entries with
  | nil => rfl
  | cons e rest ih =>
    have hname : checkType (.string e.1) (.basic .string) = pure () := checkType_eq_pure rfl
    have hvalue : checkType (.variant e.2) .variant = pure () := checkType_eq_pure rfl
    rw [namedValues, List.map_cons, Write.entries, hname, hvalue, pure_bind, pure_bind, ih]
    rfl

/-- A map of properties is written as the dict that it is. -/
theorem propertyMap_eq_value (m : PropertyMap) : propertyMap m = value m.toValue := by
  rw [propertyMap, PropertyMap.toValue, value, namedValues_eq_entries]

theorem strings_eq_elements (names : List String) :
    strings names = elements (.basic .string) (names.map .string) := by
  induction names with
  | nil => rfl
  | cons s rest ih =>
    have htype : checkType (.string s) (.basic .string) = pure () := checkType_eq_pure rfl
    rw [strings, List.map_cons, elements, htype, pure_bind, ih]
    rfl

/-- What the signal of some changes holds. -/
def changes (interface : String) (changed : PropertyMap) (invalidated : List String) : List Value :=
  [.string interface, changed.toValue, .texts invalidated]

theorem propertyChanges_eq_values (interface : String) (changed : PropertyMap)
    (invalidated : List String) :
    propertyChanges interface changed invalidated
      = values (changes interface changed invalidated) := by
  have hnames : (do let a ← arrayStart 4; strings invalidated; arrayEnd a : Write Unit)
      = value (.texts invalidated) := by
    rw [Value.texts, value, strings_eq_elements]
    rfl
  rw [propertyChanges, hnames, propertyMap_eq_value]
  show _ = value (.string interface) >>= fun _ => value changed.toValue >>= fun _ =>
    value (.texts invalidated) >>= fun _ => pure ()
  simp only [value, bind_pure_unit]

end Write

/-! ### Reading -/

namespace Read

/-- Reads a value of each of some types. -/
def values (types : List Ty) : Read (List Value) :=
  typedAll variant types

/-- Values that were written into a body of their own are all that is read from it, if no more than 64
variants are nested in one another. -/
theorem values_of_write {vs : List Value} {order : ByteOrder} {w : Writer}
    (hshape : Ty.areShaped (Value.tys vs) = true)
    (hwrite : Write.values vs (Writer.new order) = .ok () w) :
    if Value.variantDepths vs ≤ 64 then
      ∃ r, values (Value.tys vs) (Reader.new order w.bytes) = .ok (Value.canonicals vs) r ∧
        r.isEmpty = true
    else ∃ r, values (Value.tys vs) (Reader.new order w.bytes) = .error .variantTooDeep r := by
  obtain ⟨rfl, hstorable, hfit⟩ := Write.values_ok hwrite
  have hread := reads_fields 64 hshape hstorable hfit
  have hholds := holds_whole order (Value.layouts vs)
  have hr := hread _ _ rfl rfl hholds
  split
  · next hle =>
    rw [within, if_pos hle] at hr
    exact ⟨_, hr, (Reader.isEmpty_iff hholds.skip).2 rfl⟩
  · next hgt =>
    rw [within, if_neg hgt] at hr
    exact hr

end Read

namespace Message

variable {path : ObjectPath} {interface : String} {changed : PropertyMap} {invalidated : List String}

/-- A message tells of changes: it is the signal for them, and its body is read as the name of the
interface, the map and the names, with nothing left over, if no more than 64 variants are nested in
one another, that around each value included. -/
structure TellsOf (m : Message) (path : ObjectPath) (interface : String) (changed : PropertyMap)
    (invalidated : List String) : Prop where
  kind : m.kind = .signal path "PropertiesChanged"
  from_properties : m.interface = some propertiesInterface
  signature : m.signature.text = "sa\x7bsv\x7das"
  types : m.signature.types
    = [.basic .string, .array (.entry (.basic .string) .variant), .array (.basic .string)]
  body : if ∀ e ∈ changed.entries, e.2.variantDepth + 1 ≤ 64 then
      ∃ r, Read.values m.signature.types m.reader
          = .ok [.string interface, changed.canonical.toValue, .texts invalidated] r ∧
        r.isEmpty = true
    else ∃ r, Read.values m.signature.types m.reader = .error .variantTooDeep r

/-- The signal with a body. -/
def changesSignal (path : ObjectPath) (body : Writer) : Message :=
  { Message.signal path "PropertiesChanged" with
    interface := some propertiesInterface }.withBody .propertyChanges body

/-- The signal can be made just if its three values can be written. -/
theorem propertiesChanged_eq_map :
    propertiesChanged path interface changed invalidated
      = ((Writer.new .native).write (Write.values (Write.changes interface changed invalidated))).map
        (changesSignal path) := by
  rw [propertiesChanged, Write.propertyChanges_eq_values]
  cases (Writer.new .native).write _ <;> rfl

theorem types_propertyChanges : Signature.propertyChanges.types
    = [.basic .string, .array (.entry (.basic .string) .variant), .array (.basic .string)] := by
  decide +kernel

theorem variantDepths_changes_le_iff {n : Nat} :
    Value.variantDepths (Write.changes interface changed invalidated) ≤ n ↔
      ∀ e ∈ changed.entries, e.2.variantDepth + 1 ≤ n := by
  rw [← changed.variantDepth_toValue_le_iff]
  simp only [Write.changes, Value.variantDepths, Value.variantDepth, Value.variantDepth_texts,
    Nat.zero_max, Nat.max_zero]

theorem canonicals_changes :
    Value.canonicals (Write.changes interface changed invalidated)
      = [.string interface, changed.canonical.toValue, .texts invalidated] := by
  simp only [Write.changes, Value.canonicals, changed.canonical_toValue, Value.canonical_texts]
  rfl

theorem tellsOf_changesSignal {w : Writer} (path : ObjectPath)
    (h : (Writer.new .native).write (Write.values (Write.changes interface changed invalidated))
      = .ok w) (serial : Serial) :
    ((changesSignal path w).withSerial serial).TellsOf path interface changed invalidated := by
  have hwrite : Write.values (Write.changes interface changed invalidated) (Writer.new .native)
      = .ok () w := by
    rw [Writer.write] at h
    cases hw : Write.values (Write.changes interface changed invalidated) (Writer.new .native) with
    | ok _ w' => rw [hw] at h; rw [Except.ok.inj h]
    | error e w' => rw [hw] at h; cases h
  have horder : w.order = .native := by
    rw [(Write.values_ok hwrite).1]
    rfl
  have hshape : Ty.areShaped (Value.tys (Write.changes interface changed invalidated)) = true := by
    rfl
  have hread := Read.values_of_write hshape hwrite
  rw [canonicals_changes] at hread
  simp only [variantDepths_changes_le_iff] at hread
  have htypes : ((changesSignal path w).withSerial serial).signature.types
      = Value.tys (Write.changes interface changed invalidated) := types_propertyChanges
  have hreader : ((changesSignal path w).withSerial serial).reader
      = Reader.new .native w.bytes := by rw [← horder]; rfl
  refine ⟨rfl, rfl, rfl, types_propertyChanges, ?_⟩
  rw [htypes, hreader]
  exact hread

end Message

/-! ### Telling -/

/-- Whether a rule asks for the changes of an object. -/
def MatchRule.AsksForChanges (rule : MatchRule) (path : ObjectPath) : Prop :=
  rule.interface = propertiesInterface ∧ rule.member = "PropertiesChanged" ∧
    ∀ p ∈ rule.path, p = path

instance (rule : MatchRule) (path : ObjectPath) : Decidable (rule.AsksForChanges path) :=
  inferInstanceAs (Decidable (_ ∧ _ ∧ _))

theorem MatchRule.accepts_eq_decide {rule : MatchRule} {path : ObjectPath} {m : Message}
    (hkind : m.kind = .signal path "PropertiesChanged")
    (hinterface : m.interface = some propertiesInterface) :
    rule.accepts m = decide (rule.AsksForChanges path) := by
  rw [accepts, hkind, hinterface, Bool.eq_iff_iff, decide_eq_true_iff, AsksForChanges,
    eq_comm (a := rule.interface), eq_comm (a := rule.member)]
  cases rule.path <;> simp [and_assoc]

namespace Bus

variable {H : Type}

/-- The bus after a signal, given who wants it: the signal waits behind the others in each open
subscription that wants it, and those that have been given up are gone. -/
theorem emit_eq (b : Bus H) (m : Message) :
    b.emit m = { b with
      lastSerial := b.nextSerial.1.number
      subscriptions := (b.subscriptions.filter (·.isOpen)).map fun s =>
        if s.rule.accepts (m.withSerial b.nextSerial.1)
        then { s with queue := s.queue ++ [m.withSerial b.nextSerial.1] } else s } := by
  have hoffered : ∀ subscriptions : List Subscription,
      subscriptions.filterMap (Subscription.offered (m.withSerial b.nextSerial.1))
        = (subscriptions.filter (·.isOpen)).map fun s =>
          if s.rule.accepts (m.withSerial b.nextSerial.1)
          then { s with queue := s.queue ++ [m.withSerial b.nextSerial.1] } else s := by
    intro subscriptions
    induction subscriptions with
    | nil => rfl
    | cons s rest ih =>
      cases hopen : s.isOpen <;>
        by_cases haccepts : s.rule.accepts (m.withSerial b.nextSerial.1) <;>
          simp [Subscription.offered, hopen, haccepts, ih]
  rw [← hoffered]
  rfl

/-- A signal has been sent that tells of changes of an object: everybody who has asked for them and
still takes signals gets it, behind what waits already, and nothing else has happened but that one
more message has been numbered. -/
def Told (b : Bus H) (path : ObjectPath) (signal : Message) (b' : Bus H) : Prop :=
  b' = { b with
    lastSerial := b.nextSerial.1.number
    subscriptions := (b.subscriptions.filter (·.isOpen)).map fun s =>
      if s.rule.AsksForChanges path then { s with queue := s.queue ++ [signal] } else s }

end Bus

/-- A map of properties is written as the dict of texts and variants that it is, whatever has been
written before and whether or not it can be written. So changes are told just if they can be written
as three values: then everybody who has asked for the changes of the object gets a signal from which
they are read, and otherwise nothing happens on the bus. -/
theorem emitPropertiesChanged_tells {H : Type} [InterfaceHandler H] (path : ObjectPath)
    (interface : String) (changed : PropertyMap) (invalidated : List String) (b : Bus H) :
    Write.propertyMap changed = Write.value changed.toValue ∧
      ∃ outcome b',
        Exchange.run (Session.emitPropertiesChanged path interface changed invalidated) b
          = some (outcome, b') ∧
        match (Writer.new .native).write
          (Write.values [.string interface, changed.toValue, .texts invalidated]) with
        | .error e => outcome = .error e ∧ b' = b
        | .ok _ => outcome = .ok () ∧
          ∃ signal : Message, signal.TellsOf path interface changed invalidated ∧
            b.Told path signal b' := by
  refine ⟨Write.propertyMap_eq_value changed, ?_⟩
  show ∃ outcome b', _ ∧ match (Writer.new .native).write
    (Write.values (Write.changes interface changed invalidated)) with | .error e => _ | .ok _ => _
  rw [Session.emitPropertiesChanged, Message.propertiesChanged_eq_map]
  cases h : (Writer.new .native).write
      (Write.values (Write.changes interface changed invalidated)) with
  | error e => exact ⟨_, b, rfl, rfl, rfl⟩
  | ok w =>
    have htells := Message.tellsOf_changesSignal path h b.nextSerial.1
    refine ⟨_, b.emit (Message.changesSignal path w), rfl, rfl, _, htells, ?_⟩
    rw [Bus.Told, Bus.emit_eq]
    simp only [MatchRule.accepts_eq_decide htells.kind htells.from_properties, decide_eq_true_eq]

/-- The path of an object that counts. -/
def counterPath : ObjectPath := ⟨"/counter", by decide +kernel⟩

/-- The count has changed. -/
def counted : PropertyMap := PropertyMap.empty.insert "Count" (.uint32 1)

/-- A bus on which somebody asks for all changes, and somebody else for those of another object. -/
def listening : Bus Script where
  subscriptions :=
    [{ id := 0, rule := { interface := propertiesInterface, member := "PropertiesChanged" } },
      { id := 1,
        rule := { interface := propertiesInterface, member := "PropertiesChanged",
                  path := some .root } }]
  nextSubscription := 2

/-- The first of them gets the signal and reads it. -/
theorem emitPropertiesChanged_tells_counted :
    ∃ b' signal r,
      Exchange.run (Session.emitPropertiesChanged counterPath "org.example" counted ["Other"])
        listening = some (.ok (), b') ∧
      b'.subscriptions.map (·.queue) = [[signal], []] ∧
      Read.values signal.signature.types signal.reader
        = .ok [.string "org.example", counted.toValue, .texts ["Other"]] r ∧
      r.isEmpty = true := by
  obtain ⟨-, outcome, b', hrun, htold⟩ :=
    emitPropertiesChanged_tells counterPath "org.example" counted ["Other"] listening
  have hwrite : (Writer.new .native).write
      (Write.values [.string "org.example", counted.toValue, .texts ["Other"]])
        = .ok ⟨.native, ⟨#[11, 0, 0, 0, 111, 114, 103, 46, 101, 120, 97, 109, 112, 108, 101, 0, 20, 0,
            0, 0, 0, 0, 0, 0, 5, 0, 0, 0, 67, 111, 117, 110, 116, 0, 1, 117, 0, 0, 0, 0, 1, 0, 0, 0,
            10, 0, 0, 0, 5, 0, 0, 0, 79, 116, 104, 101, 114, 0]⟩⟩ := by rfl
  rw [hwrite] at htold
  obtain ⟨rfl, signal, htells, htold⟩ := htold
  have hbody := htells.body
  rw [if_pos (by decide)] at hbody
  obtain ⟨r, hread, hempty⟩ := hbody
  refine ⟨b', signal, r, hrun, ?_, hread, hempty⟩
  rw [htold]
  rfl

/-! ### What is not read as it was told -/

/-- A property whose value is an array that could only hold the entries of a dict. -/
def entryless : PropertyMap :=
  PropertyMap.empty.insert "P" (.array (.entry (.basic .string) .variant) [])

/-- A byte in some variants. -/
def Value.wrapped : Nat → Value
  | 0 => .byte 0
  | n + 1 => .variant (wrapped n)

/-- A property whose value is nested as deeply as variants are followed. -/
def deepest : PropertyMap := PropertyMap.empty.insert "P" (.wrapped 64)

/-- What is read of a signal that was sent. -/
theorem body_of_write (path : ObjectPath) (interface : String) (changed : PropertyMap)
    (h : (failure? ((Writer.new .native).write
      (Write.values (Write.changes interface changed [])))).isNone = true) :
    ∃ signal, Message.propertiesChanged path interface changed [] = .ok signal ∧
      (signal.withSerial default).TellsOf path interface changed [] := by
  obtain ⟨w, hw⟩ := failure?_eq_none_iff.1 (Option.isNone_iff_eq_none.1 h)
  exact ⟨_, by rw [Message.propertiesChanged_eq_map, hw]; rfl, Message.tellsOf_changesSignal path hw _⟩

/-- An array without entries is read as a dict without entries. And of 64 variants the innermost is
not reached, as there is another one around them. -/
theorem propertiesChanged_not_read_back :
    (∃ signal r,
      Message.propertiesChanged counterPath "org.example" entryless [] = .ok signal ∧
      Read.values signal.signature.types signal.reader
        = .ok [.string "org.example",
            .dict (.basic .string) .variant
              [(.string "P", .variant (.dict (.basic .string) .variant []))], .texts []] r ∧
      entryless.toValue ≠ .dict (.basic .string) .variant
        [(.string "P", .variant (.dict (.basic .string) .variant []))]) ∧
      (Value.wrapped 64).variantDepth = 64 ∧
      (∃ signal r,
        Message.propertiesChanged counterPath "org.example" deepest [] = .ok signal ∧
        Read.values signal.signature.types signal.reader = .error .variantTooDeep r) := by
  refine ⟨?_, rfl, ?_⟩
  · obtain ⟨signal, hsignal, htells⟩ := body_of_write counterPath "org.example" entryless
      (by decide +kernel)
    have hbody := htells.body
    rw [if_pos (by decide)] at hbody
    obtain ⟨r, hread, -⟩ := hbody
    exact ⟨signal, r, hsignal, hread, by simp [PropertyMap.toValue, entryless, PropertyMap.insert,
      PropertyMap.insertEntry, PropertyMap.empty]⟩
  · obtain ⟨signal, hsignal, htells⟩ := body_of_write counterPath "org.example" deepest
      (by decide +kernel)
    have hbody := htells.body
    rw [if_neg (by decide)] at hbody
    obtain ⟨r, hread⟩ := hbody
    exact ⟨signal, r, hsignal, hread⟩

end DBus
