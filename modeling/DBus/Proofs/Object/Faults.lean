import DBus.Message
import DBus.Proofs.Wire.RoundTrip
import DBus.Proofs.Wire.Storing

/-!
# Faults as replies

When a fault can be sent, and what the reply with it looks like. The body of the reply is the text
of the fault, so there is no reply only if that text holds a zero byte or is too long for a body.
-/

namespace DBus

/-- Whether the text of a fault can be written into a body: behind its length, and before a zero. -/
def Fault.Sendable (fault : Fault) : Prop :=
  0 ∉ Bytes.utf8 fault.text ∧ 4 + fault.text.toUTF8.size + 1 ≤ maxBodyLength

instance (fault : Fault) : Decidable fault.Sendable :=
  inferInstanceAs (Decidable (_ ∧ _))

/-- That there is no object at a path can be said unless the path is about as long as a body. -/
theorem Fault.sendable_unknownObject_iff {p : ObjectPath} :
    (Fault.unknownObject p.text).Sendable ↔ p.text.toUTF8.size + 27 ≤ maxBodyLength := by
  have htext : Bytes.utf8 (Fault.unknownObject p.text).text =
      Bytes.utf8 "No such object path '" ++ Bytes.utf8 p.text ++ Bytes.utf8 "'" := by
    rw [← Bytes.utf8_append, ← Bytes.utf8_append]
    rfl
  have hnul : 0 ∉ Bytes.utf8 (Fault.unknownObject p.text).text := by
    rw [htext, List.mem_append, List.mem_append]
    rintro ((h | h) | h)
    · exact absurd h (by decide)
    · exact p.zero_not_mem_utf8 h
    · exact absurd h (by decide)
  have hsize : (Fault.unknownObject p.text).text.toUTF8.size = 21 + p.text.toUTF8.size + 1 := by
    rw [← Bytes.length_utf8, htext, List.length_append, List.length_append,
      Bytes.length_utf8 p.text]
    rfl
  rw [Sendable, and_iff_right hnul, hsize]
  omega

namespace Message

/-- The reply that tells a caller of a fault. -/
def faultReply (call : Message) (fault : Fault) : Message :=
  (call.replyTo (.error fault.name call.serial)).withBody .string
    ((Writer.new .native).append (.text 4 fault.text))

theorem length_text (s : String) :
    ((Writer.new .native).append (.text 4 s)).length = 4 + s.toUTF8.size + 1 := by
  rw [Writer.length_append, Layout.size_text]
  show 0 + (paddingTo 4 0 + 4 + (s.toUTF8.size + 1)) = _
  rw [show paddingTo 4 0 = 0 by rfl]
  omega

theorem string_eq_ok_iff_sendable {fault : Fault} {w : Writer} :
    Write.string fault.text (Writer.new .native) = .ok () w ↔
      fault.Sendable ∧ w = (Writer.new .native).append (.text 4 fault.text) := by
  rw [Write.string_eq_ok_iff, Fault.Sendable, ← length_text]
  have hmax : maxBodyLength < UInt32.size := by decide
  constructor
  · rintro ⟨⟨rfl, hle⟩, hnul, -⟩
    exact ⟨⟨hnul, hle⟩, rfl⟩
  · rintro ⟨⟨hnul, hle⟩, rfl⟩
    refine ⟨⟨rfl, hle⟩, hnul, ?_⟩
    rw [length_text] at hle
    omega

/-- A fault that can be sent is answered with the reply that tells of it. -/
theorem error_eq_ok_iff {call reply : Message} {fault : Fault} :
    call.error fault = .ok reply ↔ fault.Sendable ∧ reply = call.faultReply fault := by
  have hwrite : ∀ w, (Writer.new .native).write (Write.string fault.text) = .ok w ↔
      fault.Sendable ∧ w = (Writer.new .native).append (.text 4 fault.text) := by
    intro w
    rw [← string_eq_ok_iff_sendable, Writer.write]
    cases Write.string fault.text (Writer.new .native) <;> simp
  rw [error, bind_eq_ok_iff]
  constructor
  · rintro ⟨w, hw, ⟨⟩⟩
    obtain ⟨hsendable, rfl⟩ := (hwrite w).1 hw
    exact ⟨hsendable, rfl⟩
  · rintro ⟨hsendable, rfl⟩
    exact ⟨_, (hwrite _).2 ⟨hsendable, rfl⟩, rfl⟩

/-- The caller reads the text of the fault. -/
theorem errorText_faultReply {call : Message} {fault : Fault} (h : fault.Sendable) :
    (call.faultReply fault).errorText = fault.text := by
  have hlt : fault.text.toUTF8.size < UInt32.size := by
    have hmax : maxBodyLength < UInt32.size := by decide
    have := h.2
    omega
  have hrun : (call.faultReply fault).reader.run Read.string = .ok fault.text :=
    (Read.Reads.string hlt).run
  have hbody : (call.faultReply fault).bodyOf "s" = .ok (call.faultReply fault).reader := by rfl
  rw [errorText, hbody, ok_bind, hrun]

/-- The caller hears of the fault. -/
theorem intoResult_faultReply {call : Message} {fault : Fault} (h : fault.Sendable)
    (serial : Serial) :
    ((call.faultReply fault).withSerial serial).intoResult
      = .error (.remote fault.name fault.text) := by
  have htext : ((call.faultReply fault).withSerial serial).errorText = fault.text :=
    @errorText_faultReply call fault h
  exact congrArg (fun text => Except.error (Error.remote fault.name text)) htext

/-- How a call is answered with a fault: with a reply that tells of the fault, or not at all because
its text cannot be written. -/
structure Reported (call : Message) (fault : Fault) (result : Except Error Message) : Prop where
  eq_error : result = call.error fault
  sendable : ∀ reply, result = .ok reply → fault.Sendable ∧ reply = call.faultReply fault
  unsendable : ∀ e, result = .error e → ¬fault.Sendable

theorem reported_iff {call : Message} {fault : Fault} {result : Except Error Message} :
    call.Reported fault result ↔ result = call.error fault := by
  refine ⟨Reported.eq_error, ?_⟩
  rintro rfl
  refine ⟨rfl, fun reply h => error_eq_ok_iff.1 h, fun e h hsendable => ?_⟩
  rw [error_eq_ok_iff.2 ⟨hsendable, rfl⟩] at h
  cases h

end Message

end DBus
