import DBus.Message
import DBus.Proofs.Wire.RoundTrip

/-!
# The text of an error reply

The body of an error reply may begin with a text for people. Whoever made the call hears that text if
it is all that the reply holds; if the signature goes on behind it, only the name of the error is
heard, though the text is there and can be read.
-/

namespace DBus

namespace Message

variable {m : Message} {text : String}

/-- The body begins with a text: the number of its bytes in the byte order of the message, the bytes
themselves, and a zero. Anything may stand behind it. -/
structure BeginsWith (m : Message) (text : String) : Prop where
  size_lt : text.toUTF8.size < UInt32.size
  body : m.order.encode 4 text.toUTF8.size ++ (Bytes.utf8 text ++ [0]) <+: m.body.data.toList

theorem reader_holds (m : Message) : m.reader.Holds m.body.data.toList := by
  refine ⟨?_, List.take_length⟩
  rw [Bytes.length_toList]
  exact (Nat.zero_add _).symm

/-- The text at the beginning of a body can be read, whatever the signature says. -/
theorem BeginsWith.run_string (h : m.BeginsWith text) : m.reader.run Read.string = .ok text := by
  obtain ⟨rest, hrest⟩ := h.body
  have hholds : m.reader.Holds ((Layout.text 4 text).bytesAt m.order 0 ++ rest) := by
    have hbytes : (Layout.text 4 text).bytesAt m.order 0 ++ rest = m.body.data.toList := hrest
    rw [hbytes]
    exact m.reader_holds
  rw [Reader.run, show Read.string m.reader = _ from Read.Reads.string h.size_lt _ rest rfl rfl hholds]

/-- A signature is that of a text when its first type is a string and no other follows. -/
theorem text_eq_iff {g : Signature} {rest : List Ty} (h : g.types = .basic .string :: rest) :
    g.text = "s" ↔ rest = [] := by
  have hstring : Ty.signatureOf [.basic .string] = "s" := rfl
  rw [← g.signatureOf_types, ← hstring, h]
  exact ⟨fun heq => (List.cons.inj (Ty.signatureOf_injective heq)).2, fun heq => by rw [heq]⟩

theorem errorText_of_beginsWith {rest : List Ty} (hfirst : m.signature.types = .basic .string :: rest)
    (hbegins : m.BeginsWith text) : m.errorText = if rest = [] then text else "" := by
  unfold errorText bodyOf
  by_cases h : rest = []
  · rw [if_pos ((text_eq_iff hfirst).2 h), ok_bind, hbegins.run_string, if_pos h]
  · rw [if_neg (mt (text_eq_iff hfirst).1 h), error_bind, if_neg h]

/-- An error reply whose first argument is a text: the caller hears the text just if nothing is said
of other arguments, or the text is empty. Otherwise the name of the error is all that is heard. -/
theorem intoResult_remote_iff {name : String} {serial : Option Serial} {rest : List Ty}
    (hkind : m.kind = .error name serial) (hfirst : m.signature.types = .basic .string :: rest)
    (hbegins : m.BeginsWith text) :
    (m.intoResult = .error (.remote name text) ↔ rest = [] ∨ text = "") ∧
      (rest ≠ [] → m.intoResult = .error (.remote name "")) := by
  have hresult : m.intoResult = .error (.remote name (if rest = [] then text else "")) := by
    rw [intoResult, hkind]
    exact congrArg (fun t => Except.error (Error.remote name t))
      (errorText_of_beginsWith hfirst hbegins)
  rw [hresult]
  by_cases h : rest = []
  · simp [h]
  · simp [h, eq_comm]

/-- A reply with a text and a number behind it. -/
def numberedFailure : Message where
  kind := .error "org.example.Failed" none
  signature := ⟨"su", by decide +kernel⟩
  order := .little
  body := ⟨#[4, 0, 0, 0, 108, 111, 115, 116, 0, 0, 0, 0, 7, 0, 0, 0]⟩

theorem intoResult_remote_numbered :
    numberedFailure.kind = .error "org.example.Failed" none ∧
      numberedFailure.signature.types = [.basic .string, .basic .uint32] ∧
      numberedFailure.BeginsWith "lost" ∧
      numberedFailure.intoResult = .error (.remote "org.example.Failed" "") := by
  have hfirst : numberedFailure.signature.types = [.basic .string, .basic .uint32] := by decide +kernel
  have hbegins : numberedFailure.BeginsWith "lost" := ⟨by decide, by decide⟩
  exact ⟨rfl, hfirst, hbegins, (intoResult_remote_iff rfl hfirst hbegins).2 (by decide)⟩

/-- The text is in the reply and not in what the caller hears. -/
theorem numberedFailure_loses_text :
    numberedFailure.BeginsWith "lost" ∧
      numberedFailure.intoResult ≠ .error (.remote "org.example.Failed" "lost") := by
  refine ⟨⟨by decide, by decide⟩, ?_⟩
  rw [show numberedFailure.intoResult = .error (.remote "org.example.Failed" "") by rfl]
  simp

end Message

end DBus
