import DBus.Proofs.Signature.Reading

/-!
# Joining types

The signature of a list of types is made by putting their spellings one behind the other, whatever
trees they are, and then reading the text. Trees that no signature can spell do not combine with their
neighbours to a text that is read as other trees: what is read from a signature is the list that it
was made of (`ofTypes_eq_ok_iff`), since no two lists of any trees are spelled alike. So a list has a
signature just when each of its types has one and all are short enough together
(`exists_ofTypes_iff`).
-/

namespace DBus

namespace Ty

theorem signatureOf_append (ts us : List Ty) :
    signatureOf (ts ++ us) = signatureOf ts ++ signatureOf us := by
  rw [signatureOf, spellings_append, String.ofList_append]
  rfl

/-- A type is spelled no longer than a list that it is in. -/
theorem utf8ByteSize_signature_le {t : Ty} {ts : List Ty} (h : t ∈ ts) :
    t.signature.utf8ByteSize ≤ (signatureOf ts).utf8ByteSize := by
  obtain ⟨before, behind, rfl⟩ := List.append_of_mem h
  rw [List.append_cons, signatureOf_append, signatureOf_append, signatureOf_singleton,
    String.utf8ByteSize_append, String.utf8ByteSize_append]
  omega

/-- A type is read from some text if it is read from its own signature. -/
theorem exists_parse_iff {t : Ty} :
    (∃ s, parse s = .ok t) ↔ t.signature.utf8ByteSize ≤ 255 ∧ t.WellFormed := by
  constructor
  · rintro ⟨s, hs⟩
    obtain ⟨hlen, hspelled, hwell⟩ := parseAll_sound (parse_eq_ok_iff.1 hs)
    rw [← hspelled, signatureOf_singleton] at hlen
    exact ⟨hlen, hwell t (List.mem_singleton_self t)⟩
  · rintro ⟨hlen, hwell⟩
    rw [← signatureOf_singleton] at hlen
    refine ⟨signatureOf [t], parse_eq_ok_iff.2 (parseAll_signatureOf ?_ hlen)⟩
    exact List.forall_mem_singleton.2 hwell

end Ty

namespace Signature

open Ty

variable {ts : List Ty}

/-- The signature of a list of types is accepted when all together they are well-formed and short
enough. -/
theorem ofTypes_isOk_iff :
    (ofTypes ts).isOk = true ↔
      (signatureOf ts).utf8ByteSize ≤ 255 ∧ ∀ t ∈ ts, t.WellFormed := by
  rw [ofTypes, ofString_isOk_iff]
  constructor
  · rintro ⟨us, hp⟩
    obtain ⟨hlen, hus, hwf⟩ := parseAll_sound hp
    rw [signatureOf_injective hus] at hwf
    exact ⟨hlen, hwf⟩
  · rintro ⟨hlen, hwf⟩
    exact ⟨ts, parseAll_signatureOf hwf hlen⟩

theorem ofTypes_too_long (h : 255 < (signatureOf ts).utf8ByteSize) :
    ofTypes ts = .error .signatureTooLong := by
  have hp : parseAll (signatureOf ts) = .error .signatureTooLong := by
    rw [parseAll, if_pos (by unfold Scan.lengthLimit; omega)]
  unfold ofTypes ofString
  split
  · next us hus => rw [hp] at hus; cases hus
  · next e he => rw [hp] at he; cases he; rfl

/-- A signature is made of the types that are read from it, and of no other trees. -/
theorem ofTypes_eq_ok_iff {g : Signature} : ofTypes ts = .ok g ↔ g.types = ts := by
  constructor
  · intro h
    have htext : g.text = signatureOf ts := text_of_ofString h
    exact signatureOf_injective (g.signatureOf_types.trans htext)
  · rintro rfl
    rw [ofTypes, signatureOf_types, ofString_text]

theorem exists_ofTypes_iff :
    (∃ g, ofTypes ts = .ok g) ↔
      (∀ t ∈ ts, ∃ s, parse s = .ok t) ∧ (signatureOf ts).utf8ByteSize ≤ 255 := by
  have hok : (∃ g, ofTypes ts = .ok g) ↔ (ofTypes ts).isOk = true := by
    cases ofTypes ts with
    | ok g => exact ⟨fun _ => rfl, fun _ => ⟨g, rfl⟩⟩
    | error e => exact ⟨by rintro ⟨g, ⟨⟩⟩, nofun⟩
  rw [hok, ofTypes_isOk_iff]
  constructor
  · rintro ⟨hlen, hwell⟩
    have hshort : ∀ t ∈ ts, t.signature.utf8ByteSize ≤ 255 := fun t ht =>
      Nat.le_trans (utf8ByteSize_signature_le ht) hlen
    exact ⟨fun t ht => exists_parse_iff.2 ⟨hshort t ht, hwell t ht⟩, hlen⟩
  · rintro ⟨hparse, hlen⟩
    exact ⟨hlen, fun t ht => (exists_parse_iff.1 (hparse t ht)).2⟩

/-- If a list of trees has a signature, then this is made of their signatures and the very trees are
read from it. A list has none if one of its trees is not read from any text; it has one if all are,
and if their signatures are short enough together. Signatures of any trees one behind the other can be
told apart. -/
theorem ofTypes_decodes :
    (∀ (ts : List Ty) (g : Signature), ofTypes ts = .ok g →
      g.text = String.join (ts.map Ty.signature) ∧ parseAll g.text = .ok ts ∧ g.types = ts) ∧
    (∀ ts : List Ty, (∃ t ∈ ts, ∀ s, parse s ≠ .ok t) → ∃ e, ofTypes ts = .error e) ∧
    (∀ ts : List Ty, (∀ t ∈ ts, ∃ s, parse s = .ok t) →
      (String.join (ts.map Ty.signature)).utf8ByteSize ≤ 255 → ∃ g, ofTypes ts = .ok g) ∧
    ∀ ts us : List Ty,
      String.join (ts.map Ty.signature) = String.join (us.map Ty.signature) → ts = us := by
  refine ⟨fun ts g h => ?_, fun ts h => ?_, fun ts hparse hlen => ?_, fun ts us h => ?_⟩
  · have htypes : g.types = ts := ofTypes_eq_ok_iff.1 h
    refine ⟨?_, htypes ▸ g.parseAll_text, htypes⟩
    rw [← signatureOf_eq_join, ← htypes, signatureOf_types]
  · obtain ⟨t, ht, hnever⟩ := h
    cases hts : ofTypes ts with
    | error e => exact ⟨e, rfl⟩
    | ok g =>
      obtain ⟨hparse, -⟩ := exists_ofTypes_iff.1 ⟨g, hts⟩
      obtain ⟨s, hs⟩ := hparse t ht
      exact absurd hs (hnever s)
  · rw [← signatureOf_eq_join] at hlen
    exact exists_ofTypes_iff.2 ⟨hparse, hlen⟩
  · rw [← signatureOf_eq_join, ← signatureOf_eq_join] at h
    exact signatureOf_injective h

/-- An array of variants before an entry that stands in no array has no signature. -/
theorem ofTypes_decodes_lostEntry :
    (∃ e, ofTypes [.array .variant, .entry (.basic .string) .variant] = .error e) ∧
      ∃ g, ofTypes [.array .variant, .array (.entry (.basic .string) .variant)] = .ok g ∧
        g.types = [.array .variant, .array (.entry (.basic .string) .variant)] := by
  obtain ⟨hdecodes, hrefused, hjoined, -⟩ := ofTypes_decodes
  have hentry : ∀ s, parse s ≠ .ok (.entry (.basic .string) .variant) := fun s hs =>
    absurd (exists_parse_iff.1 ⟨s, hs⟩).2 (by decide)
  have hdict : ∀ t ∈ [Ty.array .variant, .array (.entry (.basic .string) .variant)],
      ∃ s, parse s = .ok t :=
    List.forall_mem_cons.2 ⟨exists_parse_iff.2 (by decide),
      List.forall_mem_singleton.2 (exists_parse_iff.2 (by decide))⟩
  obtain ⟨g, hg⟩ := hjoined _ hdict (by decide)
  exact ⟨hrefused _ ⟨_, List.mem_cons_of_mem _ List.mem_cons_self, hentry⟩, g, hg,
    (hdecodes _ g hg).2.2⟩

end Signature

end DBus
