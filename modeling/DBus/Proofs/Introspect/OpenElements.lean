import DBus.Introspect.Load
import DBus.Proofs.Steps

/-!
# Elements that are left open

The stack of a load holds the elements that have started and not ended. A document is judged by its
tokens alone: whatever tokens were loaded without a problem make a document, as soon as the root has
started and whether or not it has ended. So what is left of a document that was cut describes the
interfaces that had ended by then.
-/

namespace DBus.Introspect

open DBus.Markup (Token)

/-- Whether an element starts with a token. -/
def isStart : Token → Bool
  | .start _ => true
  | _ => false

/-- Whether an element ends with a token. -/
def isEnd : Token → Bool
  | .closedEmpty | .close _ => true
  | _ => false

/-- The first tokens of a document, up to a place between two tokens or inside of a text. -/
inductive Cut : List Token → List Token → Prop where
  | nil {ts : List Token} : Cut [] ts
  | text {s t : String} {ts : List Token} (h : s.toList <+: t.toList) :
    Cut [.text s] (.text t :: ts)
  | cons {t : Token} {cs ts : List Token} (h : Cut cs ts) : Cut (t :: cs) (t :: ts)

namespace Load

variable {s s' : Load}

/-! ### One token -/

theorem startElement_eq_ok {name : String} (h : s.startElement name = .ok s') :
    ∃ opened, s' = { s with
      stack := opened :: s.stack, path := enter s.path name
      seenRoot := s.seenRoot || s.stack.isEmpty } := by
  unfold startElement at h
  cases hstack : s.stack with
  | nil =>
    simp only [hstack] at h
    split at h
    · cases h
      exact ⟨.node, by simp⟩
    · cases h
  | cons top below =>
    simp only [hstack] at h
    split at h
    · next opened _ =>
      cases h
      exact ⟨opened, by simp⟩
    · cases h

/-- Only the element that ends leaves the stack. -/
theorem length_of_handDown {top : Opened} {below stack : List Opened} {name : Option String}
    {ended : List Interface} (h : handDown top below name = .ok (stack, ended)) :
    stack.length = below.length := by
  unfold handDown at h
  split at h
  -- the cases differ in how many checks come before the stack is handed down
  all_goals simp only [bind_eq_ok_iff, pure, Except.pure, Except.ok.injEq, Prod.mk.injEq,
    reduceCtorEq] at h
  case h_1 =>
    obtain ⟨rfl, -⟩ := h
    rfl
  all_goals first
    | obtain ⟨_, _, rfl, -⟩ := h
      rfl
    | obtain ⟨_, _, _, _, rfl, -⟩ := h
      rfl
    | obtain ⟨_, _, _, _, _, _, rfl, -⟩ := h
      rfl

theorem endElement_eq_ok {name : Option String} (h : s.endElement name = .ok s') :
    ∃ stack ended, s' = { s with
        stack, path := leave s.path, interfaces := s.interfaces ++ ended } ∧
      stack.length + 1 = s.stack.length := by
  unfold endElement at h
  cases hstack : s.stack with
  | nil =>
    simp only [hstack] at h
    cases h
  | cons top below =>
    simp only [hstack] at h
    obtain ⟨⟨stack, ended⟩, hhand, ⟨⟩⟩ := bind_eq_ok_iff.1 h
    exact ⟨stack, ended, rfl, congrArg (· + 1) (length_of_handDown hhand)⟩

theorem change_eq_ok {f : Opened → Except Problem Opened} {outside : Except Problem Unit}
    (h : s.change f outside = .ok s') :
    ∃ stack, s' = { s with stack } ∧ stack.length = s.stack.length := by
  unfold change at h
  cases hstack : s.stack with
  | nil =>
    simp only [hstack] at h
    obtain ⟨_, _, ⟨⟩⟩ := bind_eq_ok_iff.1 h
    exact ⟨[], by rw [← hstack], rfl⟩
  | cons top below =>
    simp only [hstack] at h
    obtain ⟨top', _, ⟨⟩⟩ := bind_eq_ok_iff.1 h
    exact ⟨top' :: below, rfl, rfl⟩

/-- The first token of a run has no problem, and neither has the rest. -/
theorem run_cons_eq_ok_iff {t : Token} {ts : List Token} :
    s.run (t :: ts) = .ok s' ↔ ∃ s₁, s.token t = .ok s₁ ∧ s₁.run ts = .ok s' := by
  rw [run]
  cases s.token t with
  | ok s₁ =>
    constructor
    · intro h
      exact ⟨s₁, rfl, h⟩
    · rintro ⟨_, ⟨⟩, h⟩
      exact h
  | error problem =>
    constructor
    · intro h
      cases h
    · rintro ⟨_, ⟨⟩, -⟩

theorem run_append (s : Load) (ts us : List Token) :
    s.run (ts ++ us) = s.run ts >>= fun s' => s'.run us := by
  induction ts generalizing s with
  | nil => rfl
  | cons t ts ih =>
    rw [List.cons_append, run, run]
    cases s.token t with
    | ok s' => exact ih s'
    | error problem => rfl

/-- What every token keeps of a load, and of the tokens behind it, is kept by a run. -/
theorem run_keeps {P : List Token → Load → Prop}
    (htoken : ∀ {ts t s s'}, P ts s → s.token t = .ok s' → P (ts ++ [t]) s') (ts : List Token)
    {us : List Token} (hs : P ts s) (h : s.run us = .ok s') : P (ts ++ us) s' := by
  induction us generalizing ts s with
  | nil =>
    cases h
    rwa [List.append_nil]
  | cons t us ih =>
    obtain ⟨s₁, ht, h⟩ := run_cons_eq_ok_iff.1 h
    have hus := ih (ts ++ [t]) (htoken hs ht) h
    rwa [List.append_assoc, List.singleton_append] at hus

/-! ### Open elements -/

/-- A load that some tokens have led to: the open elements are those that have started and not
ended, and the root has started if anything has. -/
structure After (ts : List Token) (s : Load) : Prop where
  length_stack : s.stack.length + ts.countP isEnd = ts.countP isStart
  seenRoot_iff : s.seenRoot = true ↔ 0 < ts.countP isStart
  path_eq : ts.countP isStart = 0 → s.path = ""

theorem After.start : After [] start :=
  ⟨rfl, by decide, fun _ => rfl⟩

/-- One more token. -/
theorem After.token {ts : List Token} {t : Token} (hs : After ts s) (h : s.token t = .ok s') :
    After (ts ++ [t]) s' := by
  obtain ⟨hstack, hroot, hpath⟩ := hs
  cases t with
  | start name =>
    obtain ⟨opened, rfl⟩ := startElement_eq_ok h
    refine ⟨?_, ?_, ?_⟩
    · simp [isStart, isEnd]
      omega
    · -- if elements are open, one of them was the root
      have hopen : s.stack.isEmpty = false → 0 < ts.countP isStart := by
        rw [List.isEmpty_eq_false_iff, ← List.length_pos_iff]
        omega
      cases hempty : s.stack.isEmpty with
      | true => simp [isStart]
      | false => simp [isStart, hroot.2 (hopen hempty)]
    · simp [isStart]
  | closedEmpty | close name =>
    obtain ⟨stack, ended, rfl, hlength⟩ := endElement_eq_ok h
    refine ⟨?_, ?_, ?_⟩
    · simp [isStart, isEnd]
      omega
    · simpa [isStart] using hroot
    · -- nothing ends before something has started
      intro hnone
      rw [List.countP_append, Nat.add_eq_zero_iff] at hnone
      omega
  | attr name value | text text =>
    obtain ⟨stack, rfl, hlength⟩ := change_eq_ok h
    refine ⟨?_, ?_, ?_⟩
    · simpa [isStart, isEnd, hlength] using hstack
    · simpa [isStart] using hroot
    · simpa [isStart] using hpath
  | opened | aside =>
    cases h
    refine ⟨?_, ?_, ?_⟩
    · simpa [isStart, isEnd] using hstack
    · simpa [isStart] using hroot
    · simpa [isStart] using hpath

/-- Several more tokens. -/
theorem After.run {ts us : List Token} (hs : After ts s) (h : s.run us = .ok s') :
    After (ts ++ us) s' :=
  run_keeps (fun hs h => hs.token h) ts hs h

/-! ### Interfaces -/

/-- Interfaces that have ended stay. -/
theorem prefix_of_token {t : Token} (h : s.token t = .ok s') : s.interfaces <+: s'.interfaces := by
  cases t with
  | start name =>
    obtain ⟨opened, rfl⟩ := startElement_eq_ok h
    exact List.prefix_rfl
  | closedEmpty | close name =>
    obtain ⟨stack, ended, rfl, -⟩ := endElement_eq_ok h
    exact List.prefix_append ..
  | attr name value | text text =>
    obtain ⟨stack, rfl, -⟩ := change_eq_ok h
    exact List.prefix_rfl
  | opened | aside =>
    cases h
    exact List.prefix_rfl

theorem prefix_of_run {ts : List Token} (h : s.run ts = .ok s') :
    s.interfaces <+: s'.interfaces :=
  run_keeps (P := fun _ s₁ => s.interfaces <+: s₁.interfaces)
    (fun hs h => hs.trans (prefix_of_token h)) [] List.prefix_rfl h

/-! ### Cuts -/

theorem allBlank_shortened {short long : String} (h : short.toList <+: long.toList)
    (hblank : Text.allBlank long = true) : Text.allBlank short = true := by
  rw [Text.allBlank, List.all_eq_true] at hblank ⊢
  intro c hc
  exact hblank c (h.subset hc)

theorem addText_shortened {short long : String} {top top' : Opened}
    (h : short.toList <+: long.toList) (htext : top.addText long = .ok top') :
    ∃ top₁, top.addText short = .ok top₁ := by
  cases top with
  | skip | summary _ | para _ => exact ⟨_, rfl⟩
  | _ =>
    by_cases hblank : Text.allBlank long = true
    · exact ⟨_, if_pos (allBlank_shortened h hblank)⟩
    · have herror := htext.symm.trans (if_neg hblank)
      cases herror

/-- Where a text may stand, the beginning of it may. -/
theorem token_text_shortened {short long : String} (h : short.toList <+: long.toList)
    (htoken : s.token (.text long) = .ok s') :
    ∃ s₁, s.token (.text short) = .ok s₁ ∧ s₁.interfaces = s'.interfaces := by
  unfold token change at htoken ⊢
  cases hstack : s.stack with
  | nil =>
    simp only [hstack] at htoken ⊢
    obtain ⟨_, hout, ⟨⟩⟩ := bind_eq_ok_iff.1 htoken
    split at hout
    · next hblank =>
      refine ⟨s, ?_, rfl⟩
      rw [if_pos (allBlank_shortened h hblank)]
      rfl
    · cases hout
  | cons top below =>
    simp only [hstack] at htoken ⊢
    obtain ⟨top', htext, ⟨⟩⟩ := bind_eq_ok_iff.1 htoken
    obtain ⟨top₁, hshort⟩ := addText_shortened h htext
    refine ⟨{ s with stack := top₁ :: below }, ?_, rfl⟩
    rw [hshort]
    rfl

/-- The first tokens of a document are loaded if the document is. -/
theorem run_of_cut {cs ts : List Token} (hcut : Cut cs ts) (h : s.run ts = .ok s') :
    ∃ s₁, s.run cs = .ok s₁ ∧ s₁.interfaces <+: s'.interfaces := by
  induction hcut generalizing s with
  | nil => exact ⟨s, rfl, prefix_of_run h⟩
  | @text short long ts hshort =>
    obtain ⟨s₂, hlong, h⟩ := run_cons_eq_ok_iff.1 h
    obtain ⟨s₁, htoken, hsame⟩ := token_text_shortened hshort hlong
    refine ⟨s₁, run_cons_eq_ok_iff.2 ⟨s₁, htoken, rfl⟩, ?_⟩
    rw [hsame]
    exact prefix_of_run h
  | cons _ ih =>
    obtain ⟨s₂, htoken, h⟩ := run_cons_eq_ok_iff.1 h
    obtain ⟨s₁, hrun, hprefix⟩ := ih h
    exact ⟨s₁, run_cons_eq_ok_iff.2 ⟨s₂, htoken, hrun⟩, hprefix⟩

end Load

/-! ### Documents -/

/-- The elements that have started and not ended are those on the stack. -/
theorem length_stack_of_run {ts : List Token} {s : Load} (h : Load.start.run ts = .ok s) :
    s.stack.length + ts.countP isEnd = ts.countP isStart := by
  obtain ⟨hstack, -, -⟩ := Load.After.start.run h
  rwa [List.nil_append] at hstack

/-- Tokens that were loaded make a document if they are all there is and if an element starts. -/
theorem interfacesOf_of_run {ts : List Token} {s : Load} (h : Load.start.run ts = .ok s)
    (complete : Bool) :
    interfacesOf ⟨ts, complete⟩ =
      if !complete then .error ⟨s.path, .markup⟩
      else if ts.countP isStart = 0 then .error ⟨"", .missingNode⟩
      else .ok s.interfaces := by
  obtain ⟨-, hroot, hpath⟩ := Load.After.start.run h
  rw [List.nil_append] at hroot hpath
  unfold interfacesOf
  rw [h, ok_bind]
  split
  · rfl
  · rcases Nat.eq_zero_or_pos (ts.countP isStart) with hnone | hsome
    · have hseen : s.seenRoot = false := by
        rw [← Bool.not_eq_true, hroot, hnone]
        exact Nat.lt_irrefl 0
      simp [hseen, hpath hnone, hnone]
    · simp [hroot.2 hsome, Nat.ne_of_gt hsome]

variable {tokenize : String → Markup.Tokens} {document : String} {found : List Interface}

theorem run_of_load (h : loadWith tokenize document = .ok found) :
    ∃ s, Load.start.run (tokenize document).tokens = .ok s ∧ s.interfaces = found := by
  obtain ⟨s, hrun, h⟩ := bind_eq_ok_iff.1 h
  refine ⟨s, hrun, ?_⟩
  split at h
  · cases h
  · split at h
    · cases h
    · cases h
      rfl

/-- A document that is loaded may leave elements open: as many as have started and not ended, since
nothing asks for their ends. So what is left of it when it is cut is loaded as it stands. If that is
markup, and if the root has started, then it describes the interfaces that have ended by then. What
cuts texts into tokens has no part in this. -/
theorem load_cut (h : loadWith tokenize document = .ok found) :
    (∃ s, Load.start.run (tokenize document).tokens = .ok s ∧ s.interfaces = found ∧
      s.stack.length + (tokenize document).tokens.countP isEnd
        = (tokenize document).tokens.countP isStart) ∧
    ∀ {cut : String} {ts : List Token} {complete : Bool}, tokenize cut = ⟨ts, complete⟩ →
      Cut ts (tokenize document).tokens →
      ∃ s, Load.start.run ts = .ok s ∧ s.interfaces <+: found ∧
        s.stack.length + ts.countP isEnd = ts.countP isStart ∧
        loadWith tokenize cut =
          if !complete then .error ⟨s.path, .markup⟩
          else if ts.countP isStart = 0 then .error ⟨"", .missingNode⟩
          else .ok s.interfaces := by
  obtain ⟨s', hrun', hfound⟩ := run_of_load h
  refine ⟨⟨s', hrun', hfound, length_stack_of_run hrun'⟩, ?_⟩
  intro cut ts complete htokens hcut
  obtain ⟨s, hrun, hprefix⟩ := Load.run_of_cut hcut hrun'
  refine ⟨s, hrun, hfound ▸ hprefix, length_stack_of_run hrun, ?_⟩
  rw [loadWith, htokens]
  exact interfacesOf_of_run hrun complete

/-- A document that is cut inside of the text behind its interface. -/
theorem load_cut_in_text :
    load "<node><interface name='a'/>  </node>" = .ok [⟨"a", [], [], [], [], {}⟩] ∧
      ∃ ts, Markup.tokens "<node><interface name='a'/> " = ⟨ts, true⟩ ∧
        Cut ts (Markup.tokens "<node><interface name='a'/>  </node>").tokens ∧
        ∃ s, Load.start.run ts = .ok s ∧ s.stack.length = 1 ∧
          load "<node><interface name='a'/> " = .ok s.interfaces := by
  have hload : load "<node><interface name='a'/>  </node>"
      = .ok [⟨"a", [], [], [], [], {}⟩] := by rfl
  let ts (text : String) : List Token :=
    [.start ⟨"", "node"⟩, .opened, .start ⟨"", "interface"⟩, .attr ⟨"", "name"⟩ "a", .closedEmpty,
      .text text]
  have hcut : Markup.tokens "<node><interface name='a'/> " = ⟨ts " ", true⟩ := by rfl
  have hdocument : (Markup.tokens "<node><interface name='a'/>  </node>").tokens
      = ts "  " ++ [.close ⟨"", "node"⟩] := by rfl
  have hts : Cut (ts " ") (Markup.tokens "<node><interface name='a'/>  </node>").tokens := by
    rw [hdocument]
    exact .cons (.cons (.cons (.cons (.cons (.text (by decide))))))
  obtain ⟨-, hcuts⟩ := load_cut hload
  obtain ⟨s, hrun, -, hopen, hfound⟩ := hcuts hcut hts
  refine ⟨hload, _, hcut, hts, s, hrun, ?_, hfound⟩
  exact Nat.add_right_cancel hopen

/-- A document whose root never ends. -/
theorem load_open_root :
    load "<node><interface name='a'/>" = .ok [⟨"a", [], [], [], [], {}⟩] ∧
      ∃ s, Load.start.run (Markup.tokens "<node><interface name='a'/>").tokens = .ok s ∧
        s.stack.length = 1 :=
  ⟨by rfl, _, by rfl, by rfl⟩

end DBus.Introspect
