import DBus.Proofs.Introspect.Nesting

/-!
# Nodes inside the root

A `node` inside the root is passed over with everything it holds. While it is, an element that
starts is put on the stack as one to pass over, whatever its name, one that ends is taken from it by
any end tag, and nothing else is looked at. So a load goes on behind such a child as if it were not
there, and so the document loads, or fails to, as it does without the child.
-/

namespace DBus.Introspect

open DBus.Markup (Token WellNamed)

/-! ### Children -/

/-- Tokens of which every element ends that starts, whatever the names in the tags are. -/
inductive Balanced : List Token → Prop where
  | nil : Balanced []
  | inside {t : Token} (hstart : isStart t = false) (hend : isEnd t = false) : Balanced [t]
  | append {ts us : List Token} (hts : Balanced ts) (hus : Balanced us) : Balanced (ts ++ us)
  | element {name : Markup.Name} {inner : List Token} {last : Token} (hinner : Balanced inner)
    (hend : isEnd last = true) : Balanced (.start name :: (inner ++ [last]))

/-- A `node` with everything it holds. -/
inductive ChildNode : List Token → Prop where
  | mk {name : Markup.Name} {inner : List Token} {last : Token} (hname : name.name = "node")
    (hinner : Balanced inner) (hend : isEnd last = true) :
    ChildNode (.start name :: (inner ++ [last]))

/-- Tokens behind which only the root is open. -/
def InRoot (before : List Token) : Prop :=
  before.countP isStart = before.countP isEnd + 1

/-- Tokens without and with an element in the content of the root, which may cut a text in two. -/
inductive Inserted (element : List Token) : List Token → List Token → Prop where
  | between {before rest : List Token} (h : InRoot before) :
    Inserted element (before ++ rest) (before ++ (element ++ rest))
  | inText {before rest : List Token} {s t : String} (h : InRoot before) :
    Inserted element (before ++ .text (s ++ t) :: rest)
      (before ++ .text s :: (element ++ .text t :: rest))

/-- Elements with names that hold no slash. -/
def SlashFree (ts : List Token) : Prop :=
  ∀ name, .start name ∈ ts → '/' ∉ name.name.toList

theorem SlashFree.left {ts us : List Token} (h : SlashFree (ts ++ us)) : SlashFree ts :=
  fun name hname => h name (List.mem_append_left _ hname)

theorem SlashFree.right {ts us : List Token} (h : SlashFree (ts ++ us)) : SlashFree us :=
  fun name hname => h name (List.mem_append_right _ hname)

theorem InRoot.concat {before : List Token} {t : Token} (h : InRoot before)
    (hstart : isStart t = false) (hend : isEnd t = false) : InRoot (before ++ [t]) := by
  simpa [InRoot, hstart, hend] using h

theorem Inserted.subset {element ts us : List Token} (h : Inserted element ts us) :
    element ⊆ us := by
  cases h with
  | between h => exact List.subset_append_of_subset_right _ (List.subset_append_left ..)
  | inText h =>
    exact List.subset_append_of_subset_right _
      (List.subset_cons_of_subset _ (List.subset_append_left ..))

namespace Load

theorem run_singleton {s s' : Load} {t : Token} (h : s.token t = .ok s') : s.run [t] = .ok s' :=
  run_cons_eq_ok_iff.2 ⟨s', h, rfl⟩

/-- A name that is entered is left again, whatever it was put behind. -/
theorem leave_enter {name : String} (h : '/' ∉ name.toList) (path : String) :
    leave (enter path name) = path := by
  unfold enter
  split
  · next hempty =>
    rw [leave_name h, String.isEmpty_iff.1 hempty]
  · exact leave_append h path

/-! ### Passing over -/

variable (below : List Opened) (found : List Interface) (seen : Bool)

/-- While an element is passed over, a token that does not start or end one changes nothing. -/
theorem token_skip {t : Token} (hstart : isStart t = false) (hend : isEnd t = false)
    (path : String) : (Load.mk (.skip :: below) path found seen).token t
      = .ok ⟨.skip :: below, path, found, seen⟩ := by
  cases t with
  | start name => cases hstart
  | closedEmpty | close name => cases hend
  | attr name value | opened | text text | aside => rfl

/-- An element that is passed over ends with any end tag. -/
theorem end_skip {t : Token} (hend : isEnd t = true) (path : String) :
    (Load.mk (.skip :: below) path found seen).token t
      = .ok ⟨below, leave path, found, seen⟩ := by
  have hended : ∀ name, (Load.mk (.skip :: below) path found seen).endElement name
      = .ok ⟨below, leave path, found, seen⟩ := by
    intro name
    simp only [endElement, handDown, ok_bind, List.append_nil, pure, Except.pure]
  cases t with
  | closedEmpty | close name => exact hended _
  | start name | attr name value | opened | text text | aside => cases hend

/-- An element that has started, and that is passed over with what it holds, is gone once it has
ended, and the path is what it was before if no name in it holds a slash. -/
theorem run_started {name : Markup.Name} {inner : List Token} {last : Token} {path : String}
    (hinner : ∃ path', (Load.mk (.skip :: below) (enter path name.name) found seen).run inner
        = .ok ⟨.skip :: below, path', found, seen⟩ ∧
      (SlashFree inner → path' = enter path name.name))
    (hend : isEnd last = true) :
    ∃ path', (Load.mk (.skip :: below) (enter path name.name) found seen).run (inner ++ [last])
        = .ok ⟨below, path', found, seen⟩ ∧
      (SlashFree (.start name :: (inner ++ [last])) → path' = path) := by
  obtain ⟨path', hrun, hpath'⟩ := hinner
  refine ⟨leave path', ?_, fun hslash => ?_⟩
  · rw [run_append, hrun, ok_bind, run_singleton (end_skip below found seen hend path')]
  · have hslash' : SlashFree inner := fun n hn =>
      hslash n (List.mem_cons_of_mem _ (List.mem_append_left _ hn))
    rw [hpath' hslash', leave_enter (hslash name List.mem_cons_self)]

/-- What is balanced leaves a load that passes over as it is, and its path too if no name in it
holds a slash. -/
theorem run_skip {ts : List Token} (h : Balanced ts) (path : String) :
    ∃ path', (Load.mk (.skip :: below) path found seen).run ts
        = .ok ⟨.skip :: below, path', found, seen⟩ ∧ (SlashFree ts → path' = path) := by
  induction h generalizing below path with
  | nil => exact ⟨path, rfl, fun _ => rfl⟩
  | inside hstart hend =>
    exact ⟨path, run_singleton (token_skip below found seen hstart hend path), fun _ => rfl⟩
  | append _ _ ihts ihus =>
    obtain ⟨path₁, hts, hpath₁⟩ := ihts below path
    obtain ⟨path₂, hus, hpath₂⟩ := ihus below path₁
    refine ⟨path₂, ?_, fun hslash => ?_⟩
    · rw [run_append, hts, ok_bind, hus]
    · rw [hpath₂ hslash.right, hpath₁ hslash.left]
  | @element name _ _ _ hend ihinner =>
    exact run_started (.skip :: below) found seen
      (ihinner (.skip :: below) (enter path name.name)) hend

/-- And so does a child of the root. -/
theorem run_childNode {element : List Token} (h : ChildNode element) (path : String) :
    ∃ path', (Load.mk [.node] path found seen).run element = .ok ⟨[.node], path', found, seen⟩ ∧
      (SlashFree element → path' = path) := by
  obtain @⟨name, inner, last, hname, hinner, hend⟩ := h
  have hstart : (Load.mk [.node] path found seen).token (.start name)
      = .ok ⟨[.skip, .node], enter path name.name, found, seen⟩ := by
    rw [token, hname]
    rfl
  rw [run, hstart]
  exact run_started [.node] found seen (run_skip [.node] found seen hinner _) hend

/-! ### The content of the root -/

/-- In the content of the root, the root is open and nothing else is. -/
theorem stack_of_inRoot {before : List Token} {s : Load} (h : InRoot before)
    (hs : start.run before = .ok s) : s.stack = [.node] := by
  have hcount := length_stack_of_run hs
  unfold InRoot at h
  obtain ⟨o, ho⟩ := List.length_eq_one_iff.1 (show s.stack.length = 1 by omega)
  have hroot : o.kind = .node := by
    have hnested := nested_of_run consistent_start.nested hs
    rwa [ho] at hnested
  cases o <;> first | exact ho | cases hroot

/-- A text in the content of the root may be cut in two. -/
theorem run_text_append {s : Load} (h : s.stack = [.node]) (a b : String) (rest : List Token) :
    s.run (.text (a ++ b) :: rest) = s.run (.text a :: .text b :: rest) := by
  have htoken : ∀ text, s.token (.text text)
      = if Text.allBlank text then .ok s else .error .unsupportedText := by
    intro text
    obtain ⟨stack, path, found, seen⟩ := s
    obtain rfl : stack = [.node] := h
    simp only [token, change, Opened.addText]
    split <;> rfl
  have hblank : Text.allBlank (a ++ b) = (Text.allBlank a && Text.allBlank b) := by
    rw [Text.allBlank, String.toList_append, List.all_append]
    rfl
  rw [run, run, htoken, htoken, hblank]
  cases Text.allBlank a with
  | false => rfl
  | true =>
    show _ = s.run (.text b :: rest)
    rw [run, htoken]
    rfl

/-! ### Whole documents -/

/-- What has come of a load, but for the path: neither the one it has nor the one in an error. -/
def unlocated (x : Except LoadError Load) : Except Problem Load :=
  (x.mapError LoadError.problem).map forget

theorem unlocated_run_forget (s : Load) (ts : List Token) :
    unlocated (s.forget.run ts) = unlocated (s.run ts) := by
  induction ts generalizing s with
  | nil => rfl
  | cons t ts ih =>
    have hrun : ∀ s : Load, unlocated (s.run (t :: ts))
        = (s.token t).map forget >>= fun s' => unlocated (s'.run ts) := by
      intro s
      rw [run]
      cases s.token t with
      | ok s' => exact (ih s').symm
      | error problem => rfl
    rw [hrun, hrun, forget_token]

/-- Behind a child of the root a load goes on as if the child were not there, but that the path may
be another one if a name in the child holds a slash. -/
theorem run_inserted {element ts us : List Token} (hchild : ChildNode element)
    (h : Inserted element ts us) :
    unlocated (start.run us) = unlocated (start.run ts) ∧
      (SlashFree element → start.run us = start.run ts) := by
  have hbetween : ∀ {before rest : List Token}, InRoot before →
      unlocated (start.run (before ++ (element ++ rest))) = unlocated (start.run (before ++ rest)) ∧
        (SlashFree element →
          start.run (before ++ (element ++ rest)) = start.run (before ++ rest)) := by
    intro before rest hroot
    rw [run_append, run_append start before rest]
    cases hs : start.run before with
    | error e => exact ⟨rfl, fun _ => rfl⟩
    | ok s =>
      obtain ⟨stack, path, found, seen⟩ := s
      obtain rfl : stack = [.node] := stack_of_inRoot hroot hs
      obtain ⟨path', helement, hpath'⟩ := run_childNode found seen hchild path
      rw [ok_bind, ok_bind, run_append, helement, ok_bind]
      refine ⟨?_, fun hslash => by rw [hpath' hslash]⟩
      rw [← unlocated_run_forget, ← unlocated_run_forget ⟨[.node], path, found, seen⟩]
      rfl
  cases h with
  | between hroot => exact hbetween hroot
  | @inText before rest a b hroot =>
    have hcut : start.run (before ++ .text (a ++ b) :: rest)
        = start.run (before ++ [.text a] ++ .text b :: rest) := by
      rw [List.append_assoc, List.singleton_append, run_append, run_append]
      cases hs : start.run before with
      | error e => rfl
      | ok s => exact run_text_append (stack_of_inRoot hroot hs) a b rest
    have hus : before ++ .text a :: (element ++ .text b :: rest)
        = before ++ [.text a] ++ (element ++ .text b :: rest) := by
      rw [List.append_assoc, List.singleton_append]
    rw [hcut, hus]
    exact hbetween (hroot.concat rfl rfl)

end Load

theorem interfacesOf_of_unlocated {ts us : List Token}
    (h : Load.unlocated (Load.start.run us) = Load.unlocated (Load.start.run ts))
    (complete : Bool) : (interfacesOf ⟨us, complete⟩).mapError LoadError.problem
      = (interfacesOf ⟨ts, complete⟩).mapError LoadError.problem := by
  -- how a load is judged at its end does not depend on its path
  have hjudged : ∀ ts, (interfacesOf ⟨ts, complete⟩).mapError LoadError.problem
      = Load.unlocated (Load.start.run ts) >>= fun s =>
        if !complete then .error .markup
        else if !s.seenRoot then .error .missingNode
        else .ok s.interfaces := by
    intro ts
    rw [interfacesOf]
    cases Load.start.run ts with
    | error e => rfl
    | ok s =>
      rw [ok_bind]
      show _ = if !complete then _ else if !s.seenRoot then _ else Except.ok s.interfaces
      split
      · rfl
      · split <;> rfl
  rw [hjudged, hjudged, h]

/-- A child of the root has no part in what comes of a document: with it there are the same
interfaces or the same problem. An error has the same path too, if the names in the child hold no
slash; and names hold none where texts are cut into tokens as markup allows. -/
theorem child_nodes_have_no_part {element ts us : List Token} (hchild : ChildNode element)
    (h : Inserted element ts us) :
    (∀ complete, (interfacesOf ⟨us, complete⟩).mapError LoadError.problem
        = (interfacesOf ⟨ts, complete⟩).mapError LoadError.problem) ∧
      (SlashFree element →
        ∀ complete, interfacesOf ⟨us, complete⟩ = interfacesOf ⟨ts, complete⟩) ∧
      ∀ tokenize : String → Markup.Tokens, (∀ text, WellNamed (tokenize text).tokens) →
        ∀ document document' complete, tokenize document = ⟨ts, complete⟩ →
          tokenize document' = ⟨us, complete⟩ →
          loadWith tokenize document' = loadWith tokenize document := by
  obtain ⟨hunlocated, hrun⟩ := Load.run_inserted hchild h
  have hexact : SlashFree element →
      ∀ complete, interfacesOf ⟨us, complete⟩ = interfacesOf ⟨ts, complete⟩ := by
    intro hslash complete
    rw [interfacesOf, interfacesOf, hrun hslash]
  refine ⟨interfacesOf_of_unlocated hunlocated, hexact,
    fun tokenize hnamed document document' complete hts hus => ?_⟩
  have hslash : SlashFree element := by
    intro name hname
    have hname' := hnamed document' name
    rw [hus] at hname'
    exact (hname' (h.subset hname)).2
  rw [loadWith, loadWith, hts, hus]
  exact hexact hslash complete

/-- A child that holds what nothing else may hold, in the middle of blanks. -/
theorem node_between_blanks_has_no_part :
    let element : List Token := [.start ⟨"", "node"⟩, .attr ⟨"", "bogus"⟩ "1", .opened,
      .start ⟨"", "method"⟩, .opened, .text "text", .close ⟨"", "arg"⟩, .aside,
      .close ⟨"", "node"⟩]
    let document := "<node>  <interface name='a'/></node>"
    let document' :=
      "<node> <node bogus='1'><method>text</arg><!----></node> <interface name='a'/></node>"
    ChildNode element ∧
      Inserted element (Markup.tokens document).tokens (Markup.tokens document').tokens ∧
      load document' = load document ∧ load document = .ok [⟨"a", [], [], [], [], {}⟩] := by
  intro element document document'
  have hchild : ChildNode element := by
    have hmethod : Balanced [.start ⟨"", "method"⟩, .opened, .text "text", .close ⟨"", "arg"⟩] :=
      .element (.append (.inside (t := .opened) rfl rfl) (.inside (t := .text "text") rfl rfl)) rfl
    exact .mk rfl (.append (.append (.inside (t := .attr ⟨"", "bogus"⟩ "1") rfl rfl)
      (.inside (t := .opened) rfl rfl)) (.append hmethod (.inside (t := .aside) rfl rfl))) rfl
  let before : List Token := [.start ⟨"", "node"⟩, .opened]
  let rest : List Token := [.start ⟨"", "interface"⟩, .attr ⟨"", "name"⟩ "a", .closedEmpty,
    .close ⟨"", "node"⟩]
  have hts : Markup.tokens document = ⟨before ++ .text (" " ++ " ") :: rest, true⟩ := by
    have h : (Markup.tokens document).tokens = before ++ .text (" " ++ " ") :: rest ∧
        (Markup.tokens document).complete = true := by decide +kernel
    rw [← h.1, ← h.2]
  have hus : Markup.tokens document'
      = ⟨before ++ .text " " :: (element ++ .text " " :: rest), true⟩ := by
    have h : (Markup.tokens document').tokens
          = before ++ .text " " :: (element ++ .text " " :: rest) ∧
        (Markup.tokens document').complete = true := by decide +kernel
    rw [← h.1, ← h.2]
  have hinserted : Inserted element (before ++ .text (" " ++ " ") :: rest)
      (before ++ .text " " :: (element ++ .text " " :: rest)) := .inText rfl
  obtain ⟨-, -, hload⟩ := child_nodes_have_no_part hchild hinserted
  refine ⟨hchild, ?_,
    hload Markup.tokens Markup.wellNamed_tokens document document' true hts hus, ?_⟩
  · rw [hts, hus]
    exact hinserted
  · rw [load, loadWith, hts]
    rfl

end DBus.Introspect
