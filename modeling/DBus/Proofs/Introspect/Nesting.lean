import DBus.Proofs.Introspect.TreeLoading
import DBus.Proofs.Markup.Names

/-!
# How open elements are nested

A load keeps a stack of the open elements and a path: a text that a slash and a name are put behind
when an element starts, and that is cut at its last slash when one ends. In every state that tokens
lead to, the elements on the stack stand in one another as elements may, and the path is made of the
names of the open elements. So an element that ends is always handed to one that can take it, and an
error tells which elements are open where it is found.
-/

namespace DBus.Introspect

open DBus.Markup (Token WellNamed)

/-! ### Elements in one another -/

/-- The kinds of the elements that may stand right inside of one. -/
def Kind.contents : Kind → List Kind
  | .node => [.interface, .ignored]
  | .ignored => [.ignored]
  | .interface => [.method, .signal, .property, .note, .doc]
  | .method | .signal => [.argument, .note, .doc]
  | .property | .argument => [.note, .doc]
  | .doc => [.summary, .description]
  | .description => [.para]
  | .note | .summary | .para => []

/-- Kinds of elements that stand in one another as they may, the innermost first: the outermost is
the root, and each other one may stand in the one around it. -/
def Nested : List Kind → Prop
  | [] => True
  | [outermost] => outermost = .node
  | inner :: outer :: rest => inner ∈ outer.contents ∧ Nested (outer :: rest)

theorem Kind.mem_contents_of_child {k c : Kind} {name : String} (h : k.child name = some c) :
    c ∈ k.contents := by
  rcases mem_of_child h with ⟨rfl, rfl⟩ | hmem
  · exact List.mem_singleton_self _
  · have hall : ∀ p ∈ k.children, p.2 ∈ k.contents := by cases k <;> decide
    exact hall _ hmem

theorem Nested.tail {ks : List Kind} (h : Nested ks) : Nested ks.tail := by
  match ks, h with
  | [], _ | [_], _ => trivial
  | _ :: _ :: _, ⟨_, hrest⟩ => exact hrest

/-- The root stands in nothing. -/
theorem Nested.eq_nil_of_node {ks : List Kind} (h : Nested (.node :: ks)) : ks = [] := by
  cases ks with
  | nil => rfl
  | cons outer rest =>
    obtain ⟨hmem, -⟩ := h
    cases outer <;> simp [Kind.contents] at hmem

/-! ### Names of open elements -/

/-- The names of the open elements after one more token, the innermost first. -/
def openAfter (names : List String) : Token → List String
  | .start name => name.name :: names
  | .closedEmpty | .close _ => names.tail
  | _ => names

/-- The names of the elements that are open after some tokens, the innermost first. -/
def openNames (ts : List Token) : List String :=
  ts.foldl openAfter []

/-- The path of the elements with some names, the innermost first. -/
def pathOf (names : List String) : String :=
  "/".intercalate names.reverse

theorem openNames_concat (ts : List Token) (t : Token) :
    openNames (ts ++ [t]) = openAfter (openNames ts) t :=
  List.foldl_append

/-- Only tokens with which elements start or end change what is open. -/
theorem openNames_concat_of_inside {ts : List Token} {t : Token} (hstart : isStart t = false)
    (hend : isEnd t = false) : openNames (ts ++ [t]) = openNames ts := by
  rw [openNames_concat]
  cases t with
  | start name => cases hstart
  | closedEmpty | close name => cases hend
  | attr name value | opened | text text | aside => rfl

theorem mem_foldl_openAfter {ts : List Token} {names : List String} {n : String}
    (h : n ∈ ts.foldl openAfter names) : n ∈ names ∨ ∃ name, .start name ∈ ts ∧ n = name.name := by
  induction ts generalizing names with
  | nil => exact .inl h
  | cons t ts ih =>
    rcases ih h with hnow | ⟨name, hname, rfl⟩
    · cases t with
      | start name =>
        rcases List.mem_cons.1 hnow with rfl | hnames
        · exact .inr ⟨name, List.mem_cons_self, rfl⟩
        · exact .inl hnames
      | closedEmpty | close name => exact .inl (List.mem_of_mem_tail hnow)
      | attr name value | opened | text text | aside => exact .inl hnow
    · exact .inr ⟨name, List.mem_cons_of_mem _ hname, rfl⟩

theorem named_of_mem_openNames {ts : List Token} (h : WellNamed ts) {n : String}
    (hn : n ∈ openNames ts) : n ≠ "" ∧ '/' ∉ n.toList := by
  rcases mem_foldl_openAfter hn with hnil | ⟨name, hname, rfl⟩
  · cases hnil
  · exact h name hname

theorem pathOf_cons {name : String} {names : List String} (h : names ≠ []) :
    pathOf (name :: names) = pathOf names ++ "/" ++ name := by
  have hreverse : names.reverse ≠ [] := by simpa using h
  rw [pathOf, List.reverse_cons,
    String.intercalate_append_of_ne_nil hreverse (List.cons_ne_nil _ _),
    String.intercalate_singleton, pathOf]

namespace Load

theorem enter_pathOf {names : List String} (h : ∀ n ∈ names, n ≠ "") (name : String) :
    enter (pathOf names) name = pathOf (name :: names) := by
  unfold enter
  cases names with
  | nil => simp [pathOf]
  | cons n ns =>
    have hne : pathOf (n :: ns) ≠ "" := by
      cases ns with
      | nil => simpa [pathOf] using h
      | cons m ms =>
        rw [pathOf_cons (List.cons_ne_nil m ms)]
        simp
    rw [pathOf_cons (List.cons_ne_nil n ns), if_neg (by simpa using hne)]

theorem dropWhile_reverse_append {name : String} (h : '/' ∉ name.toList) (rest : List Char) :
    (name.toList.reverse ++ rest).dropWhile (· != '/') = rest.dropWhile (· != '/') := by
  refine List.dropWhile_append_of_pos fun c hc => ?_
  rw [List.mem_reverse] at hc
  exact bne_iff_ne.2 (ne_of_mem_of_not_mem hc h)

/-- Nothing is left of a path of one name. -/
theorem leave_name {name : String} (h : '/' ∉ name.toList) : leave name = "" := by
  rw [leave, ← List.append_nil name.toList.reverse, dropWhile_reverse_append h]
  rfl

/-- What was entered is left again. -/
theorem leave_append {name : String} (h : '/' ∉ name.toList) (path : String) :
    leave (path ++ "/" ++ name) = path := by
  have hreverse : (path ++ "/" ++ name).toList.reverse
      = name.toList.reverse ++ '/' :: path.toList.reverse := by
    simp
  rw [leave, hreverse, dropWhile_reverse_append h]
  simp

theorem leave_pathOf {name : String} (h : '/' ∉ name.toList) (names : List String) :
    leave (pathOf (name :: names)) = pathOf names := by
  cases names with
  | nil =>
    rw [pathOf, List.reverse_singleton, String.intercalate_singleton, leave_name h]
    rfl
  | cons n ns => rw [pathOf_cons (List.cons_ne_nil n ns), leave_append h]

end Load

/-! ### Problems -/

/-- Whether a problem is one that an open element can have, and not that an element cannot start or
that there is none to end. -/
def Problem.isOfOpen : Problem → Bool
  | .unsupportedElementStart _ | .unsupportedElementEnd => false
  | _ => true

/-- A step of which every problem is one that an open element can have. -/
def OfOpen {α : Type} (x : Except Problem α) : Prop :=
  ∀ p, x = .error p → p.isOfOpen = true

namespace OfOpen

variable {α β : Type}

theorem ok (a : α) : OfOpen (.ok a) := nofun

theorem error {p : Problem} (h : p.isOfOpen = true) : OfOpen (.error p : Except Problem α) := by
  rintro _ ⟨⟩
  exact h

theorem bind {x : Except Problem α} {f : α → Except Problem β} (hx : OfOpen x)
    (hf : ∀ a, OfOpen (f a)) : OfOpen (x >>= f) := by
  cases x with
  | ok a => exact hf a
  | error p => exact fun q hq => hx q (by cases hq; rfl)

theorem required {p : Problem} (h : p.isOfOpen = true) (a : Option α) :
    OfOpen (Introspect.required p a) := by
  cases a with
  | some a => exact ok a
  | none => exact error h

theorem expectEnd (expected : String) (name : Option String) :
    OfOpen (Load.expectEnd expected name) := by
  cases name with
  | none => exact ok ()
  | some actual =>
    rw [Load.expectEnd]
    split
    · exact ok ()
    · exact error rfl

end OfOpen

theorem ofOpen_accessOf (value : String) : OfOpen (Opened.accessOf value) := by
  unfold Opened.accessOf
  split <;> first | exact .ok _ | exact .error rfl

theorem ofOpen_directionOf (value : String) : OfOpen (Opened.directionOf value) := by
  unfold Opened.directionOf
  split <;> first | exact .ok _ | exact .error rfl

theorem ofOpen_setAttr (name : Markup.Name) (value : String) (o : Opened) :
    OfOpen (o.setAttr name value) := by
  cases o with
  | skip => exact .ok _
  | doc _ | summary _ | description _ | para _ => exact .error rfl
  | node =>
    rw [Opened.setAttr]
    split
    · exact .ok _
    · exact .error rfl
  | interface d | method d | signal d | note d =>
    simp only [Opened.setAttr]
    split <;> first | exact .ok _ | exact .error rfl
  | property d =>
    simp only [Opened.setAttr]
    split
    case h_3 => exact .bind (ofOpen_accessOf value) fun _ => .ok _
    all_goals first | exact .ok _ | exact .error rfl
  | argument d =>
    simp only [Opened.setAttr]
    split
    case h_3 => exact .bind (ofOpen_directionOf value) fun _ => .ok _
    all_goals first | exact .ok _ | exact .error rfl

theorem ofOpen_addText (text : String) (o : Opened) : OfOpen (o.addText text) := by
  unfold Opened.addText
  split
  case h_4 =>
    split
    · exact .ok _
    · exact .error rfl
  all_goals exact .ok _

theorem ofOpen_argument (d : ArgumentDraft) (direction : Direction) :
    OfOpen (d.build direction) :=
  .bind (.required rfl _) fun _ => .ok _

theorem ofOpen_member (d : MemberDraft) {unnamed : Problem} (h : unnamed.isOfOpen = true) :
    OfOpen (d.build unnamed) :=
  .bind (.required h _) fun _ => .ok _

theorem ofOpen_property (d : PropertyDraft) : OfOpen d.build :=
  .bind (.required rfl _) fun _ => .bind (.required rfl _) fun _ => .bind (.required rfl _)
    fun _ => .ok _

theorem ofOpen_interface (d : InterfaceDraft) : OfOpen d.build :=
  .bind (.required rfl _) fun _ => .ok _

theorem ofOpen_note (d : AnnotationDraft) : OfOpen d.build :=
  .bind (.required rfl _) fun _ => .bind (.required rfl _) fun _ => .ok _

/-! ### Elements that end -/

theorem Opened.kind_annotate {o o' : Opened} {a : Annotation} (h : o.annotate a = some o') :
    o'.kind = o.kind := by
  cases o <;> cases h <;> rfl

theorem Opened.kind_document {o o' : Opened} {doc : Doc} (h : o.document doc = some o') :
    o'.kind = o.kind := by
  cases o <;> cases h <;> rfl

theorem required_eq_ok_iff {α : Type} {p : Problem} {a : Option α} {b : α} :
    required p a = .ok b ↔ a = some b := by
  cases a <;> simp [required]

namespace Load

/-- An element that ends leaves the kinds of the others as they are. -/
theorem kinds_of_handDown {top : Opened} {below stack : List Opened} {name : Option String}
    {ended : List Interface} (h : handDown top below name = .ok (stack, ended)) :
    stack.map Opened.kind = below.map Opened.kind := by
  unfold handDown at h
  split at h
  all_goals simp only [bind_eq_ok_iff, pure, Except.pure, Except.ok.injEq, Prod.mk.injEq,
    reduceCtorEq, required_eq_ok_iff] at h
  case h_1 =>
    obtain ⟨rfl, -⟩ := h
    rfl
  case h_9 =>
    obtain ⟨_, _, _, _, _, hparent, rfl, -⟩ := h
    rw [List.map_cons, List.map_cons, Opened.kind_annotate hparent]
  case h_10 =>
    obtain ⟨_, _, _, hparent, rfl, -⟩ := h
    rw [List.map_cons, List.map_cons, Opened.kind_document hparent]
  all_goals first
    | obtain ⟨_, _, rfl, -⟩ := h
      rfl
    | obtain ⟨_, _, _, _, rfl, -⟩ := h
      rfl

/-- An element that stands where it may is always handed to one that can take it. -/
theorem ofOpen_handDown {top : Opened} {below : List Opened}
    (h : Nested ((top :: below).map Opened.kind)) (name : Option String) :
    OfOpen (handDown top below name) := by
  cases below with
  | nil =>
    have hroot : top.kind = .node := h
    cases top <;> cases hroot
    exact .bind (.expectEnd _ name) fun _ => .ok _
  | cons o rest =>
    obtain ⟨hmem, hrest⟩ := h
    -- of all pairs of kinds those remain in which one may hold the other
    cases o <;> cases top <;> simp [Opened.kind, Kind.contents] at hmem
    case node.skip | skip.skip => exact .ok _
    case node.interface d =>
      obtain rfl : rest = [] := List.map_eq_nil_iff.1 hrest.eq_nil_of_node
      exact .bind (.expectEnd _ name) fun _ => .bind (ofOpen_interface d) fun _ => .ok _
    case interface.method d | interface.signal d =>
      exact .bind (.expectEnd _ name) fun _ => .bind (ofOpen_member d rfl) fun _ => .ok _
    case interface.property d =>
      exact .bind (.expectEnd _ name) fun _ => .bind (ofOpen_property d) fun _ => .ok _
    case method.argument d | signal.argument d =>
      exact .bind (.expectEnd _ name) fun _ => .bind (ofOpen_argument d _) fun _ => .ok _
    case interface.note d | method.note d | signal.note d | property.note d | argument.note d =>
      exact .bind (.expectEnd _ name) fun _ => .bind (ofOpen_note d) fun _ => .ok _
    all_goals exact .bind (.expectEnd _ name) fun _ => .ok _

/-! ### One token -/

variable {s s' : Load}

theorem kind_of_setAttr {o o' : Opened} {name : Markup.Name} {value : String}
    (h : o.setAttr name value = .ok o') : o'.kind = o.kind := by
  have hsome := Opened.toOption_setAttr o (name, value)
  rw [h] at hsome
  split at hsome
  · cases hsome
    exact Opened.kind_assign o _
  · cases hsome

theorem kind_of_addText {o o' : Opened} {text : String} (h : o.addText text = .ok o') :
    o'.kind = o.kind := by
  have hsome := Opened.toOption_addText o text
  rw [h] at hsome
  split at hsome
  · cases hsome
    exact Opened.kind_absorb o _
  · cases hsome

/-- An element that starts may stand where it does. -/
theorem nested_of_startElement {name : String} (hs : Nested (s.stack.map Opened.kind))
    (h : s.startElement name = .ok s') : Nested (s'.stack.map Opened.kind) := by
  unfold startElement at h
  cases hstack : s.stack with
  | nil =>
    simp only [hstack] at h
    split at h
    · cases h
      rfl
    · cases h
  | cons top below =>
    simp only [hstack] at h
    split at h
    · next opened hchild =>
      cases h
      rw [Opened.child_eq, Option.map_eq_some_iff] at hchild
      obtain ⟨k, hk, rfl⟩ := hchild
      rw [hstack] at hs
      refine ⟨?_, hs⟩
      rw [Kind.kind_opened]
      exact Kind.mem_contents_of_child hk
    · cases h

theorem kinds_of_endElement {name : Option String} (h : s.endElement name = .ok s') :
    s'.stack.map Opened.kind = (s.stack.map Opened.kind).tail := by
  unfold endElement at h
  cases hstack : s.stack with
  | nil =>
    simp only [hstack] at h
    cases h
  | cons top below =>
    simp only [hstack] at h
    obtain ⟨⟨stack, ended⟩, hhand, ⟨⟩⟩ := bind_eq_ok_iff.1 h
    exact kinds_of_handDown hhand

theorem kinds_of_change {f : Opened → Except Problem Opened} {outside : Except Problem Unit}
    (hf : ∀ o o', f o = .ok o' → o'.kind = o.kind) (h : s.change f outside = .ok s') :
    s'.stack.map Opened.kind = s.stack.map Opened.kind := by
  unfold change at h
  cases hstack : s.stack with
  | nil =>
    simp only [hstack] at h
    obtain ⟨_, _, ⟨⟩⟩ := bind_eq_ok_iff.1 h
    rw [hstack]
  | cons top below =>
    simp only [hstack] at h
    obtain ⟨top', htop, ⟨⟩⟩ := bind_eq_ok_iff.1 h
    rw [List.map_cons, List.map_cons, hf _ _ htop]

/-- Elements stand in one another as they may after one more token, if they did before. -/
theorem nested_of_token {t : Token} (hs : Nested (s.stack.map Opened.kind))
    (h : s.token t = .ok s') : Nested (s'.stack.map Opened.kind) := by
  cases t with
  | start name => exact nested_of_startElement hs h
  | closedEmpty | close name => exact kinds_of_endElement h ▸ hs.tail
  | attr name value => exact kinds_of_change (fun _ _ => kind_of_setAttr) h ▸ hs
  | text text => exact kinds_of_change (fun _ _ => kind_of_addText) h ▸ hs
  | opened | aside =>
    cases h
    exact hs

/-- And so they do after several more. -/
theorem nested_of_run {ts : List Token} (hs : Nested (s.stack.map Opened.kind))
    (h : s.run ts = .ok s') : Nested (s'.stack.map Opened.kind) :=
  run_keeps (P := fun _ s => Nested (s.stack.map Opened.kind)) nested_of_token [] hs h

/-- A load whose stack and path are those of the elements that some tokens leave open. -/
structure Consistent (ts : List Token) (s : Load) : Prop where
  nested : Nested (s.stack.map Opened.kind)
  length_names : (openNames ts).length = s.stack.length
  path_eq : s.path = pathOf (openNames ts)

theorem consistent_start : Consistent [] start :=
  ⟨trivial, rfl, rfl⟩

/-- A token that neither starts nor ends an element. -/
theorem Consistent.inside {ts : List Token} {t : Token} (hs : Consistent ts s)
    (hstart : isStart t = false) (hend : isEnd t = false)
    (hnested : Nested (s'.stack.map Opened.kind)) (hlength : s'.stack.length = s.stack.length)
    (hpath : s'.path = s.path) : Consistent (ts ++ [t]) s' := by
  refine ⟨hnested, ?_, ?_⟩
  · rw [openNames_concat_of_inside hstart hend, hlength, hs.length_names]
  · rw [openNames_concat_of_inside hstart hend, hpath, hs.path_eq]

/-- One more token. -/
theorem Consistent.token {ts : List Token} {t : Token} (hs : Consistent ts s)
    (hnames : WellNamed (ts ++ [t])) (h : s.token t = .ok s') : Consistent (ts ++ [t]) s' := by
  have hnested := nested_of_token hs.nested h
  have ⟨_, hlength, hpath⟩ := hs
  cases t with
  | start name =>
    obtain ⟨opened, rfl⟩ := startElement_eq_ok h
    refine ⟨hnested, ?_, ?_⟩
    · rw [openNames_concat, openAfter, List.length_cons, hlength, List.length_cons]
    · rw [openNames_concat, openAfter, hpath, enter_pathOf fun n hn =>
        (named_of_mem_openNames hnames.left hn).1]
  | closedEmpty | close name =>
    obtain ⟨stack, ended, rfl, hstack⟩ := endElement_eq_ok h
    refine ⟨hnested, ?_, ?_⟩
    · rw [openNames_concat, openAfter, List.length_tail, hlength, ← hstack]
      rfl
    · -- the element that ends has a name
      obtain ⟨n, ns, hopen⟩ : ∃ n ns, openNames ts = n :: ns :=
        List.exists_cons_of_length_pos (by omega)
      rw [openNames_concat, openAfter, hpath, hopen, List.tail_cons]
      exact leave_pathOf (named_of_mem_openNames hnames.left (hopen ▸ List.mem_cons_self)).2 ns
  | attr name value | text text =>
    obtain ⟨stack, rfl, hstack⟩ := change_eq_ok h
    exact hs.inside rfl rfl hnested hstack rfl
  | opened | aside =>
    cases h
    exact hs.inside rfl rfl hnested rfl rfl

/-- Several more tokens. -/
theorem Consistent.run {ts us : List Token} (hs : Consistent ts s) (hnames : WellNamed (ts ++ us))
    (h : s.run us = .ok s') : Consistent (ts ++ us) s' := by
  have hrun := run_keeps (P := fun ts s => WellNamed ts → Consistent ts s)
    (fun hs h hnames => (hs hnames.left).token hnames h) ts (fun _ => hs) h
  exact hrun hnames

/-- Nothing is open before the root has started. -/
theorem stack_eq_nil_of_run {ts : List Token} (h : start.run ts = .ok s)
    (hseen : s.seenRoot = false) : s.stack = [] := by
  obtain ⟨hcount, hroot, -⟩ := After.start.run h
  rw [List.nil_append] at hcount hroot
  have hnone : ¬0 < ts.countP isStart := by
    rw [← hroot, hseen]
    exact Bool.false_ne_true
  exact List.length_eq_zero_iff.1 (by omega)

/-! ### Tokens that are refused -/

theorem exists_of_run_error {ts : List Token} {e : LoadError} (h : s.run ts = .error e) :
    ∃ before t rest s', ts = before ++ t :: rest ∧ s.run before = .ok s' ∧
      s'.token t = .error e.problem ∧ e.path = s'.path := by
  induction ts generalizing s with
  | nil => cases h
  | cons t ts ih =>
    rw [run] at h
    cases htoken : s.token t with
    | error problem =>
      rw [htoken] at h
      cases h
      exact ⟨[], t, ts, s, rfl, rfl, htoken, rfl⟩
    | ok s₁ =>
      rw [htoken] at h
      obtain ⟨before, u, rest, s', rfl, hrun, hu, hpath⟩ := ih h
      exact ⟨t :: before, u, rest, s', rfl, run_cons_eq_ok_iff.2 ⟨s₁, htoken, hrun⟩, hu, hpath⟩

theorem problem_of_startElement {name : String} {p : Problem}
    (h : s.startElement name = .error p) : p = .unsupportedElementStart name := by
  unfold startElement at h
  split at h
  · split at h <;> cases h
    rfl
  · split at h <;> cases h
    rfl

theorem problem_of_endElement {name : Option String} {p : Problem}
    (hs : Nested (s.stack.map Opened.kind)) (h : s.endElement name = .error p) :
    s.stack = [] ∧ p = .unsupportedElementEnd ∨ p.isOfOpen = true := by
  unfold endElement at h
  cases hstack : s.stack with
  | nil =>
    simp only [hstack] at h
    cases h
    exact .inl ⟨rfl, rfl⟩
  | cons top below =>
    simp only [hstack] at h
    rw [hstack] at hs
    exact .inr (OfOpen.bind (ofOpen_handDown hs name) (fun _ => .ok _) p h)

theorem ofOpen_change {f : Opened → Except Problem Opened} {outside : Except Problem Unit}
    (hf : ∀ o, OfOpen (f o)) (hout : OfOpen outside) : OfOpen (s.change f outside) := by
  unfold change
  split
  · exact .bind (hf _) fun _ => .ok _
  · exact .bind hout fun _ => .ok _

end Load

/-- What can be wrong where a load stops, `rest` being the tokens that are left. -/
inductive Reported (s : Load) : (rest : List Token) → Problem → Prop where
  /-- An element that may not start here, and has not. -/
  | child {name : Markup.Name} {rest : List Token}
    (h : s.token (.start name) = .error (.unsupportedElementStart name.name)) :
    Reported s (.start name :: rest) (.unsupportedElementStart name.name)
  /-- An end where no element is open. -/
  | outside {t : Token} {rest : List Token} (h : s.token t = .error .unsupportedElementEnd)
    (hend : isEnd t = true) (hnone : s.stack = []) : Reported s (t :: rest) .unsupportedElementEnd
  /-- Something about what is open. -/
  | inside {t : Token} {rest : List Token} {p : Problem} (h : s.token t = .error p)
    (hstart : isStart t = false) (hp : p.isOfOpen = true) : Reported s (t :: rest) p
  /-- No more markup. -/
  | markup : Reported s [] .markup
  /-- No element at all. -/
  | missingNode (hnone : s.stack = []) : Reported s [] .missingNode

theorem reported_of_token {s : Load} {t : Token} {rest : List Token} {p : Problem}
    (hs : Nested (s.stack.map Opened.kind)) (h : s.token t = .error p) :
    Reported s (t :: rest) p := by
  cases t with
  | start name =>
    obtain rfl := Load.problem_of_startElement h
    exact .child h
  | closedEmpty | close name =>
    rcases Load.problem_of_endElement hs h with ⟨hnone, rfl⟩ | hp
    · exact .outside h rfl hnone
    · exact .inside h rfl hp
  | attr name value =>
    exact .inside h rfl (Load.ofOpen_change (ofOpen_setAttr name value) (.error rfl) p h)
  | text text =>
    refine .inside h rfl (Load.ofOpen_change (ofOpen_addText text) ?_ p h)
    split
    · exact .ok ()
    · exact .error rfl
  | opened | aside => cases h

/-- Only where nothing is open is there no element to end. -/
theorem Reported.nothing_open {s : Load} {rest : List Token}
    (h : Reported s rest .unsupportedElementEnd) :
    s.stack = [] ∧ ∃ t ∈ rest.head?, isEnd t = true := by
  cases h with
  | @outside t rest h hend hnone => exact ⟨hnone, t, rfl, hend⟩
  | inside h hstart hp => cases hp

/-- An error of a load that some tokens have led to, with others to come. -/
structure Located (before rest : List Token) (s : Load) (e : LoadError) : Prop where
  loaded : Load.start.run before = .ok s
  length_names : (openNames before).length = s.stack.length
  /-- The path names the elements that are open. -/
  path_eq : e.path = pathOf (openNames before)
  reported : Reported s rest e.problem
  nothing_open : e.problem = .unsupportedElementEnd →
    openNames before = [] ∧ ∃ t ∈ rest.head?, isEnd t = true

theorem Load.Consistent.located {before rest : List Token} {s : Load} {e : LoadError}
    (hc : Load.Consistent before s) (hs : Load.start.run before = .ok s) (hpath : e.path = s.path)
    (hreported : Reported s rest e.problem) : Located before rest s e := by
  refine ⟨hs, hc.length_names, hpath.trans hc.path_eq, hreported, fun hend => ?_⟩
  rw [hend] at hreported
  obtain ⟨hnone, hnext⟩ := hreported.nothing_open
  have hlength := hc.length_names
  rw [hnone] at hlength
  exact ⟨List.length_eq_zero_iff.1 hlength, hnext⟩

/-- In every state that tokens lead to, the open elements stand in one another as they may, and the
path is made of their names. So wherever a load fails, the path of the error names the elements that
are open there; one that may not start is not among them, and it is only where nothing is open that
there is no element to end. -/
theorem loads_stay_consistent {ts : List Token} (hnames : WellNamed ts) :
    (∀ s, Load.start.run ts = .ok s →
      Nested (s.stack.map Opened.kind) ∧ (openNames ts).length = s.stack.length ∧
        s.path = pathOf (openNames ts)) ∧
      ∀ complete e, interfacesOf ⟨ts, complete⟩ = .error e →
        ∃ before rest s, ts = before ++ rest ∧ Located before rest s e := by
  have hrun : ∀ {before rest s}, ts = before ++ rest → Load.start.run before = .ok s →
      Load.Consistent before s := by
    rintro before rest s rfl hs
    exact Load.consistent_start.run hnames.left hs
  have hnil : ts = ts ++ [] := (List.append_nil ts).symm
  refine ⟨fun s hs => ?_, fun complete e h => ?_⟩
  · obtain ⟨hnested, hlength, hpath⟩ := hrun hnil hs
    exact ⟨hnested, hlength, hpath⟩
  unfold interfacesOf at h
  cases hall : Load.start.run ts with
  | error e' =>
    rw [hall] at h
    cases h
    obtain ⟨before, t, rest, s, hts, hs, htoken, hpath⟩ := Load.exists_of_run_error hall
    have hc := hrun hts hs
    exact ⟨before, t :: rest, s, hts, hc.located hs hpath (reported_of_token hc.nested htoken)⟩
  | ok s =>
    have hc := hrun hnil hall
    rw [hall, ok_bind] at h
    split at h
    · cases h
      exact ⟨ts, [], s, hnil, hc.located hall rfl .markup⟩
    · split at h
      · next hseen =>
        cases h
        have hnone := Load.stack_eq_nil_of_run hall (by simpa using hseen)
        exact ⟨ts, [], s, hnil, hc.located hall rfl (.missingNode hnone)⟩
      · cases h

/-- A child that a method cannot have is reported at the method. -/
theorem unknown_child_reported :
    let document := "<node><interface name='a'><method name='M'><bogus/>"
    let e : LoadError := ⟨"node/interface/method", .unsupportedElementStart "bogus"⟩
    load document = .error e ∧
      ∃ before rest s, (Markup.tokens document).tokens = before ++ rest ∧
        Located before rest s e := by
  intro document e
  have hload : load document = .error e := failure?_eq_some_iff.1 (by decide +kernel)
  obtain ⟨-, herrors⟩ := loads_stay_consistent (Markup.wellNamed_tokens document)
  exact ⟨hload, herrors _ e hload⟩

end DBus.Introspect
