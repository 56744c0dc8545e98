import DBus.Bindings.Model
import DBus.Proofs.Introspect.OpenElements
import DBus.Proofs.Introspect.Tree

/-!
# Loading a tree of elements

A load reads the tokens of a tree with a stack, and puts what it has read of an element into the one
below when the element ends. What it finds in the end is what reading the tree by recursion finds:
the top of the stack is the draft of an element, and the tokens of an item in it come down to one
part more in the draft.
-/

namespace DBus.Introspect

open DBus.Markup (Token)

/-! ### Drafts -/

namespace Opened

/-- The kind of an open element. -/
def kind : Opened → Kind
  | .skip => .ignored
  | .node => .node
  | .interface _ => .interface
  | .method _ => .method
  | .signal _ => .signal
  | .property _ => .property
  | .argument _ => .argument
  | .note _ => .note
  | .doc _ => .doc
  | .summary _ => .summary
  | .description _ => .description
  | .para _ => .para

/-- An open element with one attribute more that it may have. -/
def assign (o : Opened) (a : Attribute) : Opened :=
  let value := a.2
  match o, a.1.name with
  | .interface d, "name" => .interface { d with name := value }
  | .method d, "name" => .method { d with name := value }
  | .signal d, "name" => .signal { d with name := value }
  | .property d, "name" => .property { d with name := value }
  | .property d, "type" => .property { d with type := value }
  | .property d, "access" => .property { d with access := accessNamed value }
  | .argument d, "name" => .argument { d with name := value }
  | .argument d, "type" => .argument { d with type := value }
  | .argument d, "direction" => .argument { d with direction := directionNamed value }
  | .note d, "name" => .note { d with name := value }
  | .note d, "value" => .note { d with value := value }
  | o, _ => o

/-- An open element with one part more. -/
def absorb : Opened → Part → Opened
  | .interface d, .method m => .interface { d with methods := d.methods ++ [m] }
  | .interface d, .signal m => .interface { d with signals := d.signals ++ [m] }
  | .interface d, .property p => .interface { d with properties := d.properties ++ [p] }
  | .interface d, .note a => .interface { d with annotations := d.annotations ++ [a] }
  | .interface d, .doc new => .interface { d with doc := new }
  | .method d, .argument a => .method { d with arguments := d.arguments ++ [a.ofMethod] }
  | .method d, .note a => .method { d with annotations := d.annotations ++ [a] }
  | .method d, .doc new => .method { d with doc := new }
  | .signal d, .argument a => .signal { d with arguments := d.arguments ++ [a.ofSignal] }
  | .signal d, .note a => .signal { d with annotations := d.annotations ++ [a] }
  | .signal d, .doc new => .signal { d with doc := new }
  | .property d, .note a => .property { d with annotations := d.annotations ++ [a] }
  | .property d, .doc new => .property { d with doc := new }
  | .argument d, .note a => .argument { d with annotations := d.annotations ++ [a] }
  | .argument d, .doc new => .argument { d with doc := new }
  | .doc d, .summary text => .doc { d with summary := text }
  | .doc d, .description text => .doc { d with paragraph := text }
  | .summary _, .text text => .summary (some (Text.trim text))
  | .description _, .para text => .description text
  | .para _, .text text => .para (some (Text.trim text))
  | o, _ => o

/-- What an open element means when it ends, if it has what it must have. -/
def part : Opened → Option Part
  | .skip | .node => some .nothing
  | .interface d => d.build.toOption.map .interface
  | .method d => (d.build .missingMethodName).toOption.map .method
  | .signal d => (d.build .missingSignalName).toOption.map .signal
  | .property d => d.build.toOption.map .property
  | .argument d =>
    d.type.map fun type => .argument ⟨d.name, type, d.direction, d.annotations, d.doc⟩
  | .note d => d.build.toOption.map .note
  | .doc d => some (.doc d)
  | .summary text => some (.summary text)
  | .description paragraph => some (.description paragraph)
  | .para text => some (.para text)

@[simp] theorem kind_assign (o : Opened) (a : Attribute) : (o.assign a).kind = o.kind := by
  simp only [assign]
  split <;> rfl

@[simp] theorem kind_absorb (o : Opened) (p : Part) : (o.absorb p).kind = o.kind := by
  cases o <;> cases p <;> rfl

end Opened

/-- An element of a kind of which nothing has been read. -/
def Kind.opened : Kind → Opened
  | .ignored => .skip
  | .node => .node
  | .interface => .interface {}
  | .method => .method {}
  | .signal => .signal {}
  | .property => .property {}
  | .argument => .argument {}
  | .note => .note {}
  | .doc => .doc {}
  | .summary => .summary none
  | .description => .description none
  | .para => .para none

@[simp] theorem Kind.kind_opened (k : Kind) : k.opened.kind = k := by
  cases k <;> rfl

/-! ### One step -/

theorem lookup_cons_ite {β : Type} (a b : String) (c : β) (l : List (String × β)) :
    ((b, c) :: l).lookup a = if a = b then some c else l.lookup a := by
  rw [List.lookup_cons]
  by_cases h : a = b
  · simp [h]
  · rw [if_neg h, beq_eq_false_iff_ne.2 h]

theorem toOption_ite {ε α : Type} (c : Bool) (a : α) (e : ε) :
    (if c then Except.ok a else Except.error e).toOption = if c then some a else none := by
  split <;> rfl

theorem toOption_bind {ε α β : Type} (x : Except ε α) (f : α → Except ε β) :
    (x >>= f).toOption = x.toOption.bind fun a => (f a).toOption := by
  cases x <;> rfl

namespace Opened

theorem child_eq (o : Opened) (name : String) :
    o.child name = (o.kind.child name).map Kind.opened := by
  unfold child
  split
  case h_12 | h_13 => cases o <;> first | rfl | contradiction
  case h_14 =>
    cases o <;>
      simp_all [kind, Kind.child, Kind.children, Kind.notes, lookup_cons_ite]
  all_goals rfl

theorem toOption_accessOf (value : String) :
    (accessOf value).toOption = accessNamed value := by
  unfold accessOf accessNamed
  split
  case h_4 => simp_all [lookup_cons_ite, Except.toOption]
  all_goals rfl

theorem toOption_directionOf (value : String) :
    (directionOf value).toOption = directionNamed value := by
  unfold directionOf directionNamed
  split
  case h_3 => simp_all [lookup_cons_ite, Except.toOption]
  all_goals rfl

theorem toOption_setAttr (o : Opened) (a : Attribute) :
    (o.setAttr a.1 a.2).toOption = if o.kind.allows a then some (o.assign a) else none := by
  obtain ⟨name, value⟩ := a
  cases o with
  | skip | doc _ | summary _ | description _ | para _ => rfl
  | node =>
    simp only [setAttr, toOption_ite]
    simp [kind, Kind.allows, assign]
  | interface d | method d | signal d =>
    by_cases hname : name.name = "name" <;>
      simp [setAttr, kind, Kind.allows, assign, hname] <;> rfl
  | note d =>
    by_cases hname : name.name = "name"
    · simp [setAttr, kind, Kind.allows, assign, hname]; rfl
    by_cases hvalue : name.name = "value" <;>
      simp [setAttr, kind, Kind.allows, assign, hname, hvalue] <;> rfl
  | property d =>
    by_cases hname : name.name = "name"
    · simp [setAttr, kind, Kind.allows, assign, hname]; rfl
    by_cases htype : name.name = "type"
    · simp [setAttr, kind, Kind.allows, assign, htype]; rfl
    by_cases haccess : name.name = "access"
    · simp only [setAttr, haccess, toOption_bind, toOption_accessOf]
      cases h : accessNamed value <;> simp [kind, Kind.allows, assign, haccess, h] ; rfl
    · simp [setAttr, kind, Kind.allows, hname, htype, haccess]; rfl
  | argument d =>
    by_cases hname : name.name = "name"
    · simp [setAttr, kind, Kind.allows, assign, hname]; rfl
    by_cases htype : name.name = "type"
    · simp [setAttr, kind, Kind.allows, assign, htype]; rfl
    by_cases hdirection : name.name = "direction"
    · simp only [setAttr, hdirection, toOption_bind, toOption_directionOf]
      cases h : directionNamed value <;> simp [kind, Kind.allows, assign, hdirection, h] ; rfl
    · simp [setAttr, kind, Kind.allows, hname, htype, hdirection]; rfl

theorem toOption_addText (o : Opened) (text : String) :
    (o.addText text).toOption
      = if o.kind.allowsText text then some (o.absorb (.text text)) else none := by
  cases o with
  | skip | summary _ | para _ => rfl
  | _ => exact toOption_ite ..

/-! ### Drafts that are complete -/

theorem kind_foldl_assign (attributes : List Attribute) (o : Opened) :
    (attributes.foldl assign o).kind = o.kind := by
  induction attributes generalizing o with
  | nil => rfl
  | cons a attributes ih => rw [List.foldl_cons, ih, kind_assign]

theorem kind_foldl_absorb (parts : List Part) (o : Opened) :
    (parts.foldl absorb o).kind = o.kind := by
  induction parts generalizing o with
  | nil => rfl
  | cons p parts ih => rw [List.foldl_cons, ih, kind_absorb]

end Opened

theorem valueOf_cons (name : String) (a : Attribute) (attributes : List Attribute) :
    valueOf name (a :: attributes)
      = (valueOf name attributes).or (if a.1.name = name then some a.2 else none) := by
  unfold valueOf
  rw [List.filter_cons]
  by_cases h : a.1.name = name
  · rw [if_pos (by simpa using h), if_pos h, List.getLast?_cons]
    cases (attributes.filter (·.1.name == name)).getLast? <;> rfl
  · rw [if_neg (by simpa using h), if_neg h, Option.or_none]

theorem lastOf_cons {α : Type} (f : Part → Option α) (p : Part) (parts : List Part) :
    lastOf f (p :: parts) = (lastOf f parts).or (f p) := by
  unfold lastOf
  cases h : f p with
  | none => rw [List.filterMap_cons_none h, Option.or_none]
  | some a =>
    rw [List.filterMap_cons_some h, List.getLast?_cons]
    cases (parts.filterMap f).getLast? <;> rfl

section Folds

variable (attributes : List Attribute) (parts : List Part)

open Opened (assign absorb)

theorem foldl_eq_self {α β : Type} {f : β → α → β} {b : β} (h : ∀ a, f b a = b) (as : List α) :
    as.foldl f b = b := by
  induction as with
  | nil => rfl
  | cons a as ih => rw [List.foldl_cons, h, ih]

theorem getD_map_none {α β : Type} (a : Option α) (f : α → Option β) :
    (a.map f).getD none = a.bind f := by
  cases a <;> rfl

/-- Elements whose only attribute is their name. -/
theorem foldl_assign_named (wrap : Option String → Opened)
    (h : ∀ a name, (wrap name).assign a = wrap (if a.1.name = "name" then some a.2 else name))
    (name : Option String) :
    attributes.foldl assign (wrap name) = wrap ((valueOf "name" attributes).or name) := by
  induction attributes generalizing name with
  | nil => rfl
  | cons a attributes ih =>
    rw [List.foldl_cons, valueOf_cons, h, ih]
    split
    · rw [Option.or_assoc, Option.some_or]
    · rw [Option.or_none]

theorem assign_named (d : InterfaceDraft) (m : MemberDraft) (a : Attribute) (name : Option String) :
    assign (.interface { d with name }) a
        = .interface { d with name := if a.1.name = "name" then some a.2 else name } ∧
      assign (.method { m with name }) a
        = .method { m with name := if a.1.name = "name" then some a.2 else name } ∧
      assign (.signal { m with name }) a
        = .signal { m with name := if a.1.name = "name" then some a.2 else name } := by
  by_cases h : a.1.name = "name" <;> simp [assign, h]

theorem foldl_assign_property (d : PropertyDraft) :
    attributes.foldl assign (.property d)
      = .property { d with
          name := (valueOf "name" attributes).or d.name
          type := (valueOf "type" attributes).or d.type
          access := ((valueOf "access" attributes).map accessNamed).getD d.access } := by
  induction attributes generalizing d with
  | nil => rfl
  | cons a attributes ih =>
    simp only [List.foldl_cons, valueOf_cons]
    by_cases hname : a.1.name = "name"
    · simp [assign, hname, ih]
    by_cases htype : a.1.name = "type"
    · simp [assign, htype, ih]
    by_cases haccess : a.1.name = "access"
    · cases h : valueOf "access" attributes <;> simp [assign, haccess, ih, h]
    · simp [assign, hname, htype, haccess, ih]

theorem foldl_assign_argument (d : ArgumentDraft) :
    attributes.foldl assign (.argument d)
      = .argument { d with
          name := (valueOf "name" attributes).or d.name
          type := (valueOf "type" attributes).or d.type
          direction :=
            ((valueOf "direction" attributes).map directionNamed).getD d.direction } := by
  induction attributes generalizing d with
  | nil => rfl
  | cons a attributes ih =>
    simp only [List.foldl_cons, valueOf_cons]
    by_cases hname : a.1.name = "name"
    · simp [assign, hname, ih]
    by_cases htype : a.1.name = "type"
    · simp [assign, htype, ih]
    by_cases hdirection : a.1.name = "direction"
    · cases h : valueOf "direction" attributes <;> simp [assign, hdirection, ih, h]
    · simp [assign, hname, htype, hdirection, ih]

theorem foldl_assign_note (d : AnnotationDraft) :
    attributes.foldl assign (.note d)
      = .note ⟨(valueOf "name" attributes).or d.name, (valueOf "value" attributes).or d.value⟩ := by
  induction attributes generalizing d with
  | nil => rfl
  | cons a attributes ih =>
    simp only [List.foldl_cons, valueOf_cons]
    by_cases hname : a.1.name = "name"
    · simp [assign, hname, ih]
    by_cases hvalue : a.1.name = "value"
    · simp [assign, hvalue, ih]
    · simp [assign, hname, hvalue, ih]

theorem foldl_absorb_interface (d : InterfaceDraft) :
    parts.foldl absorb (.interface d)
      = .interface { d with
          methods := d.methods ++ parts.filterMap (·.method?)
          signals := d.signals ++ parts.filterMap (·.signal?)
          properties := d.properties ++ parts.filterMap (·.property?)
          annotations := d.annotations ++ parts.filterMap (·.note?)
          doc := (lastOf (·.doc?) parts).getD d.doc } := by
  induction parts generalizing d with
  | nil => simp [lastOf]
  | cons p parts ih =>
    rw [List.foldl_cons, lastOf_cons]
    cases p <;> simp [absorb, ih, Part.method?, Part.signal?, Part.property?, Part.note?,
      Part.doc?]

/-- Methods and signals, which differ in where their arguments go. -/
theorem foldl_absorb_member (wrap : MemberDraft → Opened) (direct : DeclaredArgument → Argument)
    (h : ∀ p d, (wrap d).absorb p = wrap { d with
      arguments := d.arguments ++ (p.argument?.map direct).toList
      annotations := d.annotations ++ p.note?.toList
      doc := p.doc?.getD d.doc })
    (d : MemberDraft) :
    parts.foldl absorb (wrap d) = wrap { d with
      arguments := d.arguments ++ (parts.filterMap (·.argument?)).map direct
      annotations := d.annotations ++ parts.filterMap (·.note?)
      doc := (lastOf (·.doc?) parts).getD d.doc } := by
  induction parts generalizing d with
  | nil => simp [lastOf]
  | cons p parts ih =>
    rw [List.foldl_cons, lastOf_cons, h, ih]
    cases p <;> simp [Part.argument?, Part.note?, Part.doc?]

/-- Elements of which nothing counts but their notes. -/
theorem foldl_absorb_noted (wrap : List Annotation → Doc → Opened)
    (h : ∀ p notes doc, (wrap notes doc).absorb p
      = wrap (notes ++ p.note?.toList) (p.doc?.getD doc))
    (notes : List Annotation) (doc : Doc) :
    parts.foldl absorb (wrap notes doc)
      = wrap (notes ++ parts.filterMap (·.note?)) ((lastOf (·.doc?) parts).getD doc) := by
  induction parts generalizing notes doc with
  | nil => simp [lastOf]
  | cons p parts ih =>
    rw [List.foldl_cons, lastOf_cons, h, ih]
    cases p <;> simp [Part.note?, Part.doc?]

theorem foldl_absorb_doc (d : Doc) :
    parts.foldl absorb (.doc d)
      = .doc ⟨(lastOf (·.summary?) parts).getD d.summary,
          (lastOf (·.description?) parts).getD d.paragraph⟩ := by
  induction parts generalizing d with
  | nil => rfl
  | cons p parts ih =>
    rw [List.foldl_cons, lastOf_cons, lastOf_cons]
    cases p <;> simp [absorb, ih, Part.summary?, Part.description?]

/-- Elements that hold a text. -/
theorem foldl_absorb_text (wrap : Option String → Opened)
    (h : ∀ p text, (wrap text).absorb p = wrap ((p.text?.map Text.trim).or text))
    (text : Option String) :
    parts.foldl absorb (wrap text)
      = wrap (((lastOf (·.text?) parts).map Text.trim).or text) := by
  induction parts generalizing text with
  | nil => rfl
  | cons p parts ih =>
    rw [List.foldl_cons, lastOf_cons, h, ih]
    cases p <;> simp [Part.text?]

theorem foldl_absorb_description (t : Option String) :
    parts.foldl absorb (.description t) = .description ((lastOf (·.para?) parts).getD t) := by
  induction parts generalizing t with
  | nil => rfl
  | cons p parts ih =>
    rw [List.foldl_cons, lastOf_cons]
    cases p <;> simp [absorb, ih, Part.para?]

/-- A draft with all the attributes and parts of an element means what the element means. -/
theorem part_of_complete (k : Kind) :
    (parts.foldl absorb (attributes.foldl assign k.opened)).part = k.meaning attributes parts := by
  have hassign : ∀ o : Opened, (∀ a, o.assign a = o) → attributes.foldl assign o = o :=
    fun o h => foldl_eq_self h attributes
  have habsorb : ∀ o : Opened, (∀ p, o.absorb p = o) → parts.foldl absorb o = o :=
    fun o h => foldl_eq_self h parts
  cases k with
  | node | ignored =>
    rw [hassign _ fun _ => rfl, habsorb _ fun _ => rfl]
    rfl
  | interface =>
    rw [Kind.opened, foldl_assign_named attributes (fun name => .interface { name })
      (fun a name => (assign_named {} {} a name).1), foldl_absorb_interface]
    cases h : valueOf "name" attributes <;>
      simp [Opened.part, InterfaceDraft.build, required, Kind.meaning, h] <;> rfl
  | method =>
    rw [Kind.opened, foldl_assign_named attributes (fun name => .method { name })
      (fun a name => (assign_named {} {} a name).2.1),
      foldl_absorb_member parts .method (·.ofMethod) (fun p d => by
        cases p <;> simp [absorb, Part.argument?, Part.note?, Part.doc?])]
    cases h : valueOf "name" attributes <;>
      simp [Opened.part, MemberDraft.build, required, Kind.meaning, h] <;> rfl
  | signal =>
    rw [Kind.opened, foldl_assign_named attributes (fun name => .signal { name })
      (fun a name => (assign_named {} {} a name).2.2),
      foldl_absorb_member parts .signal (·.ofSignal) (fun p d => by
        cases p <;> simp [absorb, Part.argument?, Part.note?, Part.doc?])]
    cases h : valueOf "name" attributes <;>
      simp [Opened.part, MemberDraft.build, required, Kind.meaning, h] <;> rfl
  | property =>
    rw [Kind.opened, foldl_assign_property, foldl_absorb_noted parts
      (fun annotations doc => .property ⟨_, _, _, annotations, doc⟩)
      (fun p _ _ => by cases p <;> simp [absorb, Part.note?, Part.doc?])]
    cases hname : valueOf "name" attributes <;> cases htype : valueOf "type" attributes <;>
      cases haccess : (valueOf "access" attributes).bind accessNamed <;>
      simp [Opened.part, PropertyDraft.build, required, Kind.meaning, getD_map_none, hname, htype,
        haccess] <;> rfl
  | argument =>
    rw [Kind.opened, foldl_assign_argument, foldl_absorb_noted parts
      (fun annotations doc => .argument ⟨_, _, _, annotations, doc⟩)
      (fun p _ _ => by cases p <;> simp [absorb, Part.note?, Part.doc?])]
    cases htype : valueOf "type" attributes <;>
      simp [Opened.part, Kind.meaning, getD_map_none, htype]
  | note =>
    rw [Kind.opened, foldl_assign_note, habsorb _ fun _ => rfl]
    cases hname : valueOf "name" attributes <;> cases hvalue : valueOf "value" attributes <;>
      simp [Opened.part, AnnotationDraft.build, required, Kind.meaning, hname, hvalue] <;> rfl
  | doc =>
    rw [hassign _ fun _ => rfl, Kind.opened, foldl_absorb_doc]
    rfl
  | summary =>
    rw [hassign _ fun _ => rfl, Kind.opened, foldl_absorb_text parts .summary
      (fun p _ => by cases p <;> simp [absorb, Part.text?]), Option.or_none]
    rfl
  | description =>
    rw [hassign _ fun _ => rfl, Kind.opened, foldl_absorb_description]
    rfl
  | para =>
    rw [hassign _ fun _ => rfl, Kind.opened, foldl_absorb_text parts .para
      (fun p _ => by cases p <;> simp [absorb, Part.text?]), Option.or_none]
    rfl

end Folds

/-! ### The end of an element -/

/-- What is in a table is found by the names in it. -/
theorem mem_of_child {k c : Kind} {name : String} (h : k.child name = some c) :
    k = .ignored ∧ c = .ignored ∨ (name, c) ∈ k.children := by
  unfold Kind.child at h
  split at h
  · next hk =>
    cases h
    exact .inl ⟨hk, rfl⟩
  · obtain ⟨_, _, hk, -⟩ := List.lookup_eq_some_iff.1 h
    rw [hk]
    exact .inr (List.mem_append_right _ (List.mem_cons_self ..))

/-- An element that ends becomes a part of the one around it, if it has what it must have; an
interface is also found. -/
theorem toOption_handDown {o c : Opened} {name : String} (hchild : o.kind.child name = some c.kind)
    {below : List Opened} (hroot : o.kind = .node → below = []) {tag : Option String}
    (htag : tag = none ∨ tag = some name) :
    (Load.handDown c (o :: below) tag).toOption
      = c.part.map fun p => (o.absorb p :: below, p.interface?.toList) := by
  have hend : ∀ expected, expected = name → Load.expectEnd expected tag = .ok () := by
    rintro expected rfl
    rcases htag with rfl | rfl
    · rfl
    · exact if_pos (beq_self_eq_true _)
  rcases mem_of_child hchild with ⟨ho, hc⟩ | hmem
  · cases o <;> cases ho
    cases c <;> cases hc
    rfl
  · -- of all pairs of kinds those remain that stand in the table
    cases o <;> cases c <;> simp [Opened.kind, Kind.children, Kind.notes] at hmem
    case node.skip => rfl
    case node.interface d =>
      obtain rfl := hroot rfl
      simp only [Load.handDown, hend _ hmem.symm, Opened.part]
      cases d.build <;> rfl
    case interface.property d | interface.note d | method.note d | signal.note d | property.note d
        | argument.note d =>
      simp only [Load.handDown, hend _ hmem.symm, Opened.part]
      cases d.build <;> rfl
    case interface.method d =>
      simp only [Load.handDown, hend _ hmem.symm, Opened.part]
      cases d.build .missingMethodName <;> rfl
    case interface.signal d =>
      simp only [Load.handDown, hend _ hmem.symm, Opened.part]
      cases d.build .missingSignalName <;> rfl
    case method.argument d | signal.argument d =>
      simp only [Load.handDown, hend _ hmem.symm, Opened.part, ArgumentDraft.build]
      cases d.type <;> rfl
    all_goals
      simp only [Load.handDown, hend _ hmem.symm]
      rfl

/-! ### Interfaces stand in the root only -/

theorem Kind.ne_node_of_child {k c : Kind} {name : String} (h : k.child name = some c) :
    c ≠ .node := by
  rcases mem_of_child h with ⟨-, rfl⟩ | hmem
  · nofun
  · rintro rfl
    cases k <;> simp [Kind.children, Kind.notes] at hmem

theorem Kind.interface?_of_meaning {k : Kind} (hk : k ≠ .interface) {attributes : List Attribute}
    {parts : List Part} {p : Part} (h : k.meaning attributes parts = some p) :
    p.interface? = none := by
  cases k with
  | interface => exact absurd rfl hk
  | node | ignored | doc | summary | description | para =>
    cases h
    rfl
  | method | signal | argument =>
    obtain ⟨_, -, h⟩ := Option.bind_eq_some_iff.1 h
    cases h
    rfl
  | note =>
    obtain ⟨_, -, h⟩ := Option.bind_eq_some_iff.1 h
    obtain ⟨_, -, h⟩ := Option.bind_eq_some_iff.1 h
    cases h
    rfl
  | property =>
    obtain ⟨_, -, h⟩ := Option.bind_eq_some_iff.1 h
    obtain ⟨_, -, h⟩ := Option.bind_eq_some_iff.1 h
    obtain ⟨_, -, h⟩ := Option.bind_eq_some_iff.1 h
    cases h
    rfl

theorem Kind.eq_node_of_interface {k : Kind} {name : String} (h : k.child name = some .interface) :
    k = .node := by
  rcases mem_of_child h with ⟨-, hc⟩ | hmem
  · cases hc
  · cases k <;> simp_all [Kind.children, Kind.notes]

theorem interface?_of_read {k : Kind} (hk : k ≠ .node) {item : Item} {p : Part}
    (h : item.read k = some p) : p.interface? = none := by
  cases item with
  | text text =>
    rw [Item.read] at h
    split at h <;> cases h
    rfl
  | aside =>
    cases h
    rfl
  | element name attributes isShort content =>
    simp only [Item.read, Option.bind_eq_bind, Option.bind_eq_some_iff] at h
    obtain ⟨c, hc, h⟩ := h
    have hne : c ≠ .interface := by
      rintro rfl
      exact hk (Kind.eq_node_of_interface hc)
    split at h
    · obtain ⟨parts, -, hmeaning⟩ := Option.bind_eq_some_iff.1 h
      exact Kind.interface?_of_meaning hne hmeaning
    · cases h

/-- No interface is found inside of anything but the root. -/
theorem interfaces_of_readAll {k : Kind} (hk : k ≠ .node) {items : List Item} {parts : List Part}
    (h : readAll k items = some parts) : parts.filterMap (·.interface?) = [] := by
  induction items generalizing parts with
  | nil =>
    cases h
    rfl
  | cons item items ih =>
    simp only [readAll, Option.bind_eq_bind, Option.bind_eq_some_iff] at h
    obtain ⟨p, hp, ps, hps, h⟩ := h
    cases h
    exact (List.filterMap_cons_none (interface?_of_read hk hp)).trans (ih hps)

/-! ### Runs -/

namespace Load

/-- A load without its path, which has no part in what is found. -/
def forget (s : Load) : Load := { s with path := "" }

@[simp] theorem forget_mk (stack : List Opened) (path : String) (found : List Interface)
    (seen : Bool) : (Load.mk stack path found seen).forget = ⟨stack, "", found, seen⟩ := rfl

theorem forget_token (s : Load) (t : Token) :
    (s.forget.token t).map forget = (s.token t).map forget := by
  obtain ⟨stack, path, found, seen⟩ := s
  rw [forget_mk]
  cases t with
  | start name =>
    cases stack with
    | nil =>
      simp only [token, startElement]
      split <;> simp only [Except.map, forget_mk]
    | cons top below =>
      simp only [token, startElement]
      split <;> simp only [Except.map, forget_mk]
  | closedEmpty | close name =>
    cases stack with
    | nil => rfl
    | cons top below =>
      simp only [token, endElement]
      cases handDown top below _ with
      | error problem => simp only [error_bind]
      | ok handed => simp only [ok_bind, pure, Except.pure, Except.map, forget_mk]
  | attr name value =>
    cases stack with
    | nil => rfl
    | cons top below =>
      simp only [token, change]
      cases top.setAttr name value <;> rfl
  | text text =>
    cases stack with
    | nil =>
      simp only [token, change]
      split <;> rfl
    | cons top below =>
      simp only [token, change]
      cases top.addText text <;> rfl
  | opened | aside => rfl

/-- What a load has come to after some tokens, if there was no problem, but for its path. -/
def after (s : Load) (ts : List Token) : Option Load :=
  (s.run ts).toOption.map forget

@[simp] theorem after_nil (s : Load) : s.after [] = some s.forget := rfl

theorem after_cons (s : Load) (t : Token) (ts : List Token) :
    s.after (t :: ts) = (s.token t).toOption.bind (·.after ts) := by
  unfold after
  rw [run]
  cases s.token t <;> rfl

theorem after_forget (s : Load) (ts : List Token) : s.forget.after ts = s.after ts := by
  induction ts generalizing s with
  | nil => rfl
  | cons t ts ih =>
    have hrest : ∀ x : Except Problem Load,
        x.toOption.bind (·.after ts) = (x.map forget).toOption.bind (·.after ts) := by
      rintro (_ | s)
      · rfl
      · exact (ih s).symm
    rw [after_cons, after_cons, hrest, forget_token, ← hrest]

theorem after_append (s : Load) (ts us : List Token) :
    s.after (ts ++ us) = (s.after ts).bind (·.after us) := by
  rw [after, after, run_append]
  cases s.run ts with
  | error e => rfl
  | ok s' => exact (after_forget s' us).symm

theorem after_singleton (s : Load) (t : Token) :
    s.after [t] = (s.token t).toOption.map forget := by
  rw [after_cons]
  cases s.token t <;> rfl

theorem after_asides (s : Load) (n : Nat) : s.after (List.replicate n .aside) = some s.forget := by
  induction n with
  | zero => rfl
  | succ n ih =>
    rw [List.replicate_succ, after_cons]
    exact ih

variable (o : Opened) (below : List Opened) (path : String) (found : List Interface)
  (seen : Bool)

theorem toOption_change (f : Opened → Except Problem Opened) (outside : Except Problem Unit) :
    ((Load.mk (o :: below) path found seen).change f outside).toOption
      = (f o).toOption.map fun o => ⟨o :: below, path, found, seen⟩ := by
  simp only [change]
  cases f o <;> rfl

theorem after_attributes (attributes : List Attribute) :
    (Load.mk (o :: below) path found seen).after (attributes.map fun a => .attr a.1 a.2)
      = if attributes.all o.kind.allows then
          some ⟨attributes.foldl Opened.assign o :: below, "", found, seen⟩
        else none := by
  induction attributes generalizing o with
  | nil => rfl
  | cons a attributes ih =>
    rw [List.map_cons, after_cons, token, toOption_change, Opened.toOption_setAttr, List.all_cons]
    cases o.kind.allows a with
    | false => rfl
    | true =>
      have hassign := ih (o.assign a)
      rw [Opened.kind_assign] at hassign
      exact hassign

/-- What is put into an open element when one inside of it ends. -/
theorem toOption_endElement (c : Opened) (tag : Option String) :
    ((Load.mk (c :: below) path found seen).endElement tag).toOption
      = (handDown c below tag).toOption.map fun r => ⟨r.1, leave path, found ++ r.2, seen⟩ := by
  simp only [endElement]
  cases handDown c below tag <;> rfl

/-- What a load has come to after some items in an open element: their parts are added to it, and
the interfaces among them are found. -/
def Reads (items : List Item) : Prop :=
  ∀ o below path found seen, (o.kind = .node → below = []) →
    (Load.mk (o :: below) path found seen).after (tokensOf items)
      = (readAll o.kind items).map fun ps =>
        ⟨ps.foldl Opened.absorb o :: below, "", found ++ ps.filterMap (·.interface?), seen⟩

/-- An open element whose start tag has begun, up to its end. -/
theorem after_body {content : List Item} (hcontent : Reads content)
    (hroot : o.kind = .node → below = []) (name : Markup.Name) (attributes : List Attribute)
    (isShort : Bool) :
    ∃ tag, (tag = none ∨ tag = some name.name) ∧
      (Load.mk (o :: below) path found seen).after (attributes.map (fun a => .attr a.1 a.2)
          ++ if isShort && content.isEmpty then [.closedEmpty]
            else .opened :: tokensOf content ++ [.close name])
        = if attributes.all o.kind.allows then
            (readAll o.kind content).bind fun ps =>
              ((Load.mk (ps.foldl Opened.absorb (attributes.foldl Opened.assign o) :: below) ""
                (found ++ ps.filterMap (·.interface?)) seen).endElement tag).toOption.map forget
          else none := by
  have hassigned : (attributes.foldl Opened.assign o).kind = .node → below = [] := by
    rwa [Opened.kind_foldl_assign]
  by_cases hshort : (isShort && content.isEmpty) = true
  · refine ⟨none, .inl rfl, ?_⟩
    obtain ⟨-, hempty⟩ := Bool.and_eq_true_iff.1 hshort
    rw [if_pos hshort, List.isEmpty_iff.1 hempty, after_append, after_attributes]
    split
    · rw [Option.bind_some, after_singleton, readAll, Option.bind_some, List.foldl_nil,
        List.filterMap_nil, List.append_nil]
      rfl
    · rfl
  · refine ⟨some name.name, .inr rfl, ?_⟩
    rw [if_neg hshort, after_append, after_attributes]
    split
    · have hitems := hcontent _ below "" found seen hassigned
      rw [Opened.kind_foldl_assign] at hitems
      rw [Option.bind_some, List.cons_append, after_cons]
      change after _ (tokensOf content ++ [.close name]) = _
      rw [after_append, hitems]
      cases readAll o.kind content with
      | none => rfl
      | some ps => exact after_singleton ..
    · rfl

/-- One item in an open element. -/
def ReadsItem (item : Item) : Prop :=
  ∀ o below path found seen, (o.kind = .node → below = []) →
    (Load.mk (o :: below) path found seen).after item.tokens
      = (item.read o.kind).map fun p =>
        ⟨o.absorb p :: below, "", found ++ p.interface?.toList, seen⟩

theorem readsItem_text (text : String) : ReadsItem (.text text) := by
  intro o below path found seen _
  rw [Item.tokens, after_singleton, token, toOption_change, Opened.toOption_addText, Item.read]
  split
  · simp [Part.interface?]
  · rfl

theorem readsItem_aside : ReadsItem .aside := by
  intro o below path found seen _
  have habsorb : o.absorb .nothing = o := by cases o <;> rfl
  simp [Item.tokens, after_singleton, token, Item.read, habsorb, Except.toOption, Part.interface?]

theorem readsItem_element {content : List Item} (hcontent : Reads content) (name : Markup.Name)
    (attributes : List Attribute) (isShort : Bool) :
    ReadsItem (.element name attributes isShort content) := by
  intro o below path found seen hroot
  rw [Item.tokens, List.cons_append, after_cons, token, startElement]
  simp only [Opened.child_eq]
  rw [Item.read]
  cases hchild : o.kind.child name.name with
  | none => rfl
  | some k =>
    have hnode : k.opened.kind = .node → o :: below = [] := by
      rw [Kind.kind_opened]
      exact fun h => absurd h (Kind.ne_node_of_child hchild)
    obtain ⟨tag, htag, hbody⟩ := after_body k.opened (o :: below) (enter path name.name) found
      seen hcontent hnode name attributes isShort
    rw [Kind.kind_opened] at hbody
    refine hbody.trans ?_
    simp only [Option.bind_eq_bind, Option.bind_some]
    split
    · cases hparts : readAll k content with
      | none => rfl
      | some ps =>
        -- the draft is complete, and means what the element means
        let c := ps.foldl Opened.absorb (attributes.foldl Opened.assign k.opened)
        have hkind : c.kind = k := by
          rw [Opened.kind_foldl_absorb, Opened.kind_foldl_assign, Kind.kind_opened]
        have hend : (handDown c (o :: below) tag).toOption
            = (k.meaning attributes ps).map fun p =>
              (o.absorb p :: below, p.interface?.toList) := by
          rw [toOption_handDown (hkind ▸ hchild) hroot htag, part_of_complete]
        have hnone := interfaces_of_readAll (Kind.ne_node_of_child hchild) hparts
        rw [Option.bind_some, hnone, List.append_nil, toOption_endElement, hend, Option.map_map,
          Option.map_map, Option.bind_some]
        rfl
    · rfl

theorem reads_cons {item : Item} {items : List Item} (hitem : ReadsItem item)
    (hitems : Reads items) : Reads (item :: items) := by
  intro o below path found seen hroot
  rw [tokensOf, after_append, hitem o below path found seen hroot, readAll]
  cases item.read o.kind with
  | none => rfl
  | some p =>
    have hkept : (o.absorb p).kind = .node → below = [] := by
      rwa [Opened.kind_absorb]
    have hrest := hitems (o.absorb p) below "" (found ++ p.interface?.toList) seen hkept
    rw [Opened.kind_absorb] at hrest
    rw [Option.map_some, Option.bind_some, hrest]
    cases readAll o.kind items with
    | none => rfl
    | some ps => cases h : p.interface? <;> simp [h]

mutual

theorem readsItem : (item : Item) → ReadsItem item
  | .element name attributes isShort content =>
    readsItem_element (reads content) name attributes isShort
  | .text text => readsItem_text text
  | .aside => readsItem_aside

theorem reads : (items : List Item) → Reads items
  | [] => fun o below path found seen _ => by simp [tokensOf, readAll]
  | item :: items => reads_cons (readsItem item) (reads items)

end

end Load

/-! ### Documents -/

namespace Load

theorem after_root (d : DocumentTree) :
    start.after (Item.element d.name d.attributes d.isShort d.content).tokens
      = d.read.map fun found => ⟨[], "", found, true⟩ := by
  rw [Item.tokens, List.cons_append, after_cons, token, start, startElement]
  unfold DocumentTree.read
  by_cases hname : d.name.name = "node"
  · obtain ⟨tag, htag, hbody⟩ := after_body .node [] d.name.name [] true (reads d.content)
      (fun _ => rfl) d.name d.attributes d.isShort
    have hend : expectEnd "node" tag = .ok () := by
      rcases htag with rfl | rfl
      · rfl
      · exact if_pos (by simpa using hname)
    have hattributes : d.attributes.foldl Opened.assign .node = .node :=
      foldl_eq_self (fun _ => rfl) _
    have hparts : ∀ ps : List Part, ps.foldl Opened.absorb .node = .node :=
      foldl_eq_self fun _ => rfl
    have hkind : Opened.node.kind = .node := rfl
    rw [hkind, hname] at hbody
    simp only [hname, beq_self_eq_true, Bool.not_false, Bool.and_self, if_true, true_and]
    refine hbody.trans ?_
    split
    · cases readAll .node d.content with
      | none => rfl
      | some ps =>
        rw [Option.bind_some, hattributes, hparts, toOption_endElement, handDown, hend]
        simp [ok_bind, pure, Except.pure, Except.toOption]
    · rfl
  · simp [hname, Except.toOption]

end Load

/-- The tokens of a tree are loaded as the tree is read. -/
theorem toOption_interfacesOf (d : DocumentTree) :
    (interfacesOf ⟨d.tokens, true⟩).toOption = d.read := by
  have hrun : Load.start.after d.tokens = d.read.map fun found => ⟨[], "", found, true⟩ := by
    rw [DocumentTree.tokens, Load.after_append, Load.after_append, Load.after_asides,
      Option.bind_some, Load.after_forget, Load.after_root]
    cases d.read with
    | none => rfl
    | some found => exact Load.after_asides ..
  unfold interfacesOf
  rw [toOption_bind]
  unfold Load.after at hrun
  cases hs : (Load.start.run d.tokens).toOption with
  | none =>
    rw [hs] at hrun
    exact (Option.map_eq_none_iff.1 hrun.symm).symm
  | some s =>
    rw [hs] at hrun
    obtain ⟨found, hread, hfound⟩ := Option.map_eq_some_iff.1 hrun.symm
    obtain ⟨rfl, hseen⟩ : found = s.interfaces ∧ s.seenRoot = true :=
      ⟨congrArg Load.interfaces hfound, (congrArg Load.seenRoot hfound).symm⟩
    simp [hread, hseen, Except.toOption]

/-- The arguments of a method are inputs unless their elements say that they are outputs. -/
theorem ofElement_arguments (name : String) (declared : List DeclaredArgument)
    (annotations : List Annotation) (doc : Doc) :
    let m := Bindings.Method.ofElement ⟨name, declared.map (·.ofMethod), annotations, doc⟩
    m.inputs = (declared.filter (·.direction ≠ some .output)).map (fun a => ⟨a.name, a.type⟩) ∧
      m.outputs = (declared.filter (·.direction = some .output)).map
        fun a => ⟨a.name, a.type⟩ := by
  have hdirection : ∀ a : DeclaredArgument,
      (a.ofMethod.direction = .input ↔ a.direction ≠ some .output) ∧
        (a.ofMethod.direction = .output ↔ a.direction = some .output) := by
    intro a
    unfold DeclaredArgument.ofMethod
    rcases a.direction with _ | _ | _ <;> simp
  simp only [Bindings.Method.ofElement, List.filter_map, List.map_map, Function.comp_def,
    (hdirection _).1, (hdirection _).2]
  exact ⟨rfl, rfl⟩

/-- A text that is cut into the tokens of a tree is loaded as the tree is read by recursion: when
there is something wrong with the tree there is something wrong with the text, and else the
interfaces are the same, with their members and arguments in the order of the tree. The inputs and
outputs of the methods to generate code for are the arguments of either direction, in that order. -/
theorem load_tree (d : DocumentTree) :
    (interfacesOf ⟨d.tokens, true⟩).toOption = d.read ∧
      (∀ (tokenize : String → Markup.Tokens) (text : String), tokenize text = ⟨d.tokens, true⟩ →
        (loadWith tokenize text).toOption = d.read ∧
          (Bindings.Document.parseWith tokenize text).toOption
            = d.read.map fun found => ⟨found.map .ofElement⟩) ∧
      ∀ (name : String) (declared : List DeclaredArgument) (annotations : List Annotation)
        (doc : Doc),
        let m := Bindings.Method.ofElement ⟨name, declared.map (·.ofMethod), annotations, doc⟩
        m.inputs = (declared.filter (·.direction ≠ some .output)).map
            (fun a => ⟨a.name, a.type⟩) ∧
          m.outputs = (declared.filter (·.direction = some .output)).map
            fun a => ⟨a.name, a.type⟩ := by
  refine ⟨toOption_interfacesOf d, fun tokenize text htext => ?_, ofElement_arguments⟩
  have hload : (loadWith tokenize text).toOption = d.read := by
    rw [loadWith, htext, toOption_interfacesOf]
  refine ⟨hload, ?_⟩
  rw [Bindings.Document.parseWith, toOption_bind, hload]
  cases d.read <;> rfl

/-- A document with a comment, a `node` inside the root, and an attribute that is given twice. -/
def sampleTree : DocumentTree where
  asidesBefore := 1
  name := ⟨"", "node"⟩
  attributes := []
  isShort := false
  content := [
    .element ⟨"", "node"⟩ [] true [],
    .element ⟨"", "interface"⟩ [(⟨"", "name"⟩, "a"), (⟨"", "name"⟩, "b")] true []]
  asidesAfter := 0

theorem sampleTree_loaded :
    let text := "<!----><node><node/><interface name='a' name='b'/></node>"
    Markup.tokens text = ⟨sampleTree.tokens, true⟩ ∧
      (load text).toOption = some [⟨"b", [], [], [], [], {}⟩] := by
  intro text
  have htokens : Markup.tokens text = ⟨sampleTree.tokens, true⟩ := by
    have h : (Markup.tokens text).tokens = sampleTree.tokens ∧
        (Markup.tokens text).complete = true := by decide +kernel
    rw [← h.1, ← h.2]
  obtain ⟨-, hload, -⟩ := load_tree sampleTree
  refine ⟨htokens, (hload Markup.tokens text htokens).1.trans ?_⟩
  rfl

end DBus.Introspect
