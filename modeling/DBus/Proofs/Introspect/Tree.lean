import DBus.Introspect.Load

/-!
# What a tree of elements describes

The elements of an introspection document, read by recursion over the tree that they form. What may
stand in an element, and what the element means, depends on its kind only: the kind of the element
around it and its name decide it.
-/

namespace DBus.Introspect

open DBus.Markup (Token)

/-! ### Trees -/

/-- An attribute: its name and its value. -/
abbrev Attribute := Markup.Name × String

/-- What an element holds: elements, texts, and comments and the like, which say nothing. -/
inductive Item where
  /-- An element. It is written without an end tag if it is to be short and holds nothing. -/
  | element (name : Markup.Name) (attributes : List Attribute) (isShort : Bool)
    (content : List Item)
  | text (text : String)
  | aside

mutual

/-- The tokens of an item. -/
def Item.tokens : Item → List Token
  | .element name attributes isShort content =>
    .start name :: attributes.map (fun a => .attr a.1 a.2)
      ++ if isShort && content.isEmpty then [.closedEmpty]
        else .opened :: tokensOf content ++ [.close name]
  | .text text => [.text text]
  | .aside => [.aside]

/-- The tokens of items, one after the other. -/
def tokensOf : List Item → List Token
  | [] => []
  | item :: items => item.tokens ++ tokensOf items

end

/-- A document: one element, with comments and the like before and after it. -/
structure DocumentTree where
  asidesBefore : Nat
  name : Markup.Name
  attributes : List Attribute
  isShort : Bool
  content : List Item
  asidesAfter : Nat

/-- The tokens of a document. -/
def DocumentTree.tokens (d : DocumentTree) : List Token :=
  List.replicate d.asidesBefore .aside
    ++ (Item.element d.name d.attributes d.isShort d.content).tokens
    ++ List.replicate d.asidesAfter .aside

/-! ### Kinds of elements -/

/-- The kinds of elements. -/
inductive Kind where
  | node | interface | method | signal | property | argument | note
  | doc | summary | description | para
  /-- A `node` inside the root, and everything inside of it. -/
  | ignored
  deriving DecidableEq

namespace Kind

/-- The notes that elements may hold, for tools and for readers. -/
def notes : List (String × Kind) :=
  [("annotation", .note), ("doc", .doc)]

/-- The names of the elements that an element may hold, and their kinds. -/
def children : Kind → List (String × Kind)
  | .node => [("node", .ignored), ("interface", .interface)]
  | .interface => [("method", .method), ("signal", .signal), ("property", .property)] ++ notes
  | .method | .signal => ("arg", .argument) :: notes
  | .property | .argument => notes
  | .doc => [("summary", .summary), ("description", .description)]
  | .description => [("para", .para)]
  | .note | .summary | .para | .ignored => []

/-- The kind of an element by its name; in what is ignored, everything is. -/
def child (inside : Kind) (name : String) : Option Kind :=
  if inside = .ignored then some .ignored else inside.children.lookup name

/-- Whether a text may stand in an element. -/
def allowsText : Kind → String → Bool
  | .summary, _ | .para, _ | .ignored, _ => true
  | _, text => Text.allBlank text

end Kind

/-! ### Attributes -/

/-- The value of an attribute: the last one that is given. -/
def valueOf (name : String) (attributes : List Attribute) : Option String :=
  (attributes.filter (·.1.name == name)).getLast?.map (·.2)

/-- The access to a property that a value stands for. -/
def accessNamed (value : String) : Option Access :=
  [("read", .read), ("write", .write), ("readwrite", .readWrite)].lookup value

/-- The direction of an argument that a value stands for. -/
def directionNamed (value : String) : Option Direction :=
  [("in", .input), ("out", .output)].lookup value

/-- Whether an element may have an attribute. Where names are in two parts the first does not count,
but for the root, which may say what they stand for. -/
def Kind.allows : Kind → Attribute → Bool
  | .node, (name, _) =>
    name.space == "xmlns" || name.space == "" && ["xmlns", "name"].contains name.name
  | .interface, (name, _) | .method, (name, _) | .signal, (name, _) => name.name == "name"
  | .property, (name, value) =>
    ["name", "type"].contains name.name || name.name == "access" && (accessNamed value).isSome
  | .argument, (name, value) =>
    ["name", "type"].contains name.name || name.name == "direction" && (directionNamed value).isSome
  | .note, (name, _) => ["name", "value"].contains name.name
  | .doc, _ | .summary, _ | .description, _ | .para, _ => false
  | .ignored, _ => true

/-! ### What elements mean -/

/-- An argument as its element declares it: it need not say in which direction it goes. -/
structure DeclaredArgument where
  name : Option String
  type : String
  direction : Option Direction
  annotations : List Annotation
  doc : Doc

/-- An argument of a method goes to the object unless it says otherwise. -/
def DeclaredArgument.ofMethod (a : DeclaredArgument) : Argument :=
  ⟨a.name, a.type, a.direction.getD .input, a.annotations, a.doc⟩

/-- An argument of a signal comes from the object, whatever it says. -/
def DeclaredArgument.ofSignal (a : DeclaredArgument) : Argument :=
  ⟨a.name, a.type, .output, a.annotations, a.doc⟩

/-- What an item means to the element around it. -/
inductive Part where
  | nothing
  | text (text : String)
  | interface (i : Interface)
  | method (m : Member)
  | signal (m : Member)
  | property (p : Property)
  | argument (a : DeclaredArgument)
  | note (a : Annotation)
  | doc (doc : Doc)
  | summary (text : Option String)
  | description (paragraph : Option String)
  | para (text : Option String)

namespace Part

/-- The text that a part is. -/
def text? : Part → Option String
  | .text t => some t
  | _ => none

/-- The interface that a part is. -/
def interface? : Part → Option Interface
  | .interface i => some i
  | _ => none

/-- The method that a part is. -/
def method? : Part → Option Member
  | .method m => some m
  | _ => none

/-- The signal that a part is. -/
def signal? : Part → Option Member
  | .signal m => some m
  | _ => none

/-- The property that a part is. -/
def property? : Part → Option Property
  | .property p => some p
  | _ => none

/-- The argument that a part is. -/
def argument? : Part → Option DeclaredArgument
  | .argument a => some a
  | _ => none

/-- The annotation that a part is. -/
def note? : Part → Option Annotation
  | .note a => some a
  | _ => none

/-- The `doc` that a part is. -/
def doc? : Part → Option Doc
  | .doc d => some d
  | _ => none

/-- The summary that a part is, which may be without a text. -/
def summary? : Part → Option (Option String)
  | .summary t => some t
  | _ => none

/-- The description that a part is, which may be without a paragraph. -/
def description? : Part → Option (Option String)
  | .description t => some t
  | _ => none

/-- The paragraph that a part is, which may be without a text. -/
def para? : Part → Option (Option String)
  | .para t => some t
  | _ => none

end Part

/-- The last of the parts that something can be made of. -/
def lastOf {α : Type} (f : Part → Option α) (parts : List Part) : Option α :=
  (parts.filterMap f).getLast?

/-- What an element of a kind means by its attributes and its parts, if it has what it must have. Of
what there should be one the last counts: of a `doc` in an element, of a summary and a description in
a `doc`, and of the pieces of a text, which lose the space around them. -/
def Kind.meaning (k : Kind) (attributes : List Attribute) (parts : List Part) : Option Part :=
  let value (name : String) := valueOf name attributes
  let annotations := parts.filterMap (·.note?)
  let doc := (lastOf (·.doc?) parts).getD {}
  let text := (lastOf (·.text?) parts).map Text.trim
  match k with
  | .node | .ignored => some .nothing
  | .interface => do
    return .interface ⟨← value "name", parts.filterMap (·.method?), parts.filterMap (·.signal?),
      parts.filterMap (·.property?), annotations, doc⟩
  | .method => do
    return .method ⟨← value "name", (parts.filterMap (·.argument?)).map (·.ofMethod), annotations,
      doc⟩
  | .signal => do
    return .signal ⟨← value "name", (parts.filterMap (·.argument?)).map (·.ofSignal), annotations,
      doc⟩
  | .property => do
    return .property ⟨← value "name", ← value "type", ← (value "access").bind accessNamed,
      annotations, doc⟩
  | .argument => do
    return .argument ⟨value "name", ← value "type", (value "direction").bind directionNamed,
      annotations, doc⟩
  | .note => do return .note ⟨← value "name", ← value "value"⟩
  | .doc => some (.doc ⟨(lastOf (·.summary?) parts).getD none,
      (lastOf (·.description?) parts).getD none⟩)
  | .summary => some (.summary text)
  | .description => some (.description ((lastOf (·.para?) parts).getD none))
  | .para => some (.para text)

mutual

/-- What an item means inside an element of a kind, if it may stand there. -/
def Item.read (inside : Kind) : Item → Option Part
  | .element name attributes _ content => do
    let kind ← inside.child name.name
    if attributes.all kind.allows then kind.meaning attributes (← readAll kind content) else none
  | .text text => if inside.allowsText text then some (.text text) else none
  | .aside => some .nothing

/-- What items mean inside an element of a kind, one by one. -/
def readAll (inside : Kind) : List Item → Option (List Part)
  | [] => some []
  | item :: items => do return (← item.read inside) :: (← readAll inside items)

end

/-- The interfaces that a document describes: those right inside its root, which is a `node`. -/
def DocumentTree.read (d : DocumentTree) : Option (List Interface) :=
  if d.name.name = "node" ∧ d.attributes.all Kind.node.allows then
    (readAll .node d.content).map (·.filterMap (·.interface?))
  else none

end DBus.Introspect
