import DBus.Introspect.Element
import DBus.Introspect.Error
import DBus.Markup.Lexer
import DBus.Text.Split

/-!
# Loading an introspection document

A document is loaded token by token. The elements that are open form a stack, each with what has
been read of it; an element that ends is checked and handed to the one below. Below the root `node`
only interfaces count: a `node` inside it is passed over with everything it holds.
-/

namespace DBus.Introspect

open DBus.Markup (Token)

/-! ### Elements in the making -/

/-- An argument with what has been read of it. -/
structure ArgumentDraft where
  name : Option String := none
  type : Option String := none
  direction : Option Direction := none
  annotations : List Annotation := []
  doc : Doc := {}
  deriving Inhabited

/-- A method or signal with what has been read of it. -/
structure MemberDraft where
  name : Option String := none
  arguments : List Argument := []
  annotations : List Annotation := []
  doc : Doc := {}
  deriving Inhabited

/-- A property with what has been read of it. -/
structure PropertyDraft where
  name : Option String := none
  type : Option String := none
  access : Option Access := none
  annotations : List Annotation := []
  doc : Doc := {}
  deriving Inhabited

/-- An interface with what has been read of it. -/
structure InterfaceDraft where
  name : Option String := none
  methods : List Member := []
  signals : List Member := []
  properties : List Property := []
  annotations : List Annotation := []
  doc : Doc := {}
  deriving Inhabited

/-- An annotation with what has been read of it. -/
structure AnnotationDraft where
  name : Option String := none
  value : Option String := none
  deriving Inhabited

/-- What must be there, or else a problem. -/
def required (problem : Problem) : Option α → Except Problem α
  | some a => .ok a
  | none => .error problem

/-- The argument that a draft describes, going in a direction unless it says otherwise. -/
def ArgumentDraft.build (d : ArgumentDraft) (direction : Direction) : Except Problem Argument := do
  let type ← required .missingArgumentType d.type
  return ⟨d.name, type, d.direction.getD direction, d.annotations, d.doc⟩

/-- The method or signal that a draft describes. -/
def MemberDraft.build (d : MemberDraft) (unnamed : Problem) : Except Problem Member := do
  let name ← required unnamed d.name
  return ⟨name, d.arguments, d.annotations, d.doc⟩

/-- The property that a draft describes. -/
def PropertyDraft.build (d : PropertyDraft) : Except Problem Property := do
  let name ← required .missingPropertyName d.name
  let type ← required .missingPropertyType d.type
  let access ← required .missingPropertyAccess d.access
  return ⟨name, type, access, d.annotations, d.doc⟩

/-- The interface that a draft describes. -/
def InterfaceDraft.build (d : InterfaceDraft) : Except Problem Interface := do
  let name ← required .missingInterfaceName d.name
  return ⟨name, d.methods, d.signals, d.properties, d.annotations, d.doc⟩

/-- The annotation that a draft describes. -/
def AnnotationDraft.build (d : AnnotationDraft) : Except Problem Annotation := do
  let name ← required .missingAnnotationName d.name
  let value ← required .missingAnnotationValue d.value
  return ⟨name, value⟩

/-! ### Open elements -/

/-- An element that has started and not ended. -/
inductive Opened where
  /-- An element that is passed over. -/
  | skip
  | node
  | interface (draft : InterfaceDraft)
  | method (draft : MemberDraft)
  | signal (draft : MemberDraft)
  | property (draft : PropertyDraft)
  | argument (draft : ArgumentDraft)
  | note (draft : AnnotationDraft)
  | doc (doc : Doc)
  | summary (text : Option String)
  | description (paragraph : Option String)
  | para (text : Option String)
  deriving Inhabited

namespace Opened

/-- Whether an element may have annotations and a `doc`. -/
def isDescribed : Opened → Bool
  | .interface _ | .method _ | .signal _ | .property _ | .argument _ => true
  | _ => false

/-- The element that starts by a name inside another one. -/
def child (inside : Opened) (name : String) : Option Opened :=
  match inside, name with
  | .skip, _ => some .skip
  | .node, "node" => some .skip
  | .node, "interface" => some (.interface {})
  | .interface _, "method" => some (.method {})
  | .interface _, "signal" => some (.signal {})
  | .interface _, "property" => some (.property {})
  | .method _, "arg" | .signal _, "arg" => some (.argument {})
  | .doc _, "summary" => some (.summary none)
  | .doc _, "description" => some (.description none)
  | .description _, "para" => some (.para none)
  | inside, "annotation" => if inside.isDescribed then some (.note {}) else none
  | inside, "doc" => if inside.isDescribed then some (.doc {}) else none
  | _, _ => none

/-- The element with one more annotation. -/
def annotate (a : Annotation) : Opened → Option Opened
  | .interface d => some (.interface { d with annotations := d.annotations ++ [a] })
  | .method d => some (.method { d with annotations := d.annotations ++ [a] })
  | .signal d => some (.signal { d with annotations := d.annotations ++ [a] })
  | .property d => some (.property { d with annotations := d.annotations ++ [a] })
  | .argument d => some (.argument { d with annotations := d.annotations ++ [a] })
  | _ => none

/-- The element with a given `doc`. -/
def document (doc : Doc) : Opened → Option Opened
  | .interface d => some (.interface { d with doc })
  | .method d => some (.method { d with doc })
  | .signal d => some (.signal { d with doc })
  | .property d => some (.property { d with doc })
  | .argument d => some (.argument { d with doc })
  | _ => none

/-- The access that a text names. -/
def accessOf : String → Except Problem Access
  | "read" => .ok .read
  | "write" => .ok .write
  | "readwrite" => .ok .readWrite
  | other => .error (.unsupportedPropertyAccess other)

/-- The direction that a text names. -/
def directionOf : String → Except Problem Direction
  | "in" => .ok .input
  | "out" => .ok .output
  | other => .error (.unsupportedArgumentDirection other)

/-- The element with one more attribute; of an attribute that is repeated the last one counts. -/
def setAttr (attr : Markup.Name) (value : String) : Opened → Except Problem Opened
  | .skip => .ok .skip
  | .node =>
    if attr.space == "xmlns" || attr.space == "" && (attr.name == "xmlns" || attr.name == "name")
    then .ok .node else .error (.unsupportedAttribute attr.name)
  | .interface d =>
    match attr.name with
    | "name" => .ok (.interface { d with name := some value })
    | other => .error (.unsupportedAttribute other)
  | .method d =>
    match attr.name with
    | "name" => .ok (.method { d with name := some value })
    | other => .error (.unsupportedAttribute other)
  | .signal d =>
    match attr.name with
    | "name" => .ok (.signal { d with name := some value })
    | other => .error (.unsupportedAttribute other)
  | .property d =>
    match attr.name with
    | "name" => .ok (.property { d with name := some value })
    | "type" => .ok (.property { d with type := some value })
    | "access" => do return .property { d with access := some (← accessOf value) }
    | other => .error (.unsupportedAttribute other)
  | .argument d =>
    match attr.name with
    | "name" => .ok (.argument { d with name := some value })
    | "type" => .ok (.argument { d with type := some value })
    | "direction" => do return .argument { d with direction := some (← directionOf value) }
    | other => .error (.unsupportedAttribute other)
  | .note d =>
    match attr.name with
    | "name" => .ok (.note { d with name := some value })
    | "value" => .ok (.note { d with value := some value })
    | other => .error (.unsupportedAttribute other)
  | .doc _ | .summary _ | .description _ | .para _ => .error (.unsupportedAttribute attr.name)

/-- The element with more text in it; of a text in several pieces the last one counts. -/
def addText (text : String) : Opened → Except Problem Opened
  | .summary _ => .ok (.summary (some (Text.trim text)))
  | .para _ => .ok (.para (some (Text.trim text)))
  | .skip => .ok .skip
  | other => if Text.allBlank text then .ok other else .error .unsupportedText

end Opened

/-! ### Loading -/

/-- How far the loading of a document has come. -/
structure Load where
  /-- The open elements, innermost first. -/
  stack : List Opened
  /-- Their names, outermost first, joined by slashes. -/
  path : String
  /-- The interfaces that have ended. -/
  interfaces : List Interface
  /-- Whether the root element has started. -/
  seenRoot : Bool
  deriving Inhabited

namespace Load

/-- Nothing of a document. -/
def start : Load := ⟨[], "", [], false⟩

/-- The path with one more name. -/
def enter (path name : String) : String :=
  if path.isEmpty then name else path ++ "/" ++ name

/-- The path up to its last slash, or nothing of a path without one. -/
def leave (path : String) : String :=
  String.ofList (((path.toList.reverse.dropWhile (· != '/')).drop 1).reverse)

/-- An element starts. -/
def startElement (s : Load) (name : String) : Except Problem Load :=
  match s.stack with
  | [] =>
    if name == "node" && !s.seenRoot then
      .ok { s with stack := [.node], path := enter s.path name, seenRoot := true }
    else .error (.unsupportedElementStart name)
  | top :: _ =>
    match top.child name with
    | some opened => .ok { s with stack := opened :: s.stack, path := enter s.path name }
    | none => .error (.unsupportedElementStart name)

/-- Compares the name in an end tag, if there is one, with the name it must have. -/
def expectEnd (expected : String) : Option String → Except Problem Unit
  | some actual => if actual == expected then .ok () else .error (.mismatchingEnd expected actual)
  | none => .ok ()

/-- The innermost element ends: what the stack below becomes, and the interface that has ended. -/
def handDown (top : Opened) (below : List Opened) (name : Option String) :
    Except Problem (List Opened × List Interface) :=
  match top, below with
  | .skip, below => .ok (below, [])
  | .node, [] => do
    expectEnd "node" name
    return ([], [])
  | .interface d, [.node] => do
    expectEnd "interface" name
    return ([.node], [← d.build])
  | .method d, .interface i :: below => do
    expectEnd "method" name
    let m ← d.build .missingMethodName
    return (.interface { i with methods := i.methods ++ [m] } :: below, [])
  | .signal d, .interface i :: below => do
    expectEnd "signal" name
    let m ← d.build .missingSignalName
    return (.interface { i with signals := i.signals ++ [m] } :: below, [])
  | .property d, .interface i :: below => do
    expectEnd "property" name
    let p ← d.build
    return (.interface { i with properties := i.properties ++ [p] } :: below, [])
  | .argument d, .method m :: below => do
    expectEnd "arg" name
    let a ← d.build .input
    return (.method { m with arguments := m.arguments ++ [a] } :: below, [])
  | .argument d, .signal m :: below => do
    expectEnd "arg" name
    let a ← d.build .output
    let a := { a with direction := .output }
    return (.signal { m with arguments := m.arguments ++ [a] } :: below, [])
  | .note d, parent :: below => do
    expectEnd "annotation" name
    let parent ← required .unsupportedElementEnd (parent.annotate (← d.build))
    return (parent :: below, [])
  | .doc doc, parent :: below => do
    expectEnd "doc" name
    let parent ← required .unsupportedElementEnd (parent.document doc)
    return (parent :: below, [])
  | .summary text, .doc doc :: below => do
    expectEnd "summary" name
    return (.doc { doc with summary := text } :: below, [])
  | .description paragraph, .doc doc :: below => do
    expectEnd "description" name
    return (.doc { doc with paragraph } :: below, [])
  | .para text, .description _ :: below => do
    expectEnd "para" name
    return (.description text :: below, [])
  | _, _ => .error .unsupportedElementEnd

/-- An element ends, by an end tag with a name or without one. -/
def endElement (s : Load) (name : Option String) : Except Problem Load :=
  match s.stack with
  | [] => .error .unsupportedElementEnd
  | top :: below => do
    let (stack, ended) ← handDown top below name
    return { s with stack, path := leave s.path, interfaces := s.interfaces ++ ended }

/-- Changes the innermost element. -/
def change (s : Load) (f : Opened → Except Problem Opened) (outside : Except Problem Unit) :
    Except Problem Load :=
  match s.stack with
  | top :: below => do return { s with stack := (← f top) :: below }
  | [] => do
    outside
    return s

/-- Loads one token. -/
def token (s : Load) : Token → Except Problem Load
  | .start name => s.startElement name.name
  | .attr name value =>
    s.change (Opened.setAttr name value) (.error (.unsupportedAttribute name.name))
  | .opened | .aside => .ok s
  | .closedEmpty => s.endElement none
  | .close name => s.endElement (some name.name)
  | .text text =>
    s.change (Opened.addText text)
      (if Text.allBlank text then .ok () else .error .unsupportedText)

/-- Loads tokens in order, up to the first with a problem. -/
def run (s : Load) : List Token → Except LoadError Load
  | [] => .ok s
  | t :: ts =>
    match s.token t with
    | .ok s => s.run ts
    | .error problem => .error ⟨s.path, problem⟩

end Load

/-- The interfaces that the tokens of a document describe. A problem with one of the tokens comes
before the problem that the text behind them is not markup. -/
def interfacesOf (document : Markup.Tokens) : Except LoadError (List Interface) := do
  let s ← Load.start.run document.tokens
  if !document.complete then .error ⟨s.path, .markup⟩
  else if !s.seenRoot then .error ⟨s.path, .missingNode⟩
  else .ok s.interfaces

/-- The interfaces that an introspection document describes, given what cuts a text into tokens. -/
def loadWith (tokenize : String → Markup.Tokens) (document : String) :
    Except LoadError (List Interface) :=
  interfacesOf (tokenize document)

/-- The interfaces that an introspection document describes. -/
def load (document : String) : Except LoadError (List Interface) :=
  loadWith Markup.tokens document

end DBus.Introspect
