import DBus.Proofs.Bindings.Qualified

/-!
# What code passes to functions

The name of a function is the last word before the parentheses with its arguments. So the signatures
that code gives to messages and boxes, those that it asks of them, and the members that it names can
be read off the text: they are what it passes to certain functions. The values that go in or out are
told by the routines that are called.
-/

namespace DBus.Bindings

open Code (paren brace doc remark call commaSeparated calls signatures textBehind)

/-- The last word of a text. -/
@[irreducible] def lastWord (text : String) : String :=
  String.ofList (text.toList.reverse.takeWhile (· != ' ')).reverse

mutual

/-- What a piece passes to the calls of a function; `before` is the text before the piece. -/
def Piece.passedTo (function before : String) : Piece → Code
  | .group .paren body =>
    (if lastWord before = function then body else []) ++ Code.passedTo function "" body
  | .group _ body => Code.passedTo function "" body
  | .fixed _ | .define _ | .use _ | .literal _ | .signature _ | .routine _ _ => []

/-- What code passes to the calls of a function; `before` is the text before the code. -/
def Code.passedTo (function before : String) : Code → Code
  | [] => []
  | p :: ps => p.passedTo function before ++ Code.passedTo function p.fixedText ps

end

namespace Code

/-- What code passes to the calls of a function, call by call. -/
def given (c : Code) (function : String) : Code :=
  c.passedTo function ""

/-- The string literals that stand in code outside of any group. -/
def literals (c : Code) : List String :=
  c.filterMap fun
    | .literal text => some text
    | _ => none

/-- The signatures that code makes and attaches to messages along with a body. -/
def attached (c : Code) : List String :=
  (signatures ((c.given "with_body").given "new")).map Ty.signatureOf

/-- The signature of the message that code sends, which is empty if the message is given no body. -/
def sentSignature (c : Code) : String :=
  c.attached.headD ""

/-- The signatures that code expects messages to have. -/
def expected (c : Code) : List String :=
  (signatures (c.given "body_of")).map Ty.signatureOf

/-- The signatures by which code puts a value into a box. -/
def boxed (c : Code) : List String :=
  (signatures (c.given "to_variant")).map Ty.signatureOf

/-- The signatures by which code takes a value out of a box. -/
def unboxed (c : Code) : List String :=
  (signatures (c.given "from_variant")).map Ty.signatureOf

/-- The names of the routines by which code reads or writes values, in order. -/
def values (d : Direction) (c : Code) : List String :=
  (calls c).filterMap fun r => if r.1 = d then some r.2 else none

/-! ### The last word -/

/-- What stands before a blank does not count. -/
theorem lastWord_append_of_blank (text rest : String) (h : ' ' ∈ rest.toList) :
    lastWord (text ++ rest) = lastWord rest := by
  have hmem : ' ' ∈ rest.toList.reverse := List.mem_reverse.mpr h
  have hstop : (rest.toList.reverse.takeWhile (· != ' ')).length ≠ rest.toList.reverse.length := by
    intro hlength
    rw [← (List.takeWhile_prefix _).eq_of_length hlength] at hmem
    have hblank := List.all_eq_true.mp List.all_takeWhile ' ' hmem
    simp at hblank
  simp only [lastWord, String.toList_append, List.reverse_append]
  rw [List.takeWhile_append, if_neg hstop]

/-- Functions whose names end a text that has something else before it. -/
theorem lastWord_append (text : String) :
    lastWord (text ++ " . with_body") = "with_body" ∧
    lastWord (text ++ " :: Message :: method_return (message) . with_body") = "with_body" ∧
    lastWord (text ++ " :: Signature :: new") = "new" ∧
    lastWord (text ++ " . body_of") = "body_of" ∧
    lastWord (text ++ " :: Message :: method_call") = "method_call" ∧
    lastWord (text ++ " :: Message :: signal") = "signal" ∧
    lastWord (text ++ " :: MatchRule :: new") = "new" ∧
    lastWord (text ++ " :: SignalWatch :: spawn") = "spawn" ∧
    lastWord (text ++ " :: BodyBuf :: from_variant") = "from_variant" ∧
    lastWord (text ++ " :: MethodError :: failed") = "failed" ∧
    lastWord (text ++ ") ? ; Ok") = "Ok" ∧
    lastWord (text ++ "let subscription = self . transport . subscribe (rule) ? ; Ok") = "Ok" := by
  refine ⟨?_, ?_, ?_, ?_, ?_, ?_, ?_, ?_, ?_, ?_, ?_, ?_⟩ <;>
    exact (lastWord_append_of_blank _ _ (by decide +kernel)).trans (by decide +kernel)

/-- Functions whose names end a text that is the same for every interface. -/
theorem lastWord_text :
    lastWord "" = "" ∧ lastWord "Ok" = "Ok" ∧ lastWord "Some" = "Some" ∧
    lastWord "return Err" = "Err" ∧
    lastWord "subscription , move | message | handler" = "handler" ∧
    lastWord "let mut body = match message . body_of" = "body_of" ∧
    lastWord "if let Err (error) = message . body_of" = "body_of" ∧
    lastWord "buf . to_variant" = "to_variant" ∧
    lastWord "(& mut buf , value) ? ; let value = buf . to_variant" = "to_variant" ∧
    lastWord "let value = self . get_property_variant" = "get_property_variant" ∧
    lastWord "? ; self . set_property_variant" = "set_property_variant" := by
  decide +kernel

/-! ### Pieces -/

section Passed

variable (function before : String)

@[simp] theorem passedTo_nil : passedTo function before [] = [] := rfl

@[simp] theorem passedTo_cons (p : Piece) (c : Code) :
    passedTo function before (p :: c)
      = p.passedTo function before ++ passedTo function p.fixedText c := rfl

attribute [simp] Piece.passedTo

@[simp] theorem passedTo_paren (body : Code) :
    (paren body).passedTo function before =
      (if lastWord before = function then body else []) ++ passedTo function "" body := rfl

@[simp] theorem passedTo_brace (body : Code) :
    (brace body).passedTo function before = passedTo function "" body := rfl

@[simp] theorem passedTo_doc (text : String) : passedTo function before (doc text) = [] := rfl

@[simp] theorem passedTo_remark (line : String) : passedTo function before (remark line) = [] := rfl

@[simp] theorem passedTo_call (d : Direction) (name : String) :
    passedTo function before (call d name) = [] := rfl

@[simp] theorem passedTo_append (c d : Code) :
    passedTo function before (c ++ d)
      = passedTo function before c ++ passedTo function (textBehind before c) d := by
  induction c generalizing before with
  | nil => rfl
  | cons p c ih => simp [textBehind, ih]

@[simp] theorem passedTo_flatMap {α : Type} {f : α → Code} {xs : List α}
    (h : ∀ x ∈ xs, ∀ before, passedTo function before (f x) = []) :
    passedTo function before (xs.flatMap f) = [] := by
  induction xs generalizing before with
  | nil => rfl
  | cons x xs ih =>
    rw [List.flatMap_cons, passedTo_append, h x (List.mem_cons_self ..)]
    exact ih _ fun y hy => h y (List.mem_cons_of_mem x hy)

theorem passedTo_commaSeparated {cs : List Code}
    (h : ∀ c ∈ cs, ∀ before, passedTo function before c = []) :
    passedTo function before (commaSeparated cs) = [] := by
  induction cs generalizing before with
  | nil => rfl
  | cons c cs ih =>
    have hc : ∀ before, passedTo function before c = [] := h c (List.mem_cons_self ..)
    have hcs : ∀ before, passedTo function before (commaSeparated cs) = [] := fun b =>
      ih b fun d hd => h d (List.mem_cons_of_mem c hd)
    cases cs with
    | nil => exact hc before
    | cons d cs => simp [commaSeparated, hc, hcs]

end Passed

@[simp] theorem calls_paren (body : Code) : (paren body).calls = calls body := rfl

@[simp] theorem calls_call (d : Direction) (name : String) :
    calls (call d name) = [(d, name)] := rfl

theorem calls_commaSeparated {cs : List Code} (h : ∀ c ∈ cs, calls c = []) :
    calls (commaSeparated cs) = [] := by
  induction cs with
  | nil => rfl
  | cons c cs ih =>
    have hcs := ih fun d hd => h d (List.mem_cons_of_mem c hd)
    cases cs with
    | nil => exact h c (List.mem_cons_self ..)
    | cons d cs => simp [commaSeparated, h c (List.mem_cons_self ..), hcs]

end Code

/-! ### Arguments -/

open Code (passedTo)

/-- The routines for some arguments, all to be read or all to be written. -/
def routinesFor (d : Direction) (args : List ResolvedArgument) : List (Direction × String) :=
  args.map fun a => (d, routineName d a.type)

section Arguments

variable (args : List ResolvedArgument)

@[simp] theorem calls_params (f : Ty → String) : calls (Arguments.params f args) = [] :=
  Code.calls_commaSeparated (by simp)

@[simp] theorem calls_idents : calls (commaSeparated (args.map fun a => [.use a.ident])) = [] :=
  Code.calls_commaSeparated (by simp)

theorem calls_readLocals :
    calls (Arguments.readLocals args).result = routinesFor .read args := by
  simp [Arguments.readLocals, routinesFor, List.map_eq_flatMap]

theorem calls_writeLocals :
    calls (Arguments.writeLocals args).result = routinesFor .write args := by
  simp [Arguments.writeLocals, routinesFor, List.map_eq_flatMap]

theorem calls_tuple : calls (Arguments.tuple args) = [] := by
  unfold Arguments.tuple
  split <;> simp

@[simp] theorem calls_fromMessage (message : String) :
    calls (Arguments.fromMessage message args).result = routinesFor .read args := by
  cases args with
  | nil => rfl
  | cons a args => simp [Arguments.fromMessage, calls_readLocals, calls_tuple]

@[simp] theorem calls_intoMessage (rt message : String) :
    calls (Arguments.intoMessage rt message args).result = routinesFor .write args := by
  cases args with
  | nil => rfl
  | cons a args => simp [Arguments.intoMessage, calls_writeLocals]

variable (function before : String)

@[simp] theorem passedTo_params (f : Ty → String) :
    passedTo function before (Arguments.params f args) = [] :=
  Code.passedTo_commaSeparated function before (by simp)

@[simp] theorem passedTo_idents :
    passedTo function before (commaSeparated (args.map fun a => [.use a.ident])) = [] :=
  Code.passedTo_commaSeparated function before (by simp)

@[simp] theorem passedTo_readLocals :
    passedTo function before (Arguments.readLocals args).result = [] := by
  simp [Arguments.readLocals]

theorem passedTo_writeLocals (h : function ≠ "") :
    passedTo function before (Arguments.writeLocals args).result = [] := by
  simp [Arguments.writeLocals, Piece.fixedText, call, Code.lastWord_text, h.symm]

theorem passedTo_tuple (h : function ≠ "") :
    passedTo function "" (Arguments.tuple args) = [] := by
  unfold Arguments.tuple
  split <;> simp [Code.lastWord_text, h.symm]

/-- A message is given a body along with the signature of the arguments, if there are any. -/
def Arguments.attachment (rt : String) (args : List ResolvedArgument) : Code :=
  if args.isEmpty then []
  else [.fixed (rt ++ " :: Signature :: new"), paren [.signature (typesOf args)], .fixed "? , body"]

theorem attached_of_attachment (rt : String) {args : List ResolvedArgument} {c : Code}
    (h : c.given "with_body" = Arguments.attachment rt args) :
    c.attached = if args.isEmpty then [] else [Ty.signatureOf (typesOf args)] := by
  rw [Code.attached, h, Arguments.attachment]
  split <;> simp [Code.given, Piece.fixedText, Code.lastWord_append]

theorem withBody_intoMessage (rt message : String) :
    passedTo "with_body" before (Arguments.intoMessage rt message args).result
      = Arguments.attachment rt args := by
  cases args with
  | nil => rfl
  | cons a args =>
    simp [Arguments.intoMessage, Arguments.attachment, passedTo_writeLocals, Piece.fixedText,
      Code.lastWord_append, textBehind]

/-- A message is expected to have the signature of the arguments. -/
theorem bodyOf_fromMessage (message : String) :
    passedTo "body_of" before (Arguments.fromMessage message args).result
      = [.signature (typesOf args)] := by
  cases args with
  | nil => simp [Arguments.fromMessage, Piece.fixedText, Code.lastWord_append]
  | cons a args =>
    simp [Arguments.fromMessage, passedTo_tuple, Piece.fixedText, Code.lastWord_append,
      Code.lastWord_text, textBehind]

theorem passedTo_intoMessage (rt message : String) (h : function ∉ ["", "with_body", "new"]) :
    passedTo function before (Arguments.intoMessage rt message args).result = [] := by
  simp only [List.mem_cons, List.not_mem_nil, or_false, not_or] at h
  obtain ⟨hempty, hbody, hnew⟩ := h
  cases args with
  | nil => rfl
  | cons a args =>
    simp [Arguments.intoMessage, passedTo_writeLocals, Piece.fixedText, Code.lastWord_append,
      textBehind, hempty, Ne.symm hbody, Ne.symm hnew]

theorem passedTo_fromMessage (message : String) (h : function ∉ ["", "body_of", "Ok"]) :
    passedTo function before (Arguments.fromMessage message args).result = [] := by
  simp only [List.mem_cons, List.not_mem_nil, or_false, not_or] at h
  obtain ⟨hempty, hbody, hok⟩ := h
  cases args with
  | nil => simp [Arguments.fromMessage, Piece.fixedText, Code.lastWord_append, Ne.symm hbody]
  | cons a args =>
    simp [Arguments.fromMessage, passedTo_tuple, Piece.fixedText, Code.lastWord_append,
      Code.lastWord_text, textBehind, hempty, Ne.symm hbody, Ne.symm hok]

end Arguments

end DBus.Bindings
