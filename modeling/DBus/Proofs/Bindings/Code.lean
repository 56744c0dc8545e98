import DBus.Bindings.Code

/-!
# What can be read off code

The names that code defines, the routines that it calls and the signatures in it are those of its
pieces, one after the other. So what code is put together from can be read off its parts.
-/

namespace DBus.Bindings.Code

/-! ### Names defined -/

@[simp] theorem defines_nil : defines [] = [] := rfl

@[simp] theorem defines_append (c d : Code) : defines (c ++ d) = defines c ++ defines d :=
  List.filterMap_append

@[simp] theorem defines_flatMap {α : Type} (f : α → Code) (xs : List α) :
    defines (xs.flatMap f) = xs.flatMap fun x => defines (f x) :=
  List.filterMap_flatMap

@[simp] theorem defines_define (name : Ident) (c : Code) :
    defines (.define name :: c) = name :: defines c := rfl

@[simp] theorem defines_fixed (text : String) (c : Code) :
    defines (.fixed text :: c) = defines c := rfl

@[simp] theorem defines_use (name : Ident) (c : Code) :
    defines (.use name :: c) = defines c := rfl

@[simp] theorem defines_brace (body c : Code) : defines (brace body :: c) = defines c := rfl

@[simp] theorem defines_doc (text : String) : defines (doc text) = [] := rfl

/-! ### Routines called -/

@[simp] theorem calls_nil : calls [] = [] := rfl

@[simp] theorem calls_cons (p : Piece) (c : Code) : calls (p :: c) = p.calls ++ calls c := rfl

@[simp] theorem calls_append (c d : Code) : calls (c ++ d) = calls c ++ calls d := by
  induction c with
  | nil => rfl
  | cons p ps ih => simp [ih]

@[simp] theorem calls_flatMap {α : Type} (f : α → Code) (xs : List α) :
    calls (xs.flatMap f) = xs.flatMap fun x => calls (f x) := by
  induction xs with
  | nil => rfl
  | cons x xs ih => simp [ih]

attribute [simp] Piece.calls

@[simp] theorem calls_brace (body : Code) : (brace body).calls = calls body := rfl

@[simp] theorem calls_doc (text : String) : calls (doc text) = [] := rfl

@[simp] theorem calls_remark (line : String) : calls (remark line) = [] := rfl

/-! ### Signatures -/

@[simp] theorem signatures_nil : signatures [] = [] := rfl

@[simp] theorem signatures_cons (p : Piece) (c : Code) :
    signatures (p :: c) = p.signatures ++ signatures c := rfl

@[simp] theorem signatures_append (c d : Code) :
    signatures (c ++ d) = signatures c ++ signatures d := by
  induction c with
  | nil => rfl
  | cons p ps ih => simp [ih]

@[simp] theorem signatures_flatMap {α : Type} (f : α → Code) (xs : List α) :
    signatures (xs.flatMap f) = xs.flatMap fun x => signatures (f x) := by
  induction xs with
  | nil => rfl
  | cons x xs ih => simp [ih]

attribute [simp] Piece.signatures

@[simp] theorem signatures_paren (body : Code) : (paren body).signatures = signatures body := rfl

@[simp] theorem signatures_brace (body : Code) : (brace body).signatures = signatures body := rfl

@[simp] theorem signatures_doc (text : String) : signatures (doc text) = [] := rfl

@[simp] theorem signatures_remark (line : String) : signatures (remark line) = [] := rfl

@[simp] theorem signatures_call (d : Direction) (name : String) :
    signatures (call d name) = [] := rfl

theorem signatures_commaSeparated : ∀ {cs : List Code}, (∀ c ∈ cs, signatures c = []) →
    signatures (commaSeparated cs) = []
  | [], _ => rfl
  | [c], h => h c (List.mem_cons_self ..)
  | c :: d :: cs, h => by
    rw [commaSeparated, signatures_append, h c (List.mem_cons_self ..)]
    · exact signatures_commaSeparated fun e he => h e (List.mem_cons_of_mem _ he)
    · simp

end DBus.Bindings.Code
