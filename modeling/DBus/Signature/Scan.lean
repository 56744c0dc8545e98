import DBus.Ty
import DBus.TypeCode

/-!
# Reading a signature

A signature is read in one pass, a character at a time. What has been opened and not yet closed is a
stack of frames; a complete type goes into the frame on top, which may complete that frame in turn.
Reading `Ty.signatureOf ts` gives back `ts` when every tree is one that a signature can spell.
-/

namespace DBus

/-- Something opened in a signature and not yet closed. -/
inductive Frame where
  /-- An array whose element is still to come. -/
  | array
  /-- A struct with the fields read so far. -/
  | struct (fields : List Ty)
  /-- A dict entry whose key is still to come. -/
  | entry
  /-- A dict entry whose value is still to come. -/
  | keyed (key : Ty)
  /-- A dict entry that is complete but for its closing brace. -/
  | full (key value : Ty)
  deriving DecidableEq

/-- How far the reading of a signature has come. -/
structure Scan where
  /-- What is open, innermost first. -/
  frames : List Frame
  /-- The complete types before it, in order. -/
  done : List Ty

namespace Scan

/-- A signature is shorter than this many bytes. -/
def lengthLimit : Nat := 256

/-- Arrays nest at most this deep, and so do structs. -/
def containerLimit : Nat := 32

/-- Arrays and structs together nest at most this deep. -/
def depthLimit : Nat := 64

/-- The scan of nothing. -/
def start : Scan := ⟨[], []⟩

/-- The number of open arrays. -/
def arrays (frames : List Frame) : Nat :=
  frames.countP fun | .array => true | _ => false

/-- The number of open structs. -/
def structs (frames : List Frame) : Nat :=
  frames.countP fun | .struct _ => true | _ => false

/-- Puts a complete type where it belongs, which completes every array that waits for it. -/
def close (t : Ty) : List Frame → List Ty → Except SignatureError Scan
  | [], done => .ok ⟨[], done ++ [t]⟩
  | .array :: frames, done => close (.array t) frames done
  | .struct fields :: frames, done => .ok ⟨.struct (fields ++ [t]) :: frames, done⟩
  | .entry :: frames, done =>
    if t.isBasic then .ok ⟨.keyed t :: frames, done⟩ else .error .dictKeyMustBeBasicType
  | .keyed key :: frames, done => .ok ⟨.full key t :: frames, done⟩
  | .full _ _ :: _, _ => .error .dictEntryHasTooManyFields

/-- Begins a type at a character that does not close anything. -/
def begin (c : Char) (s : Scan) : Except SignatureError Scan :=
  match BasicType.ofCode? c with
  | some b => close (.basic b) s.frames s.done
  | none =>
    match c with
    | 'v' => close .variant s.frames s.done
    | 'a' =>
      if arrays s.frames = containerLimit ∨ arrays s.frames + structs s.frames = depthLimit then
        .error .exceededMaximumArrayRecursion
      else .ok { s with frames := .array :: s.frames }
    | '(' =>
      if structs s.frames = containerLimit ∨ arrays s.frames + structs s.frames = depthLimit then
        .error .exceededMaximumStructRecursion
      else .ok { s with frames := .struct [] :: s.frames }
    | ')' => .error .structEndedButNotStarted
    | '\x7b' => .error .dictEntryNotInsideArray
    | '\x7d' => .error .dictEndedButNotStarted
    | c => .error (.unknownTypeCode (leadByte c))

/-- Reads one character. -/
def step (s : Scan) (c : Char) : Except SignatureError Scan :=
  match s.frames, c with
  | .array :: _, '\x7b' => .ok { s with frames := .entry :: s.frames }
  | .array :: _, ')' | .array :: _, '\x7d' => .error .missingArrayElementType
  | .struct [] :: _, ')' => .error .structHasNoFields
  | .struct fields :: frames, ')' => close (.struct fields) frames s.done
  | .entry :: _, '\x7d' => .error .dictEntryHasNoFields
  | .keyed _ :: _, '\x7d' => .error .dictEntryHasOnlyOneField
  | .full key value :: frames, '\x7d' => close (.entry key value) frames s.done
  | .full _ _ :: _, _ => .error .dictEntryHasTooManyFields
  | _, c => s.begin c

/-- The types of a text that ends here. -/
def finish (s : Scan) : Except SignatureError (List Ty) :=
  match s.frames with
  | [] => .ok s.done
  | .array :: _ => .error .missingArrayElementType
  | .struct _ :: _ => .error .structStartedButNotEnded
  | .entry :: _ | .keyed _ :: _ | .full _ _ :: _ => .error .dictStartedButNotEnded

end Scan

namespace Ty

/-- The types that a signature spells. -/
def parseAll (s : String) : Except SignatureError (List Ty) :=
  if Scan.lengthLimit ≤ s.utf8ByteSize then .error .signatureTooLong
  else s.toList.foldlM Scan.step Scan.start >>= Scan.finish

/-- The one type that a signature spells. -/
def parse (s : String) : Except SignatureError Ty := do
  match ← parseAll s with
  | [t] => .ok t
  | ts => .error (.expectedSingleCompleteType ts.length)

end Ty

end DBus
