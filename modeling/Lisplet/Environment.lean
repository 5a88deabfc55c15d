import Lisplet.Dictionary
import Lisplet.Value.Basic

/-!
# Environments

An environment is a scope of bindings with an optional scope around it. Scopes live in a heap and
are known by their number, so several inner scopes can share an outer one and see its changes. A
scope is made after the scope around it and has a larger number, so the way outwards always ends.
Names are kept in canonical form: canonically equivalent spellings name one binding.
-/

namespace Lisplet

/-- The number of a scope in the heap. -/
abbrev ScopeId := Nat

/-- The bindings of one scope. -/
structure Scope where
  /-- The bindings, by canonical name. -/
  bindings : Dictionary Value
  /-- The scope around this one. -/
  outer : Option ScopeId
  deriving Inhabited

/-- All scopes there are. -/
structure Heap where
  /-- The scopes, in the order in which they were made. -/
  scopes : Array Scope

namespace Heap

/-- The heap without scopes. -/
def empty : Heap := ⟨#[]⟩

/-- The scope with a given number. -/
def scope? (h : Heap) (e : ScopeId) : Option Scope := h.scopes[e]?

/-- The bindings of a scope. -/
def bindings (h : Heap) (e : ScopeId) : Dictionary Value :=
  ((h.scope? e).map Scope.bindings).getD .empty

/-- The scope around a scope. -/
def outer? (h : Heap) (e : ScopeId) : Option ScopeId := (h.scope? e).bind Scope.outer

/-- A scope and the scopes around it, from the inside to the outside. -/
def chain (h : Heap) (e : ScopeId) : List ScopeId :=
  match h.outer? e with
  | some o => if o < e then e :: chain h o else [e]
  | none => [e]
termination_by e

/-- Whether a scope itself holds a canonical name. -/
def holds (h : Heap) (key : Text) (e : ScopeId) : Bool := (h.bindings e).holds key

/-- The innermost scope that holds a name. -/
def resolve? (h : Heap) (e : ScopeId) (name : Text) : Option ScopeId :=
  let key := name.nfc
  (h.chain e).find? (h.holds key)

/-- The value bound to a name. -/
def lookup? (h : Heap) (e : ScopeId) (name : Text) : Option Value :=
  (h.resolve? e name).bind fun s => (h.bindings s).get? name.nfc

/-- The value bound to a name, or absence. -/
def get (h : Heap) (e : ScopeId) (name : Text) : Value := (h.lookup? e name).getD .nil

/-- Whether a name is bound. -/
def has (h : Heap) (e : ScopeId) (name : Text) : Bool := (h.resolve? e name).isSome

/-- Whether a name is bound in the scope itself. -/
def hasLocal (h : Heap) (e : ScopeId) (name : Text) : Bool := h.holds name.nfc e

/-- The heap with one binding of one scope written. -/
def write (h : Heap) (e : ScopeId) (key : Text) (value : Value) : Heap :=
  ⟨h.scopes.modify e fun s => { s with bindings := s.bindings.insert key value }⟩

/-- Binds a name in a scope, whatever the scopes around it hold. -/
def set (h : Heap) (e : ScopeId) (name : Text) (value : Value) : Heap :=
  h.write e name.nfc value.clone

/-- Replaces the innermost binding of a name. There is no result if the name is not bound. -/
def assign? (h : Heap) (e : ScopeId) (name : Text) (value : Value) : Option Heap :=
  (h.resolve? e name).map fun s => h.write s name.nfc value.clone

/-- Binds several names, in the given order. -/
def setMany (h : Heap) (e : ScopeId) (pairs : List (Text × Value)) : Heap :=
  pairs.foldl (fun h pair => h.set e pair.1 pair.2) h

/-- A new empty scope inside another, or a root if there is none around it. -/
def new (h : Heap) (outer : Option ScopeId) : ScopeId × Heap :=
  (h.scopes.size, ⟨h.scopes.push ⟨.empty, outer⟩⟩)

/-- A new root scope. -/
def newRoot (h : Heap) : ScopeId × Heap := h.new none

/-- A new scope inside a scope. -/
def push (h : Heap) (e : ScopeId) : ScopeId × Heap := h.new (some e)

/-- The names bound in a scope, in ascending order. -/
def keys (h : Heap) (e : ScopeId) : List Text := (h.bindings e).keys

/-- The bindings of a scope, in ascending order of the names. -/
def all (h : Heap) (e : ScopeId) : List (Text × Value) := h.bindings e

/-- A scope in words: its names, and whether it has a scope around it. -/
def describe (h : Heap) (e : ScopeId) : Text :=
  text "Env\x7bstore: [" ++ Text.join (text " ") (h.keys e) ++ text "], outer: "
    ++ text (if (h.outer? e).isSome then "true" else "false") ++ text "\x7d"

end Heap

end Lisplet
