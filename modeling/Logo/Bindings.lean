/-!
# Bindings

A table from names to things.  Each name occurs once, where it was first
bound; binding it again replaces the thing.
-/

namespace Logo

/-- Names bound to things, in the order in which they were first bound. -/
structure Bindings (α : Type) where
  entries : List (String × α)

namespace Bindings

variable {α : Type}

/-- No bindings. -/
def empty : Bindings α := ⟨[]⟩

/-- What a name is bound to. -/
def find? (bindings : Bindings α) (name : String) : Option α :=
  bindings.entries.lookup name

/-- Replace what a name is bound to, or add it at the end. -/
def insertInto (name : String) (thing : α) : List (String × α) → List (String × α)
  | [] => [(name, thing)]
  | (other, old) :: rest =>
      if other == name then
        (name, thing) :: rest
      else
        (other, old) :: insertInto name thing rest

/-- Bind a name. -/
def insert (bindings : Bindings α) (name : String) (thing : α) : Bindings α :=
  ⟨insertInto name thing bindings.entries⟩

/-- Bind names to things, one after the other. -/
def ofList (pairs : List (String × α)) : Bindings α :=
  pairs.foldl (fun bindings pair => bindings.insert pair.1 pair.2) empty

end Bindings

end Logo
