import Logo.Machine.Meaning
import Mathlib.Data.List.Nodup

/-!
# Bindings and what procedures start with

A table of bindings is read by looking names up, so this is what the lemmas
here are about: what is found after a name has been bound, and what is found
in the scope in which a procedure starts.
-/

namespace Logo

namespace Bindings

variable {α : Type}

/-- A name that has just been bound is found, and all others are found as before. -/
theorem find?_insert (bindings : Bindings α) (name : String) (thing : α) (other : String) :
    (bindings.insert name thing).find? other =
      if other = name then some thing else bindings.find? other := by
  obtain ⟨entries⟩ := bindings
  simp only [insert, find?]
  induction entries with
  | nil =>
      rw [insertInto, List.lookup_cons]
      grind
  | cons entry rest induction =>
      rw [insertInto]
      grind

theorem insertInto_of_notMem {name : String} (thing : α) {entries : List (String × α)}
    (fresh : name ∉ entries.map Prod.fst) :
    insertInto name thing entries = entries ++ [(name, thing)] := by
  induction entries with
  | nil => rfl
  | cons entry rest induction =>
      simp only [List.map_cons, List.mem_cons, not_or] at fresh
      rw [insertInto, if_neg (by simpa using Ne.symm fresh.1), induction fresh.2,
        List.cons_append]

/-- Distinct names are bound in the order in which they are given. -/
theorem entries_ofList {pairs : List (String × α)} (distinct : (pairs.map Prod.fst).Nodup) :
    (ofList pairs).entries = pairs := by
  have bound (earlier later : List (String × α))
      (distinct : ((earlier ++ later).map Prod.fst).Nodup) :
      (later.foldl (fun bindings pair => bindings.insert pair.1 pair.2)
        ⟨earlier⟩ : Bindings α).entries = earlier ++ later := by
    induction later generalizing earlier with
    | nil => simp
    | cons pair rest induction =>
        have fresh : pair.1 ∉ earlier.map Prod.fst := by
          simp only [List.map_append, List.map_cons, List.nodup_append] at distinct
          exact fun member => distinct.2.2 pair.1 member pair.1 List.mem_cons_self rfl
        rw [List.foldl_cons, insert, insertInto_of_notMem pair.2 fresh]
        simpa using induction (earlier ++ [pair]) (by simpa using distinct)
  simpa [ofList, empty] using bound [] pairs (by simpa using distinct)

theorem lookup_of_mem {pairs : List (String × α)} (distinct : (pairs.map Prod.fst).Nodup)
    {name : String} {thing : α} (member : (name, thing) ∈ pairs) :
    pairs.lookup name = some thing := by
  induction pairs with
  | nil => cases member
  | cons pair rest induction => grind

end Bindings

/-- A procedure with distinct parameters starts with each of them bound to its input. -/
theorem Scope.find?_ofInputs {parameters : List String} {values : List Value}
    (distinct : (parameters.map Text.fold).Nodup) (fits : parameters.length = values.length)
    (name : String) :
    (Scope.ofInputs parameters values).bindings.find? name =
      ((parameters.map Text.fold).zip values).lookup name := by
  have names : (parameters.zip values).map Prod.fst = parameters :=
    List.map_fst_zip (Nat.le_of_eq fits)
  have inputs : (Bindings.ofList (parameters.zip values)).entries = parameters.zip values := by
    apply Bindings.entries_ofList
    rw [names]
    exact List.Nodup.of_map _ distinct
  have folded : (parameters.zip values).map (fun pair => (Text.fold pair.1, pair.2)) =
      (parameters.map Text.fold).zip values := by
    rw [List.zip_map_left]
    rfl
  have bound : (Bindings.ofList ((parameters.map Text.fold).zip values)).entries =
      (parameters.map Text.fold).zip values := by
    apply Bindings.entries_ofList
    rw [List.map_fst_zip (by simp [fits])]
    exact distinct
  simp only [ofInputs, Bindings.find?, inputs, folded, bound]

/-- A parameter is bound to the value at its own place. -/
theorem Scope.find?_ofInputs_of_mem {parameters : List String} {values : List Value}
    (distinct : (parameters.map Text.fold).Nodup) (fits : parameters.length = values.length)
    {parameter : String} {value : Value} (pair : (parameter, value) ∈ parameters.zip values) :
    (Scope.ofInputs parameters values).bindings.find? (Text.fold parameter) = some value := by
  rw [Scope.find?_ofInputs distinct fits]
  apply Bindings.lookup_of_mem
  · rw [List.map_fst_zip (by simp [fits])]
    exact distinct
  · rw [List.zip_map_left]
    exact List.mem_map.mpr ⟨(parameter, value), pair, rfl⟩

end Logo
