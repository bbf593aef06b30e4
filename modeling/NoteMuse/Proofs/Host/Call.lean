import NoteMuse.Host
import NoteMuse.Proofs.Except
import NoteMuse.Proofs.Host.Functions

/-!
Calls of host functions. A name without a function fails as undefined and draws nothing; a function that
gives nothing back fails under its name, and never as undefined, whatever it does.
-/

namespace NoteMuse.Host

open NoteMuse.Random

theorem Functions.resolve_of_find?_some {fs : Functions} {name : String} {f : Handler}
    (hf : fs.find? name = some f) (v : Vault) (args : List Arg) (g : Generator) :
    fs.resolve v name args g =
      ((f v args g).1.mapError (.ofFailure name), (f v args g).2) := by
  unfold resolve
  rw [hf]
  rfl

variable {h : Host} {name : String}

theorem call_of_find?_none (hf : h.functions.find? name = none) (args : List Arg) (g : Generator) :
    h.call name args g = (.error (.undefined name), g) := by
  unfold call Functions.resolve
  rw [hf]
  rfl

/-- What a function gives back is rendered, and what it fails by is told with its name. -/
theorem call_of_find?_some {f : Handler} (hf : h.functions.find? name = some f) (args : List Arg)
    (g : Generator) :
    h.call name args g =
      match f h.vault args g with
      | (.ok v, g) => (.ok (v.render h.delimiter), g)
      | (.error e, g) => (.error (.ofFailure name e), g) := by
  unfold call
  simp only [bind, ExceptT.bind, ExceptT.mk, StateT.bind, Functions.resolve_of_find?_some hf]
  rcases f h.vault args g with ⟨e | v, g⟩ <;> rfl

/-- A call does not return exactly when its function does not. -/
theorem call_eq_endless_iff {args : List Arg} {g : Generator} {other : String} :
    (h.call name args g).1 = .error (.endless other) ↔
      other = name ∧ ∃ f, h.functions.find? name = some f ∧ (f h.vault args g).1 = .error .hung := by
  cases hf : h.functions.find? name with
  | none =>
    rw [call_of_find?_none hf]
    simp
  | some f =>
    rw [call_of_find?_some hf]
    rcases hr : f h.vault args g with ⟨e | v, g⟩
    · cases e <;> simp [FunctionError.ofFailure, hr, eq_comm]
    · simp [hr]

/-- **When a call fails as undefined**: when no function is registered under its name. -/
theorem call_eq_undefined_iff {args : List Arg} {g : Generator} {other : String} :
    (h.call name args g).1 = .error (.undefined other) ↔ name ∉ h.functions.names ∧ other = name := by
  rw [← Functions.contains_iff, Functions.contains_eq_isSome_find?]
  cases hf : h.functions.find? name with
  | none =>
    rw [call_of_find?_none hf]
    simp [eq_comm]
  | some f =>
    rw [call_of_find?_some hf]
    rcases f h.vault args g with ⟨e | v, g⟩
    · cases e <;> simp [FunctionError.ofFailure]
    · simp

end NoteMuse.Host
