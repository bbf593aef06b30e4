import NoteMuse.Proofs.Modifier

/-!
Capitals put on again. A text whose first character, or the first of each word, was capitalized does not change when
this is done again, also where one character became several; capitals on all words take in the one on the first. Main
statement: `applyChain_capitals`.
-/

namespace NoteMuse

namespace Inflection

open Text

variable {c : Char}

lemma exists_upperOf_eq_cons (c : Char) : ∃ d ds, upperOf c = d :: ds ∧ upperOf d = [d] := by
  cases hc : upperOf c with
  | nil => exact absurd hc (upperOf_ne_nil c)
  | cons d ds => exact ⟨d, ds, rfl, upperOf_head hc⟩

lemma capitalize_upperOf_append (c : Char) (cs : List Char) : capitalize (upperOf c ++ cs) = upperOf c ++ cs := by
  obtain ⟨d, ds, hc, hd⟩ := exists_upperOf_eq_cons c
  rw [hc, List.cons_append, capitalize, hd, List.singleton_append]

lemma capitalizeFrom_false_append {ds : List Char} (h : ∀ d ∈ ds, isBlank d = false) (cs : List Char) :
    capitalizeFrom false (ds ++ cs) = ds ++ capitalizeFrom false cs := by
  induction ds with
  | nil => rfl
  | cons d ds ih =>
    obtain ⟨hd, hds⟩ := List.forall_mem_cons.mp h
    rw [List.cons_append, capitalizeFrom, if_neg (by simp [hd]), if_neg (by simp), ih hds]
    rfl

/-- An upper case, of however many characters, stays as it is at the beginning of a word and inside of one. -/
theorem capitalizeFrom_upperOf_append (h : isBlank c = false) (fresh : Bool) (cs : List Char) :
    capitalizeFrom fresh (upperOf c ++ cs) = upperOf c ++ capitalizeFrom false cs := by
  have hblank : ∀ d ∈ upperOf c, isBlank d = false := fun d hd => isBlank_of_mem_upperOf h hd
  obtain ⟨d, ds, hc, hd⟩ := exists_upperOf_eq_cons c
  rw [hc] at hblank ⊢
  obtain ⟨hfirst, hrest⟩ := List.forall_mem_cons.mp hblank
  rw [List.cons_append, capitalizeFrom, if_neg (by simp [hfirst]), hd, ite_self,
    capitalizeFrom_false_append hrest]
  rfl

/-! ### Capitals twice -/

lemma capitalize_capitalize (cs : List Char) : capitalize (capitalize cs) = capitalize cs := by
  cases cs with
  | nil => rfl
  | cons c cs => exact capitalize_upperOf_append c cs

lemma capitalizeFrom_capitalizeFrom (fresh : Bool) (cs : List Char) :
    capitalizeFrom fresh (capitalizeFrom fresh cs) = capitalizeFrom fresh cs := by
  induction cs generalizing fresh with
  | nil => rfl
  | cons c cs ih =>
    cases hc : isBlank c with
    | true => simp only [capitalizeFrom, hc, if_true, ih]
    | false =>
      cases fresh with
      | true =>
        simp only [capitalizeFrom, hc, if_true, Bool.false_eq_true, if_false]
        rw [capitalizeFrom_upperOf_append hc, ih]
      | false => simp [capitalizeFrom, hc, ih]

lemma capitalizeAll_capitalizeAll (cs : List Char) : capitalizeAll (capitalizeAll cs) = capitalizeAll cs :=
  capitalizeFrom_capitalizeFrom true cs

lemma capitalizeAll_cons_of_blank (h : isBlank c = true) (cs : List Char) :
    capitalizeAll (c :: cs) = c :: capitalizeAll cs := by
  rw [capitalizeAll, capitalizeFrom, if_pos h, capitalizeAll]

lemma capitalizeAll_cons (h : isBlank c = false) (cs : List Char) :
    capitalizeAll (c :: cs) = upperOf c ++ capitalizeFrom false cs := by
  rw [capitalizeAll, capitalizeFrom, if_neg (by simp [h]), if_pos rfl]

lemma capitalize_capitalizeAll (cs : List Char) : capitalize (capitalizeAll cs) = capitalizeAll cs := by
  cases cs with
  | nil => rfl
  | cons c cs =>
    cases hc : isBlank c with
    | true => rw [capitalizeAll_cons_of_blank hc, capitalize, upperOf_of_blank hc, List.singleton_append]
    | false => rw [capitalizeAll_cons hc, capitalize_upperOf_append]

lemma capitalizeAll_capitalize (cs : List Char) : capitalizeAll (capitalize cs) = capitalizeAll cs := by
  cases cs with
  | nil => rfl
  | cons c cs =>
    cases hc : isBlank c with
    | true => rw [capitalize, upperOf_of_blank hc, List.singleton_append]
    | false => rw [capitalize, capitalizeAll, capitalizeFrom_upperOf_append hc, capitalizeAll_cons hc]

end Inflection

namespace Modifier

/-! ### Chains of capitals -/

/-- The text with capitals at the beginning of all words, or with one at its own beginning. -/
def capitals (everywhere : Bool) (cs : List Char) : List Char :=
  if everywhere then Inflection.capitalizeAll cs else Inflection.capitalize cs

/-- Capitals on capitals: those at all words stay, and those at all words are put on. -/
theorem capitals_capitals (first next : Bool) (cs : List Char) :
    capitals next (capitals first cs) = capitals (first || next) cs := by
  cases first <;> cases next
  · exact Inflection.capitalize_capitalize cs
  · exact Inflection.capitalizeAll_capitalize cs
  · exact Inflection.capitalize_capitalizeAll cs
  · exact Inflection.capitalizeAll_capitalizeAll cs

variable {m : Modifier} {ms : List Modifier}

lemma apply_of_capital (h : m = capitalize ∨ m = capitalizeAll) (s : String) :
    m.apply s = .ok (String.ofList (capitals (m == capitalizeAll) s.toList)) := by
  obtain rfl | rfl := h <;> rfl

lemma applyChain_capitalized (h : ∀ m ∈ ms, m = capitalize ∨ m = capitalizeAll) (everywhere : Bool)
    (cs : List Char) :
    applyChain ms (String.ofList (capitals everywhere cs)) =
      .ok (String.ofList (capitals (everywhere || ms.contains capitalizeAll) cs)) := by
  induction ms generalizing everywhere with
  | nil =>
    rw [List.contains_nil, Bool.or_false]
    rfl
  | cons m ms ih =>
    obtain ⟨hm, hrest⟩ := List.forall_mem_cons.mp h
    rw [applyChain_cons, apply_of_capital hm, String.toList_ofList, capitals_capitals]
    show applyChain ms _ = _
    rw [ih hrest, List.contains_cons, Bool.or_assoc, BEq.comm]

/-- **Capitals are put on once.** What was capitalized does not change when it is capitalized again, neither at its own
beginning nor at that of all its words, and capitals at all words take in the one at the beginning. So a chain of
these two modifiers that is not empty does what one of them does: the one for all words when it occurs in the chain,
else the other. -/
theorem applyChain_capitals :
    (∀ cs, Inflection.capitalize (Inflection.capitalize cs) = Inflection.capitalize cs ∧
      Inflection.capitalizeAll (Inflection.capitalizeAll cs) = Inflection.capitalizeAll cs ∧
      Inflection.capitalize (Inflection.capitalizeAll cs) = Inflection.capitalizeAll cs ∧
      Inflection.capitalizeAll (Inflection.capitalize cs) = Inflection.capitalizeAll cs) ∧
    ∀ ms, ms ≠ [] → (∀ m ∈ ms, m = capitalize ∨ m = capitalizeAll) → ∀ s,
      applyChain ms s = .ok (String.ofList
        (if capitalizeAll ∈ ms then Inflection.capitalizeAll s.toList else Inflection.capitalize s.toList)) := by
  refine ⟨fun cs => ⟨Inflection.capitalize_capitalize cs, Inflection.capitalizeAll_capitalizeAll cs,
    Inflection.capitalize_capitalizeAll cs, Inflection.capitalizeAll_capitalize cs⟩, ?_⟩
  intro ms hms h s
  obtain ⟨m, rest, rfl⟩ := List.exists_cons_of_ne_nil hms
  obtain ⟨hm, hrest⟩ := List.forall_mem_cons.mp h
  have hchain : applyChain (m :: rest) s =
      .ok (String.ofList (capitals ((m :: rest).contains capitalizeAll) s.toList)) := by
    rw [applyChain_cons, apply_of_capital hm]
    show applyChain rest _ = _
    rw [applyChain_capitalized hrest, List.contains_cons, BEq.comm]
  rw [hchain]
  simp only [capitals, List.contains_iff_mem]

/-- Two words whose first characters become two characters each. -/
theorem applyChain_capitals_longer :
    [capitalize, capitalizeAll, capitalize] ≠ [] ∧
      (∀ m ∈ [capitalize, capitalizeAll, capitalize], m = capitalize ∨ m = capitalizeAll) ∧
      applyChain [capitalize, capitalizeAll, capitalize] "ßa ŉb" = .ok "SSa ʼNb" := by
  have hms : [capitalize, capitalizeAll, capitalize] ≠ [] := by decide
  have hall : ∀ m ∈ [capitalize, capitalizeAll, capitalize], m = capitalize ∨ m = capitalizeAll := by decide
  refine ⟨hms, hall, (applyChain_capitals.2 _ hms hall "ßa ŉb").trans ?_⟩
  decide +kernel

end Modifier

end NoteMuse
