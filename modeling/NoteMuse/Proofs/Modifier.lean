import NoteMuse.Modifier
import NoteMuse.Proofs.Except
import NoteMuse.Proofs.Inflection.Blank

/-!
Chains of modifiers and white space: a chain breaks off exactly when it has a plural and the last white space of
the text is no ASCII character, and otherwise it leaves the white space of the text as it is and puts a space in
front for each of its articles. Main statement: `applyChain_blanks`.
-/

namespace NoteMuse.Modifier

open Text Inflection

/-- The last white space of the text is no ASCII character. -/
def LastBlankWide (cs : List Char) : Prop := ∃ b, (blanks cs).getLast? = some b ∧ 128 ≤ b.toNat

variable {f : List Char → List Char} {cs ds before after : List Char} {b : Char} {m : Modifier}

/-! ### The last word -/

lemma blanks_of_splitLastBlank_none (h : splitLastBlank cs = none) : blanks cs = [] := by
  induction cs with
  | nil => rfl
  | cons c cs ih =>
    unfold splitLastBlank at h
    cases hrest : splitLastBlank cs with
    | some p => simp [hrest] at h
    | none =>
      simp only [hrest] at h
      split at h
      · cases h
      · next hc => rw [blanks_cons, if_neg hc, ih hrest]

lemma eq_of_splitLastBlank (h : splitLastBlank cs = some (before, b, after)) :
    cs = before ++ b :: after ∧ isBlank b = true ∧ blanks after = [] := by
  induction cs generalizing before with
  | nil => cases h
  | cons c cs ih =>
    unfold splitLastBlank at h
    cases hrest : splitLastBlank cs with
    | some p =>
      obtain ⟨before', b', after'⟩ := p
      simp only [hrest, Option.some.injEq, Prod.mk.injEq] at h
      obtain ⟨rfl, rfl, rfl⟩ := h
      obtain ⟨rfl, hb, hafter⟩ := ih hrest
      exact ⟨rfl, hb, hafter⟩
    | none =>
      simp only [hrest] at h
      split at h
      · next hc =>
        simp only [Option.some.injEq, Prod.mk.injEq] at h
        obtain ⟨rfl, rfl, rfl⟩ := h
        exact ⟨rfl, hc, blanks_of_splitLastBlank_none hrest⟩
      · cases h

/-- The white space of a text that is cut behind its last white space. -/
theorem blanks_cut (hb : isBlank b = true) (hafter : blanks after = []) :
    blanks (before ++ b :: after) = blanks before ++ [b] := by
  rw [blanks_append, blanks_cons, if_pos hb, hafter]

lemma lastBlankWide_cut_iff (hb : isBlank b = true) (hafter : blanks after = []) :
    LastBlankWide (before ++ b :: after) ↔ 128 ≤ b.toNat := by
  simp [LastBlankWide, blanks_cut hb hafter]

lemma utf8Size_eq_one_iff_lt : b.utf8Size = 1 ↔ b.toNat < 128 := by
  rw [Char.utf8Size_eq_one_iff, UInt32.le_iff_toNat_le]
  show b.toNat ≤ 127 ↔ b.toNat < 128
  omega

lemma onLastWord_eq_error_iff :
    (∃ fault, onLastWord f cs = .error fault) ↔ LastBlankWide cs := by
  unfold onLastWord
  cases hsplit : splitLastBlank cs with
  | none => simp [LastBlankWide, blanks_of_splitLastBlank_none hsplit]
  | some p =>
    obtain ⟨before, b, after⟩ := p
    obtain ⟨rfl, hb, hafter⟩ := eq_of_splitLastBlank hsplit
    rw [lastBlankWide_cut_iff hb hafter]
    simp only [utf8Size_eq_one_iff_lt]
    split
    · simp
      omega
    · simp
      omega

/-- Inflecting the last word leaves the white space as it is. -/
theorem blanks_onLastWord (hf : Inflects f) (h : onLastWord f cs = .ok ds) :
    blanks ds = blanks cs ∧ (ds = [] ↔ cs = []) := by
  unfold onLastWord at h
  cases hsplit : splitLastBlank cs with
  | none =>
    have hcs := blanks_of_splitLastBlank_none hsplit
    simp only [hsplit, Except.ok.injEq] at h
    rw [← h, hf.blanks_eq_nil hcs, hcs, hf.eq_nil_iff hcs]
    simp
  | some p =>
    obtain ⟨before, b, after⟩ := p
    obtain ⟨rfl, hb, hafter⟩ := eq_of_splitLastBlank hsplit
    simp only [hsplit] at h
    split at h
    · cases h
      rw [blanks_cut hb hafter, blanks_cut hb (hf.blanks_eq_nil hafter)]
      simp
    · cases h

/-! ### The first word -/

lemma blanks_onFirstWord (hf : Inflects f) (cs : List Char) :
    blanks (onFirstWord f cs) = blanks cs ∧ (onFirstWord f cs = [] ↔ cs = []) := by
  have hfirst : blanks (cs.takeWhile fun c => !isBlank c) = [] := by
    rw [blanks_eq_nil_iff]
    intro c hc
    simpa using List.mem_takeWhile_imp hc
  have hcs : (cs.takeWhile fun c => !isBlank c) ++ (cs.dropWhile fun c => !isBlank c) = cs :=
    List.takeWhile_append_dropWhile
  unfold onFirstWord
  constructor
  · rw [blanks_append, hf.blanks_eq_nil hfirst]
    conv_rhs => rw [← hcs, blanks_append, hfirst]
  · rw [List.append_eq_nil_iff, hf.eq_nil_iff hfirst, ← List.append_eq_nil_iff, hcs]

/-! ### One modifier -/

lemma run_eq_error_iff : (∃ fault, m.run cs = .error fault) ↔ m = pluralize ∧ LastBlankWide cs := by
  cases m with
  | pluralize => simp only [run, onLastWord_eq_error_iff, true_and]
  | capitalize | capitalizeAll | pastTense | article => simp [run]

/-- An article puts a space in front of a text that is not empty; beyond that every modifier leaves the white space
as it is, and no text becomes empty. -/
theorem blanks_run (h : m.run cs = .ok ds) :
    blanks ds = List.replicate (if cs = [] then 0 else [m].count article) ' ' ++ blanks cs ∧ (ds = [] ↔ cs = []) := by
  cases m with
  | capitalize =>
    cases h
    simp
  | capitalizeAll =>
    cases h
    simp
  | pluralize => simpa using blanks_onLastWord inflects_pluralize h
  | pastTense =>
    cases h
    simpa using blanks_onFirstWord inflects_pastTense cs
  | article =>
    cases h
    by_cases hcs : cs = []
    · simp [hcs, withArticle]
    · simp [hcs, blanks_withArticle hcs]

lemma lastBlankWide_replicate_iff {n : Nat} (h : blanks ds = List.replicate n ' ' ++ blanks cs) :
    LastBlankWide ds ↔ LastBlankWide cs := by
  unfold LastBlankWide
  rw [h, List.getLast?_append]
  cases hlast : (blanks cs).getLast? with
  | some b => simp
  | none =>
    -- Only spaces are left, and these are ASCII characters.
    simp [List.getLast?_replicate]

/-! ### Chains -/

theorem applyChain_cons (m : Modifier) (ms : List Modifier) (s : String) :
    applyChain (m :: ms) s = (m.apply s >>= applyChain ms) := rfl

lemma run_toList_of_apply {s t : String} (h : m.apply s = .ok t) : m.run s.toList = .ok t.toList := by
  obtain ⟨cs, hcs, rfl⟩ := map_eq_ok_iff.mp h
  rw [hcs, String.toList_ofList]

lemma applyChain_eq_error_iff {ms : List Modifier} {s : String} :
    (∃ fault, applyChain ms s = .error fault) ↔ pluralize ∈ ms ∧ LastBlankWide s.toList := by
  induction ms generalizing s with
  | nil => simp [applyChain, pure, Except.pure]
  | cons m ms ih =>
    rw [applyChain_cons]
    cases hm : m.apply s with
    | error fault =>
      have hrun : ∃ fault, m.run s.toList = .error fault := ⟨fault, map_eq_error_iff.mp hm⟩
      obtain ⟨rfl, hwide⟩ := run_eq_error_iff.mp hrun
      simp [bind, Except.bind, hwide]
    | ok t =>
      have hrun := run_toList_of_apply hm
      have hwide := lastBlankWide_replicate_iff (blanks_run hrun).1
      have hfirst : ¬(m = pluralize ∧ LastBlankWide s.toList) := by
        rw [← run_eq_error_iff, hrun]
        simp
      show (∃ fault, applyChain ms t = .error fault) ↔ _
      rw [ih, hwide, List.mem_cons]
      grind

lemma blanks_applyChain {ms : List Modifier} {s t : String} (h : applyChain ms s = .ok t) :
    blanks t.toList = List.replicate (if s.toList = [] then 0 else ms.count article) ' ' ++ blanks s.toList := by
  induction ms generalizing s with
  | nil =>
    cases h
    simp
  | cons m ms ih =>
    rw [applyChain_cons] at h
    obtain ⟨u, hu, h⟩ := bind_eq_ok_iff.mp h
    obtain ⟨hblanks, hnil⟩ := blanks_run (run_toList_of_apply hu)
    rw [ih h, hblanks]
    simp only [hnil]
    split
    · simp
    · have hcount : ms.count article + [m].count article = (m :: ms).count article := by
        rw [Nat.add_comm, ← List.count_append, List.singleton_append]
      rw [← List.append_assoc, List.replicate_append_replicate, hcount]

/-- **What a chain of modifiers does to white space.** It breaks off exactly when it has a plural and the text has
white space whose last character is not ASCII. Otherwise the text that comes out has the white space of the text
that went in, in the same order, behind one space for each article, unless the text is empty. -/
theorem applyChain_blanks (ms : List Modifier) (s : String) :
    ((∃ fault, applyChain ms s = .error fault) ↔
      pluralize ∈ ms ∧ ∃ b, (blanks s.toList).getLast? = some b ∧ 128 ≤ b.toNat) ∧
    ∀ t, applyChain ms s = .ok t →
      blanks t.toList = List.replicate (if s = "" then 0 else ms.count article) ' ' ++ blanks s.toList := by
  refine ⟨applyChain_eq_error_iff, fun t h => ?_⟩
  simpa only [String.toList_eq_nil_iff] using blanks_applyChain h

/-- Wide white space that is not the last, and wide white space that is. -/
theorem applyChain_blanks_wide :
    (applyChain [pastTense, article, pluralize, capitalizeAll] "find\u3000old\tcity" =
        .ok "A Found\u3000Old\tCities" ∧
      blanks "A Found\u3000Old\tCities".toList = ' ' :: blanks "find\u3000old\tcity".toList) ∧
    ∃ fault, applyChain [capitalize, pluralize] "old\t\u3000city" = .error fault := by
  have hok : applyChain [pastTense, article, pluralize, capitalizeAll] "find\u3000old\tcity" =
      .ok "A Found\u3000Old\tCities" := by
    rfl
  have hwide : ∃ b, (blanks "old\t\u3000city".toList).getLast? = some b ∧ 128 ≤ b.toNat :=
    ⟨'\u3000', by decide, by decide⟩
  exact ⟨⟨hok, (applyChain_blanks _ _).2 _ hok⟩, (applyChain_blanks _ _).1.mpr ⟨by decide, hwide⟩⟩

end NoteMuse.Modifier
