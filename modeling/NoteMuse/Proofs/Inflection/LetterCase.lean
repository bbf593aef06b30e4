import Mathlib.Data.List.Induction
import NoteMuse.Proofs.Inflection.Blank

/-!
Inflection and the case of letters. The plural and the past tense of a word in capitals are those of the word in small
letters, but for the ending: a capital Y behind a consonant is not taken for the one that becomes `ie`. Main
statements: `lower_inflection_iff` and `not_forall_lower_inflection`.
-/

namespace NoteMuse.Inflection

open Text

/-! ### Letters -/

lemma forall_letter {P : Char → Prop} (h : ∀ n < 128, (Char.ofNat n).isAlpha = true → P (Char.ofNat n))
    {c : Char} (hc : c.isAlpha = true) : P c := by
  have hlt : c.toNat < 128 := by
    obtain hupper | hlower := Bool.or_eq_true_iff.mp hc
    · have hle : c.val ≤ 'Z'.val := (of_decide_eq_true hupper).2
      exact Nat.lt_of_le_of_lt (UInt32.le_iff_toNat_le.mp hle) (by decide)
    · have hle : c.val ≤ 'z'.val := of_decide_eq_true (Bool.and_eq_true_iff.mp hlower).2
      exact Nat.lt_of_le_of_lt (UInt32.le_iff_toNat_le.mp hle) (by decide)
  have hP := h c.toNat hlt
  rw [Char.ofNat_toNat] at hP
  exact hP hc

section Letter

variable {c : Char}

lemma lowerOf_letter (h : c.isAlpha = true) : lowerOf c = [c.toLower] :=
  forall_letter (P := fun c => lowerOf c = [c.toLower]) (by decide) h

lemma ne_sigma_of_letter (h : c.isAlpha = true) : c ≠ 'Σ' := by
  rintro rfl
  cases h

lemma isAlpha_toLower (h : c.isAlpha = true) : c.toLower.isAlpha = true :=
  forall_letter (P := fun c => c.toLower.isAlpha = true) (by decide) h

lemma toLower_toLower_letter (h : c.isAlpha = true) : c.toLower.toLower = c.toLower :=
  forall_letter (P := fun c => c.toLower.toLower = c.toLower) (by decide) h

lemma isVowel_toLower (h : c.isAlpha = true) : isVowel c.toLower = isVowel c :=
  forall_letter (P := fun c => isVowel c.toLower = isVowel c) (by decide) h

lemma isAlphabetic_letter (h : c.isAlpha = true) : isAlphabetic c = true :=
  forall_letter (P := fun c => isAlphabetic c = true) (by decide) h

lemma upperOf_letter (h : c.isAlpha = true) : upperOf c = [c.toUpper] :=
  forall_letter (P := fun c => upperOf c = [c.toUpper]) (by decide) h

lemma isAlpha_toUpper (h : c.isAlpha = true) : c.toUpper.isAlpha = true :=
  forall_letter (P := fun c => c.toUpper.isAlpha = true) (by decide) h

lemma toLower_toUpper_letter (h : c.isAlpha = true) : c.toUpper.toLower = c.toLower :=
  forall_letter (P := fun c => c.toUpper.toLower = c.toLower) (by decide) h

lemma toLower_eq_y_iff (h : c.isAlpha = true) : c.toLower = 'y' ↔ c = 'y' ∨ c = 'Y' :=
  forall_letter (P := fun c => c.toLower = 'y' ↔ c = 'y' ∨ c = 'Y') (by decide) h

end Letter

/-! ### Words of letters -/

def Letters (cs : List Char) : Prop := ∀ c ∈ cs, c.isAlpha = true

def Small (cs : List Char) : Prop := cs.all Char.isLower = true

instance (cs : List Char) : Decidable (Small cs) := inferInstanceAs (Decidable (_ = true))

variable {word stem ending cs ds : List Char} {c : Char}

lemma letters_append : Letters (cs ++ ds) ↔ Letters cs ∧ Letters ds := List.forall_mem_append

lemma lowerFrom_of_letters (h : Letters cs) (before : List Char) : lowerFrom before cs = cs.map Char.toLower := by
  induction cs generalizing before with
  | nil => rfl
  | cons c cs ih =>
    obtain ⟨hc, hcs⟩ := List.forall_mem_cons.mp h
    rw [lowerFrom, if_neg (ne_sigma_of_letter hc), lowerOf_letter hc, ih hcs]
    rfl

lemma lower_of_letters (h : Letters cs) : lower cs = cs.map Char.toLower := lowerFrom_of_letters h []

lemma letters_lower (h : Letters cs) : Letters (lower cs) := by
  rw [lower_of_letters h]
  intro c hc
  obtain ⟨d, hd, rfl⟩ := List.mem_map.mp hc
  exact isAlpha_toLower (h d hd)

lemma lower_append (hcs : Letters cs) (hds : Letters ds) : lower (cs ++ ds) = lower cs ++ lower ds := by
  rw [lower_of_letters (letters_append.mpr ⟨hcs, hds⟩), lower_of_letters hcs, lower_of_letters hds, List.map_append]

lemma lower_lower (h : Letters cs) : lower (lower cs) = lower cs := by
  rw [lower_of_letters (letters_lower h), lower_of_letters h, List.map_map]
  exact List.map_congr_left fun c hc => toLower_toLower_letter (h c hc)

lemma lower_ne_nil (h : Letters cs) (hne : cs ≠ []) : lower cs ≠ [] := by
  rwa [lower_of_letters h, Ne, List.map_eq_nil_iff]

theorem Small.letters (h : Small cs) : Letters cs :=
  fun c hc => Bool.or_eq_true_iff.mpr (.inr (List.all_eq_true.mp h c hc))

lemma Small.lower_eq (h : Small cs) : lower cs = cs := by
  have hself : ∀ c ∈ cs, c.toLower = id c := fun c hc =>
    forall_letter (P := fun c => c.isLower = true → c.toLower = c) (by decide) (h.letters c hc)
      (List.all_eq_true.mp h c hc)
  rw [lower_of_letters h.letters, List.map_congr_left hself, List.map_id]

lemma lower_append_small (h : Letters cs) (hending : Small ending) : lower (cs ++ ending) = lower cs ++ ending := by
  rw [lower_append h hending.letters, hending.lower_eq]

lemma getLast?_lower (h : Letters cs) : (lower cs).getLast? = cs.getLast?.map Char.toLower := by
  rw [lower_of_letters h, List.getLast?_map]

/-- Whether a word ends in a consonant is not a matter of case. -/
theorem endsWithConsonant_lower (h : Letters cs) : endsWithConsonant (lower cs) = endsWithConsonant cs := by
  unfold endsWithConsonant
  rw [getLast?_lower h]
  cases hlast : cs.getLast? with
  | none => rfl
  | some c =>
    have hc := h c (List.mem_of_getLast? hlast)
    simp only [Option.map_some]
    rw [isVowel_toLower hc, isAlphabetic_letter hc, isAlphabetic_letter (isAlpha_toLower hc)]

/-! ### The capital of a word -/

lemma lower_capitalize (h : Letters cs) : lower (capitalize cs) = lower cs := by
  cases cs with
  | nil => rfl
  | cons c cs =>
    obtain ⟨hc, hcs⟩ := List.forall_mem_cons.mp h
    have hcapital : Letters (c.toUpper :: cs) := List.forall_mem_cons.mpr ⟨isAlpha_toUpper hc, hcs⟩
    rw [capitalize, upperOf_letter hc, List.singleton_append, lower_of_letters hcapital, lower_of_letters h,
      List.map_cons, List.map_cons, toLower_toUpper_letter hc]

lemma lower_matchCase {replacement : List Char} (h : Small replacement) (word : List Char) :
    lower (matchCase word replacement) = replacement := by
  unfold matchCase
  split
  · rw [lower_capitalize h.letters, h.lower_eq]
  · exact h.lower_eq

lemma matchCase_lower (h : Letters word) (replacement : List Char) :
    matchCase (lower word) replacement = replacement := by
  have hsmall : startsUpper (lower word) = false := by
    rw [lower_of_letters h]
    cases word with
    | nil => rfl
    | cons c word =>
      have hc := (List.forall_mem_cons.mp h).1
      rw [List.map_cons, startsUpper, lowerOf_letter (isAlpha_toLower hc), toLower_toLower_letter hc, bne_self_eq_false]
  rw [matchCase, hsmall]
  rfl

/-! ### Words in `y` -/

/-- What stands before a small `y`, when that is the end of the word and a consonant stands before it. -/
def stemOfY? (word : List Char) : Option (List Char) := (dropEnd? ['y'] word).filter endsWithConsonant

lemma stemOfY?_concat (cs : List Char) (c : Char) :
    stemOfY? (cs ++ [c]) = if c = 'y' ∧ endsWithConsonant cs = true then some cs else none := by
  have hend : ['y'].isSuffixOf (cs ++ [c]) = true ↔ c = 'y' := by
    rw [List.isSuffixOf_iff_suffix, List.singleton_suffix_iff_getLast?_eq_some, List.getLast?_concat, Option.some_inj]
  unfold stemOfY? dropEnd?
  by_cases hc : c = 'y'
  · rw [if_pos (hend.mpr hc)]
    by_cases hcs : endsWithConsonant cs = true <;> simp [Option.filter, hc, hcs]
  · rw [if_neg (mt hend.mp hc)]
    simp [hc]

/-- The word ends in a capital Y behind a consonant. -/
def EndsInCapitalY (word : List Char) : Prop := ∃ stem, word = stem ++ ['Y'] ∧ endsWithConsonant stem = true

lemma endsInCapitalY_concat : EndsInCapitalY (cs ++ [c]) ↔ c = 'Y' ∧ endsWithConsonant cs = true := by
  unfold EndsInCapitalY
  constructor
  · rintro ⟨stem, heq, hstem⟩
    obtain ⟨rfl, hc⟩ := List.append_inj' heq rfl
    exact ⟨List.head_eq_of_cons_eq hc, hstem⟩
  · rintro ⟨rfl, hcs⟩
    exact ⟨cs, rfl, hcs⟩

lemma stemOfY?_lower_concat (h : Letters (cs ++ [c])) :
    stemOfY? (lower (cs ++ [c])) =
      if (c = 'y' ∨ c = 'Y') ∧ endsWithConsonant cs = true then some (lower cs) else none := by
  obtain ⟨hcs, hc⟩ := letters_append.mp h
  have hletter : c.isAlpha = true := hc c (List.mem_singleton_self c)
  rw [lower_append hcs hc, lower_of_letters hc, List.map_singleton, stemOfY?_concat, endsWithConsonant_lower hcs]
  simp only [toLower_eq_y_iff hletter]

/-- Without a capital Y at the end a word and its small letters have the same stem. -/
theorem stemOfY?_lower (h : Letters word) (hy : ¬EndsInCapitalY word) :
    stemOfY? (lower word) = (stemOfY? word).map lower := by
  induction word using List.reverseRecOn with
  | nil => rfl
  | append_singleton cs c =>
    rw [endsInCapitalY_concat, not_and'] at hy
    rw [stemOfY?_lower_concat h, stemOfY?_concat]
    by_cases hcs : endsWithConsonant cs = true
    · by_cases hc : c = 'y' <;> simp [hcs, hc, hy hcs]
    · simp [hcs]

/-- With one, only the small letters have a stem. -/
theorem exists_stem_of_capitalY (h : Letters word) (hy : EndsInCapitalY word) :
    ∃ stem, lower word = lower stem ++ ['y'] ∧ stemOfY? word = none ∧
      stemOfY? (lower word) = some (lower stem) := by
  obtain ⟨stem, rfl, hstem⟩ := hy
  obtain ⟨hletters, hlast⟩ := letters_append.mp h
  refine ⟨stem, ?_, ?_, ?_⟩
  · rw [lower_append hletters hlast, lower_of_letters hlast]
    rfl
  · rw [stemOfY?_concat, if_neg (by simp)]
  · rw [stemOfY?_lower_concat h, if_pos ⟨.inr rfl, hstem⟩]

lemma lower_append_ne {other : List Char} (h : Letters word) (hlow : lower word = lower stem ++ ['y'])
    (hending : Small ending) (hne : 'y' :: ending ≠ other) : lower (word ++ ending) ≠ lower stem ++ other := by
  rw [lower_append_small h hending, hlow, List.append_assoc]
  exact mt List.append_cancel_left hne

lemma letters_of_stemOfY? (h : Letters word) (hstem : stemOfY? word = some stem) : Letters stem := by
  induction word using List.reverseRecOn with
  | nil => cases hstem
  | append_singleton cs c =>
    rw [stemOfY?_concat] at hstem
    split at hstem
    · cases hstem
      exact (letters_append.mp h).1
    · cases hstem

/-! ### The plural -/

lemma pluralByEnding_eq (word low : List Char) :
    pluralByEnding word low =
      match stemOfY? word with
      | some stem => stem ++ "ies".toList
      | none =>
        if sibilantEndings.any fun e => e.toList.isSuffixOf low then word ++ "es".toList else word ++ "s".toList := rfl

lemma lower_pluralByEnding (h : Letters word) (hy : ¬EndsInCapitalY word) (low : List Char) :
    lower (pluralByEnding word low) = pluralByEnding (lower word) low := by
  rw [pluralByEnding_eq, pluralByEnding_eq, stemOfY?_lower h hy]
  cases hstem : stemOfY? word with
  | some stem => exact lower_append_small (letters_of_stemOfY? h hstem) (by decide)
  | none =>
    simp only [Option.map_none]
    split
    · exact lower_append_small h (by decide)
    · exact lower_append_small h (by decide)

lemma lower_pluralByEnding_ne (h : Letters word) (hy : EndsInCapitalY word) (low : List Char) :
    lower (pluralByEnding word low) ≠ pluralByEnding (lower word) low := by
  obtain ⟨stem, hlow, hcapital, hsmall⟩ := exists_stem_of_capitalY h hy
  rw [pluralByEnding_eq, pluralByEnding_eq, hcapital, hsmall]
  simp only
  split
  · exact lower_append_ne h hlow (by decide) (by decide)
  · exact lower_append_ne h hlow (by decide) (by decide)

/-! ### The past tense -/

lemma letters_getLast? (h : Letters word) : Letters word.getLast?.toList :=
  fun c hc => h c (List.mem_of_getLast? (Option.mem_toList.mp hc))

lemma lower_getLast? (h : Letters word) : lower word.getLast?.toList = (lower word).getLast?.toList := by
  rw [lower_of_letters (letters_getLast? h), getLast?_lower h, Option.toList_map]

lemma doublesLast_y (cs : List Char) : doublesLast (cs ++ ['y']) = false := by
  unfold doublesLast
  rw [List.reverse_append]
  rcases cs.reverse with _ | ⟨b, _ | ⟨a, rest⟩⟩ <;> simp

lemma pastByEnding_eq (word low : List Char) :
    pastByEnding word low =
      if low.getLast? = some 'e' then word ++ ['d']
      else
        match stemOfY? word with
        | some stem => stem ++ "ied".toList
        | none =>
          if doublesLast low then word ++ word.getLast?.toList ++ "ed".toList else word ++ "ed".toList := rfl

lemma lower_pastByEnding (h : Letters word) (hy : ¬EndsInCapitalY word) (low : List Char) :
    lower (pastByEnding word low) = pastByEnding (lower word) low := by
  rw [pastByEnding_eq, pastByEnding_eq, stemOfY?_lower h hy]
  split
  · exact lower_append_small h (by decide)
  · cases hstem : stemOfY? word with
    | some stem => exact lower_append_small (letters_of_stemOfY? h hstem) (by decide)
    | none =>
      simp only [Option.map_none]
      have hlast := letters_getLast? h
      split
      · rw [lower_append_small (letters_append.mpr ⟨h, hlast⟩) (by decide), lower_append h hlast,
          lower_getLast? h]
      · exact lower_append_small h (by decide)

lemma lower_pastByEnding_ne (h : Letters word) (hy : EndsInCapitalY word) :
    lower (pastByEnding word (lower word)) ≠ pastByEnding (lower word) (lower word) := by
  obtain ⟨stem, hlow, hcapital, hsmall⟩ := exists_stem_of_capitalY h hy
  have he : (lower word).getLast? ≠ some 'e' := by
    rw [hlow, List.getLast?_concat]
    decide
  have hdouble : doublesLast (lower word) = false := hlow ▸ doublesLast_y _
  rw [pastByEnding_eq, pastByEnding_eq, if_neg he, if_neg he, hcapital, hsmall, hdouble]
  exact lower_append_ne h hlow (by decide) (by decide)

/-! ### The tables -/

lemma small_plurals : ∀ p ∈ irregularPlurals, Small p.2.toList := by decide

lemma small_pasts : ∀ p ∈ irregularPasts, Small p.2.toList := by decide

lemma lower_matchCase_lookup {table : List (String × String)} {key value : String}
    (htable : ∀ p ∈ table, Small p.2.toList) (hvalue : table.lookup key = some value) (h : Letters word) :
    lower (matchCase word value.toList) = matchCase (lower word) value.toList := by
  rw [lower_matchCase (htable _ (mem_of_lookup hvalue)), matchCase_lower h]

lemma stemOfY?_uncountable : ∀ key ∈ uncountables, stemOfY? key.toList = none := by decide

lemma stemOfY?_irregularPlural : ∀ p ∈ irregularPlurals, stemOfY? p.1.toList = none := by decide

lemma eq_fly_of_irregularPast : ∀ p ∈ irregularPasts, stemOfY? p.1.toList ≠ none → p.1 = "fly" := by decide

/-! ### Both inflections -/

lemma pluralize_of_ne_nil (hne : word ≠ []) :
    pluralize word =
      if uncountables.contains (String.ofList (lower word)) then word
      else
        match irregularPlurals.lookup (String.ofList (lower word)) with
        | some plural => matchCase word plural.toList
        | none => pluralByEnding word (lower word) :=
  if_neg (by simpa using hne)

lemma pastTense_of_ne_nil (hne : word ≠ []) :
    pastTense word =
      match irregularPasts.lookup (String.ofList (lower word)) with
      | some past => matchCase word past.toList
      | none => pastByEnding word (lower word) :=
  if_neg (by simpa using hne)

lemma not_endsInCapitalY_nil : ¬EndsInCapitalY [] := fun ⟨_, heq, _⟩ => by simp at heq

/-- **The plural ignores the case of letters in all words but those in a capital Y behind a consonant.** -/
theorem lower_pluralize_iff (h : Letters word) :
    lower (pluralize word) = pluralize (lower word) ↔ ¬EndsInCapitalY word := by
  by_cases hne : word = []
  · subst hne
    exact iff_of_true rfl not_endsInCapitalY_nil
  have hregular : stemOfY? (lower word) = none → ¬EndsInCapitalY word := fun hnone hy => by
    obtain ⟨_, -, -, hsome⟩ := exists_stem_of_capitalY h hy
    cases hnone.symm.trans hsome
  rw [pluralize_of_ne_nil hne, pluralize_of_ne_nil (lower_ne_nil h hne), lower_lower h]
  split
  · next hmem =>
    refine iff_of_true rfl (hregular ?_)
    simpa using stemOfY?_uncountable _ (List.contains_iff_mem.mp hmem)
  · split
    · next plural hplural =>
      refine iff_of_true (lower_matchCase_lookup small_plurals hplural h) (hregular ?_)
      simpa using stemOfY?_irregularPlural _ (mem_of_lookup hplural)
    · exact ⟨fun heq hy => lower_pluralByEnding_ne h hy _ heq, fun hy => lower_pluralByEnding h hy _⟩

/-- **So does the past tense, where `FLY` is no exception, as it is in the table.** -/
theorem lower_pastTense_iff (h : Letters word) :
    lower (pastTense word) = pastTense (lower word) ↔ (EndsInCapitalY word → lower word = "fly".toList) := by
  by_cases hne : word = []
  · subst hne
    exact iff_of_true rfl fun hy => absurd hy not_endsInCapitalY_nil
  rw [pastTense_of_ne_nil hne, pastTense_of_ne_nil (lower_ne_nil h hne), lower_lower h]
  split
  · next past hpast =>
    refine iff_of_true (lower_matchCase_lookup small_pasts hpast h) fun hy => ?_
    obtain ⟨stem, -, -, hstem⟩ := exists_stem_of_capitalY h hy
    rw [← eq_fly_of_irregularPast _ (mem_of_lookup hpast) (by simp [hstem]), String.toList_ofList]
  · next hpast =>
    have hfly : lower word ≠ "fly".toList := fun hfly => by
      rw [hfly] at hpast
      cases hpast
    constructor
    · exact fun heq hy => absurd heq (lower_pastByEnding_ne h hy)
    · exact fun hy => lower_pastByEnding h (fun hcapital => hfly (hy hcapital)) _

/-- **Inflection ignores the case of letters but for the capital Y.** The plural of a word in any capitals, in small
letters, is the plural of the word in small letters if and only if the word does not end in a capital Y behind a
consonant; and so is the past tense, with the one exception of `fly`. -/
theorem lower_inflection_iff (word : List Char) (h : ∀ c ∈ word, c.isAlpha = true) :
    (lower (pluralize word) = pluralize (lower word) ↔ ¬EndsInCapitalY word) ∧
      (lower (pastTense word) = pastTense (lower word) ↔ (EndsInCapitalY word → lower word = "fly".toList)) :=
  ⟨lower_pluralize_iff h, lower_pastTense_iff h⟩

/-- `FLY` ends so: its plural differs, and its past tense is in the table. -/
theorem lower_inflection_iff_fly :
    (∀ c ∈ "FLY".toList, c.isAlpha = true) ∧ lower (pluralize "FLY".toList) ≠ pluralize (lower "FLY".toList) ∧
      lower (pastTense "FLY".toList) = pastTense (lower "FLY".toList) := by
  have h : ∀ c ∈ "FLY".toList, c.isAlpha = true := List.all_eq_true.mp (by decide)
  obtain ⟨hplural, hpast⟩ := lower_inflection_iff "FLY".toList h
  refine ⟨h, fun heq => hplural.mp heq ⟨"FL".toList, by decide, by decide⟩, hpast.mpr fun _ => ?_⟩
  decide

/-- A capital Y is not taken for a `y`: the plural of `CITY` is `CITYs`. -/
theorem not_forall_lower_inflection :
    ¬∀ word : List Char, word ≠ [] → (∀ c ∈ word, c.isAlpha = true) →
      lower (pluralize word) = pluralize (lower word) ∧ lower (pastTense word) = pastTense (lower word) := by
  intro h
  have hcity := (h "CITY".toList (by decide) (List.all_eq_true.mp (by decide))).1
  revert hcity
  decide

end NoteMuse.Inflection
