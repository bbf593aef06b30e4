import NoteMuse.Inflection.Article
import NoteMuse.Inflection.Past
import NoteMuse.Inflection.Plural
import NoteMuse.Proofs.Text.CaseMap

/-!
Inflection and white space: capitals leave the white space of a text as it is, the plural and the past tense of a
word have none as the word has none, an article brings one space, and no text becomes empty.
-/

namespace NoteMuse.Inflection

open Text

variable {word low : List Char}

/-! ### Capitals -/

@[simp] theorem blanks_capitalize (cs : List Char) : blanks (capitalize cs) = blanks cs := by
  cases cs with
  | nil => rfl
  | cons c cs => rw [capitalize, blanks_append, blanks_upperOf, ← blanks_append, List.singleton_append]

@[simp] theorem capitalize_eq_nil_iff {cs : List Char} : capitalize cs = [] ↔ cs = [] := by
  cases cs with
  | nil => simp [capitalize]
  | cons c cs => simp [capitalize, upperOf_ne_nil]

theorem blanks_capitalizeFrom (fresh : Bool) (cs : List Char) : blanks (capitalizeFrom fresh cs) = blanks cs := by
  induction cs generalizing fresh with
  | nil => rfl
  | cons c cs ih =>
    unfold capitalizeFrom
    split
    · rw [blanks_cons, blanks_cons, ih]
    · have hfirst : blanks (if fresh then upperOf c else [c]) = blanks [c] := by
        split
        · exact blanks_upperOf c
        · rfl
      rw [blanks_append, hfirst, ih, ← blanks_append, List.singleton_append]

@[simp] theorem blanks_capitalizeAll (cs : List Char) : blanks (capitalizeAll cs) = blanks cs :=
  blanks_capitalizeFrom true cs

@[simp] theorem capitalizeAll_eq_nil_iff {cs : List Char} : capitalizeAll cs = [] ↔ cs = [] := by
  cases cs with
  | nil => simp [capitalizeAll, capitalizeFrom]
  | cons c cs =>
    simp only [capitalizeAll, capitalizeFrom]
    split <;> simp [upperOf_ne_nil]

@[simp] theorem blanks_matchCase (word replacement : List Char) :
    blanks (matchCase word replacement) = blanks replacement := by
  unfold matchCase
  split <;> simp

@[simp] theorem matchCase_eq_nil_iff {replacement : List Char} : matchCase word replacement = [] ↔ replacement = [] := by
  unfold matchCase
  split <;> simp

/-! ### Words -/

/-- A text without white space that is not empty. -/
structure Word (cs : List Char) : Prop where
  ne_nil : cs ≠ []
  noBlank : blanks cs = []

theorem word_append {stem ending : List Char} (hstem : blanks stem = []) (hending : Word ending) :
    Word (stem ++ ending) :=
  ⟨by simp [hending.ne_nil], by simp [hstem, hending.noBlank]⟩

theorem Word.matchCase {replacement : List Char} (h : Word replacement) (word : List Char) :
    Word (matchCase word replacement) :=
  ⟨by simp [h.ne_nil], by simp [h.noBlank]⟩

theorem blanks_of_dropEnd? {ending stem : List Char} (hword : blanks word = [])
    (h : dropEnd? ending word = some stem) : blanks stem = [] := by
  unfold dropEnd? at h
  split at h
  · cases h
    rw [blanks_eq_nil_iff] at hword ⊢
    exact fun c hc => hword c (List.mem_of_mem_take hc)
  · cases h

theorem blanks_getLast? (h : blanks word = []) : blanks word.getLast?.toList = [] := by
  rw [blanks_eq_nil_iff] at h ⊢
  intro c hc
  exact h c (List.mem_of_getLast? (Option.mem_toList.mp hc))

theorem word_of_lookup {table : List (String × String)} {key value : String}
    (htable : ∀ p ∈ table, p.2.toList ≠ [] ∧ blanks p.2.toList = []) (h : table.lookup key = some value) :
    Word value.toList := by
  obtain ⟨hne, hblank⟩ := htable (key, value) (mem_of_lookup h)
  exact ⟨hne, hblank⟩

/-- The function inflects words: it makes a word of a word, and nothing of nothing. -/
structure Inflects (f : List Char → List Char) : Prop where
  nil : f [] = []
  word : ∀ {cs}, Word cs → Word (f cs)

variable {f : List Char → List Char}

theorem Inflects.blanks_eq_nil (hf : Inflects f) (h : blanks word = []) : blanks (f word) = [] := by
  by_cases hne : word = []
  · rw [hne, hf.nil]
    rfl
  · exact (hf.word ⟨hne, h⟩).noBlank

theorem Inflects.eq_nil_iff (hf : Inflects f) (h : blanks word = []) : f word = [] ↔ word = [] := by
  constructor
  · intro hnil
    by_contra hne
    exact (hf.word ⟨hne, h⟩).ne_nil hnil
  · rintro rfl
    exact hf.nil

theorem word_pluralByEnding (h : Word word) : Word (pluralByEnding word low) := by
  unfold pluralByEnding
  split
  · next stem hstem =>
    have hblanks := blanks_of_dropEnd? h.noBlank (Option.eq_some_of_filter_eq_some hstem)
    exact word_append hblanks ⟨by decide, by decide⟩
  · split <;> exact word_append h.noBlank ⟨by decide, by decide⟩

/-- **The plural of a word is a word.** -/
theorem inflects_pluralize : Inflects pluralize where
  nil := rfl
  word {cs} h := by
    unfold pluralize
    rw [if_neg (by simpa using h.ne_nil)]
    simp only
    split
    · exact h
    · split
      · next plural hplural => exact (word_of_lookup (by decide) hplural).matchCase cs
      · exact word_pluralByEnding h

theorem word_pastByEnding (h : Word word) : Word (pastByEnding word low) := by
  unfold pastByEnding
  split
  · exact word_append h.noBlank ⟨by decide, by decide⟩
  · split
    · next stem hstem =>
      have hblanks := blanks_of_dropEnd? h.noBlank (Option.eq_some_of_filter_eq_some hstem)
      exact word_append hblanks ⟨by decide, by decide⟩
    · have hdoubled : blanks (word ++ word.getLast?.toList) = [] := by
        rw [blanks_append, h.noBlank, blanks_getLast? h.noBlank, List.append_nil]
      split
      · exact word_append hdoubled ⟨by decide, by decide⟩
      · exact word_append h.noBlank ⟨by decide, by decide⟩

/-- **The past tense of a word is a word.** -/
theorem inflects_pastTense : Inflects pastTense where
  nil := rfl
  word {cs} h := by
    unfold pastTense
    rw [if_neg (by simpa using h.ne_nil)]
    simp only
    split
    · next past hpast => exact (word_of_lookup (by decide) hpast).matchCase cs
    · exact word_pastByEnding h

/-! ### The article -/

theorem blanks_withArticle {cs : List Char} (h : cs ≠ []) : blanks (withArticle cs) = ' ' :: blanks cs := by
  unfold withArticle
  rw [if_neg (by simpa using h), blanks_append]
  split <;> rfl

@[simp] theorem withArticle_eq_nil_iff {cs : List Char} : withArticle cs = [] ↔ cs = [] := by
  unfold withArticle
  cases cs <;> simp

end NoteMuse.Inflection
