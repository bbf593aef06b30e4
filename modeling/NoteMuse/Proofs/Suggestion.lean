import NoteMuse.Proofs.Text.Blank
import NoteMuse.Suggestion

/-!
The suggestions made from texts and from drafts carry the id of their geist and a text that is trimmed and
not blank.
-/

namespace NoteMuse.Suggestion

open Text

structure Finished (geist : String) (s : Suggestion) : Prop where
  geist : s.geist = geist
  trimmed : trimmed s.text = s.text
  notBlank : isBlankText s.text = false

theorem Finished.of_trimmed {geist text : String} {s : Suggestion} (hg : s.geist = geist)
    (ht : s.text = Text.trimmed text) (hne : ¬(Text.trimmed text).isEmpty = true) :
    Finished geist s := by
  refine ⟨hg, ?_, ?_⟩
  · rw [ht, trimmed_trimmed]
  · rw [Bool.eq_false_iff]
    intro hb
    have hempty := trimmed_eq_empty_iff.mpr hb
    rw [ht, trimmed_trimmed] at hempty
    rw [hempty] at hne
    exact hne rfl

theorem ofTexts_append (geist : String) (texts more : List String) :
    ofTexts geist (texts ++ more) = ofTexts geist texts ++ ofTexts geist more := List.filterMap_append

theorem finished_of_mem_ofTexts {geist : String} {texts : List String} {s : Suggestion}
    (h : s ∈ ofTexts geist texts) : Finished geist s := by
  obtain ⟨text, -, hs⟩ := List.mem_filterMap.mp h
  unfold ofText? at hs
  simp only at hs
  split at hs
  · cases hs
  · next hne =>
    cases hs
    exact .of_trimmed rfl rfl hne

theorem finished_of_mem_ofDrafts {geist : String} {drafts : List Draft} {s : Suggestion}
    (h : s ∈ ofDrafts geist drafts) : Finished geist s := by
  obtain ⟨d, -, hs⟩ := List.mem_filterMap.mp h
  unfold ofDraft? at hs
  simp only at hs
  split at hs
  · cases hs
  · next hne =>
    cases hs
    exact .of_trimmed rfl rfl hne

end NoteMuse.Suggestion
