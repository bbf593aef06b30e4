import Mathlib.Data.List.Basic
import NoteMuse.Proofs.Distinct
import NoteMuse.Proofs.Suggestion

/-!
What becomes of drafts: each one with text makes a suggestion, and the draft that says what such a suggestion says
makes the same one again. Main statement: `ofDrafts_exact`.
-/

namespace NoteMuse.Suggestion

open Text

def toDraft (s : Suggestion) : Draft := ⟨s.text, s.notes, s.title⟩

/-- The suggestion is what becomes of the draft: its text is trimmed, its notes are those the draft names or else
those its text links to, each of them once, and its title is that of the draft if this is not blank. -/
structure MadeFrom (geist : String) (d : Draft) (s : Suggestion) : Prop extends Finished geist s where
  text : s.text = Text.trimmed d.text
  named : d.notes ≠ [] → s.notes = d.notes.eraseDups
  linked : d.notes = [] → s.notes = Link.titles s.text
  nodup : s.notes.Nodup
  title : ∀ t, s.title = some t ↔ d.title = some t ∧ isBlankText t = false

variable {geist : String} {d : Draft} {s : Suggestion}

/-! ### One draft -/

theorem ofText?_eq_ofDraft? (geist text : String) : ofText? geist text = ofDraft? geist (.ofText text) := rfl

theorem ofDraft?_eq_none_iff : ofDraft? geist d = none ↔ isBlankText d.text = true := by
  unfold ofDraft?
  rw [← trimmed_eq_empty_iff, ← String.isEmpty_iff]
  by_cases h : (Text.trimmed d.text).isEmpty = true <;> simp [h]

theorem madeFrom_of_ofDraft? (h : ofDraft? geist d = some s) : MadeFrom geist d s := by
  have hmem : s ∈ ofDrafts geist [d] := by simp [ofDrafts, h]
  have hfinished := finished_of_mem_ofDrafts hmem
  unfold ofDraft? at h
  simp only at h
  split at h
  · cases h
  cases h
  refine { hfinished with text := rfl, named := ?_, linked := ?_, nodup := ?_, title := ?_ }
  · intro hnotes
    simp only [List.isEmpty_iff, if_neg hnotes, distinct_eq_eraseDups]
  · intro hnotes
    simp only [List.isEmpty_iff, if_pos hnotes]
  · dsimp only
    split <;> exact nodup_distinct _
  · intro t
    simp [Option.filter_eq_some_iff]

/-- What a suggestion says makes the same suggestion again. -/
theorem MadeFrom.ofDraft?_toDraft (h : MadeFrom geist d s) : ofDraft? geist s.toDraft = some s := by
  have hne : ¬s.text.isEmpty = true := by
    rw [String.isEmpty_iff, ← h.trimmed, trimmed_eq_empty_iff, h.notBlank]
    exact Bool.false_ne_true
  have hnotes : (if s.notes.isEmpty then Link.titles s.text else distinct s.notes) = s.notes := by
    split
    · next hempty =>
      -- The notes that a draft names are never none, so these are the links of the text.
      refine (h.linked ?_).symm
      by_contra hnamed
      have hnone : distinct d.notes = [] := by
        rw [distinct_eq_eraseDups, ← h.named hnamed, List.isEmpty_iff.mp hempty]
      exact hnamed (distinct_eq_nil_iff.mp hnone)
    · exact distinct_eq_self h.nodup
  have htitle : s.title.filter (fun t => !isBlankText t) = s.title := by
    cases ht : s.title with
    | none => rfl
    | some t =>
      obtain ⟨-, hblank⟩ := (h.title t).mp ht
      simp [Option.filter, hblank]
  obtain ⟨text, notes, geist', title⟩ := s
  obtain rfl : geist' = geist := h.geist
  unfold ofDraft? toDraft
  simp only [h.trimmed] at hne hnotes htitle ⊢
  rw [if_neg hne, hnotes, htitle]

/-! ### All drafts -/

theorem ofTexts_eq_ofDrafts (geist : String) (texts : List String) :
    ofTexts geist texts = ofDrafts geist (texts.map .ofText) := by
  have hsame : ∀ text ∈ texts, ofText? geist text = (ofDraft? geist ∘ .ofText) text := by
    intro text _
    rw [Function.comp_apply, ofText?_eq_ofDraft?]
  rw [ofDrafts, List.filterMap_map]
  exact List.filterMap_congr hsame

theorem forall₂_madeFrom (geist : String) (drafts : List Draft) :
    List.Forall₂ (MadeFrom geist) (drafts.filter fun d => !isBlankText d.text) (ofDrafts geist drafts) := by
  induction drafts with
  | nil => exact .nil
  | cons d drafts ih =>
    unfold ofDrafts at ih ⊢
    cases hd : ofDraft? geist d with
    | none =>
      have hblank := ofDraft?_eq_none_iff.mp hd
      rw [List.filterMap_cons_none hd, List.filter_cons_of_neg (by simp [hblank])]
      exact ih
    | some s =>
      have hblank : ¬isBlankText d.text = true := by
        intro hb
        rw [ofDraft?_eq_none_iff.mpr hb] at hd
        cases hd
      rw [List.filterMap_cons_some hd, List.filter_cons_of_pos (by simp [hblank])]
      exact .cons (madeFrom_of_ofDraft? hd) ih

theorem ofDrafts_toDraft (geist : String) (drafts : List Draft) :
    ofDrafts geist ((ofDrafts geist drafts).map toDraft) = ofDrafts geist drafts := by
  have hagain : ∀ s ∈ ofDrafts geist drafts, (ofDraft? geist ∘ toDraft) s = some s := by
    intro s hs
    obtain ⟨d, -, hd⟩ := List.mem_filterMap.mp hs
    rw [Function.comp_apply]
    exact (madeFrom_of_ofDraft? hd).ofDraft?_toDraft
  rw [ofDrafts, List.filterMap_map, List.filterMap_congr hagain, List.filterMap_some]

/-- **What becomes of drafts.** Texts make the same suggestions as drafts of nothing but these texts. Every draft
whose text is not blank makes one suggestion, in the order of the drafts, and the drafts that say what these
suggestions say make the same suggestions again. -/
theorem ofDrafts_exact (geist : String) (texts : List String) (drafts : List Draft) :
    ofTexts geist texts = ofDrafts geist (texts.map .ofText) ∧
      List.Forall₂ (MadeFrom geist) (drafts.filter fun d => !isBlankText d.text) (ofDrafts geist drafts) ∧
      ofDrafts geist ((ofDrafts geist drafts).map toDraft) = ofDrafts geist drafts :=
  ⟨ofTexts_eq_ofDrafts geist texts, forall₂_madeFrom geist drafts, ofDrafts_toDraft geist drafts⟩

/-- Notes that are named twice, a blank title, a blank text, and links that stand in for notes. -/
example : ofDrafts "g" [⟨" about [[X]]", ["Y", "Y"], some " "⟩, ⟨" ", ["Y"], none⟩, ⟨"[[X]]", [], some "T"⟩] =
    [⟨"about [[X]]", ["Y"], "g", none⟩, ⟨"[[X]]", ["X"], "g", some "T"⟩] := by
  decide +kernel

end NoteMuse.Suggestion
