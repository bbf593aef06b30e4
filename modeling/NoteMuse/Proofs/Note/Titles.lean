import NoteMuse.Proofs.Distinct
import NoteMuse.Proofs.Note.Link
import NoteMuse.Proofs.Text.Separable

/-!
Which links are found in a text. In a text of links and plain characters, with white space and aliases in the
links and perhaps one link at the end that nothing closes, they are the links it is written with; in any text
they are different from each other, and none has white space around it, a bar, or what closes a link. Main
statement: `titles_of_written`.
-/

namespace NoteMuse.Link

open Text

/-! ### Texts with links -/

def Spaced (t : String) (cs : List Char) : Prop :=
  ∃ before after, (∀ c ∈ before, isBlank c = true) ∧ (∀ c ∈ after, isBlank c = true) ∧
    cs = before ++ (t.toList ++ after)

/-- What stands between the brackets of a link to a title: the title alone, or with a bar and an alias behind it
which does not close the link. -/
inductive Names (t : String) : List Char → Prop
  | bare {cs : List Char} (h : Spaced t cs) : Names t cs
  | aliased {cs shown : List Char} (h : Spaced t cs) (hclose : ¬[']', ']'] <:+: shown)
    (hlast : shown.getLast? ≠ some ']') : Names t (cs ++ '|' :: shown)

/-- The text is written with links to these titles, in this order. No opening bracket stands between the links,
and behind the last there may be one that nothing closes. -/
inductive Written : List Char → List String → Prop
  | nil : Written [] []
  | plain {c : Char} {cs : List Char} {ts : List String} (hc : c ≠ '[') (h : Written cs ts) : Written (c :: cs) ts
  | link {t : String} {inner cs : List Char} {ts : List String} (ht : Clean t) (hinner : Names t inner)
    (h : Written cs ts) : Written ('[' :: '[' :: (inner ++ ']' :: ']' :: cs)) (t :: ts)
  | unclosed {cs : List Char} (h : ¬[']', ']'] <:+: cs) : Written ('[' :: '[' :: cs) []

variable {cs inner : List Char} {ts : List String} {t : String} {c : Char}

/-! ### Between the brackets -/

theorem spaced_self (t : String) : Spaced t t.toList :=
  ⟨[], [], List.forall_mem_nil _, List.forall_mem_nil _, by simp⟩

theorem Spaced.mem (h : Spaced t cs) (hc : c ∈ cs) : c ∈ t.toList ∨ isBlank c = true := by
  obtain ⟨before, after, hbefore, hafter, rfl⟩ := h
  rcases List.mem_append.mp hc with hc | hc
  · exact .inr (hbefore c hc)
  · exact (List.mem_append.mp hc).imp_right (hafter c)

theorem Spaced.ne_bar (h : Spaced t cs) (ht : Clean t) : ∀ c ∈ cs, decide (c ≠ '|') = true := by
  intro c hc
  rw [decide_eq_true_iff]
  rintro rfl
  rcases h.mem hc with hbar | hblank
  · exact ht.noBar hbar
  · exact absurd hblank (by decide)

theorem Spaced.trim_eq (h : Spaced t cs) (ht : Clean t) : trim cs = t.toList := by
  obtain ⟨before, after, hbefore, hafter, rfl⟩ := h
  rw [trim_blank_append hbefore, trim_append_of_blank hafter, trimmed_eq_self_iff.mp ht.trimmed]

theorem Spaced.not_close (h : Spaced t cs) (ht : Clean t) :
    ¬[']', ']'] <:+: cs ∧ cs.getLast? ≠ some ']' := by
  obtain ⟨before, after, hbefore, hafter, rfl⟩ := h
  have hblank : ∀ c : Char, isBlank c = true → c ∉ [']', ']'] := by
    intro c hc hmem
    obtain rfl : c = ']' := by simpa using hmem
    exact absurd hc (by decide)
  constructor
  · intro hin
    have hinner := infix_of_infix_append (fun c hc => hblank c (hbefore c hc)) (by decide) hin
    exact ht.noClose (infix_of_infix_append_right (fun c hc => hblank c (hafter c hc)) (by decide) hinner)
  · rw [List.getLast?_append, List.getLast?_append]
    cases hlast : after.getLast? with
    | some c =>
      have hc := hblank c (hafter c (List.mem_of_getLast? hlast))
      simpa using hc
    | none =>
      cases htitle : t.toList.getLast? with
      | some c =>
        have hc := ht.noBracketLast
        rw [htitle] at hc
        simpa using hc
      | none =>
        have hnil := List.getLast?_eq_none_iff.mp htitle
        exact absurd (String.toList_eq_nil_iff.mp hnil) ht.ne_empty

theorem Names.not_close (h : Names t inner) (ht : Clean t) :
    ¬[']', ']'] <:+: inner ∧ inner.getLast? ≠ some ']' := by
  cases h with
  | bare h => exact h.not_close ht
  | @aliased cs shown h hclose hlast =>
    obtain ⟨hnot, -⟩ := h.not_close ht
    constructor
    · intro hin
      rcases infix_or_infix_of_append_cons (by decide) (by decide) hin with hin | hin
      · exact hnot hin
      · exact hclose hin
    · rw [List.getLast?_append, List.getLast?_cons, Option.some_or]
      cases hend : shown.getLast? with
      | none => simp
      | some c =>
        rw [hend] at hlast
        simpa using hlast

theorem Names.titleOf_eq (h : Names t inner) (ht : Clean t) : titleOf inner = t.toList := by
  cases h with
  | bare h => rw [titleOf, List.takeWhile_eq_self_iff.mpr (h.ne_bar ht), h.trim_eq ht]
  | @aliased cs shown h =>
    have hbar : (cs ++ '|' :: shown).takeWhile (· ≠ '|') = cs :=
      (takeWhile_dropWhile_append (h.ne_bar ht) (by decide) shown).1
    rw [titleOf, hbar, h.trim_eq ht]

/-! ### Finding links -/

theorem contents_of_cutAt_none (h : cutAt ['[', '['] cs = none) : contents cs = [] := by
  rw [contents]
  split
  · rfl
  · next hs => rw [h] at hs; cases hs

theorem contents_of_cutAt_some {before after : List Char}
    (h : cutAt ['[', '['] cs = some (before, after)) :
    contents cs =
      match cutAt [']', ']'] after with
      | none => []
      | some (inner, rest) => inner :: contents rest := by
  rw [contents]
  split
  · next hn => rw [h] at hn; cases hn
  · next hs =>
    rw [h] at hs
    cases hs
    split <;> next hclose => simp only [hclose]

theorem contents_cons (hc : c ≠ '[') (cs : List Char) : contents (c :: cs) = contents cs := by
  have hcut : cutAt ['[', '['] (c :: cs) = (cutAt ['[', '['] cs).map fun p => (c :: p.1, p.2) :=
    cutAt_append_left (a := [c]) (by simpa using Ne.symm hc) cs
  cases h : cutAt ['[', '['] cs with
  | none =>
    rw [h] at hcut
    rw [contents_of_cutAt_none hcut, contents_of_cutAt_none h]
  | some p =>
    rw [h] at hcut
    rw [contents_of_cutAt_some hcut, contents_of_cutAt_some h]

theorem contents_open (cs : List Char) :
    contents ('[' :: '[' :: cs) =
      match cutAt [']', ']'] cs with
      | none => []
      | some (inner, rest) => inner :: contents rest := by
  have hopen : cutAt ['[', '['] ('[' :: '[' :: cs) = some ([], cs) := cutAt_separator cs
  rw [contents_of_cutAt_some hopen]

/-- **The links that are found in a text are those it is written with.** -/
theorem Written.map_titleOf (h : Written cs ts) : (contents cs).map titleOf = ts.map String.toList := by
  induction h with
  | nil => rw [contents_of_cutAt_none rfl, List.map_nil, List.map_nil]
  | plain hc _ ih => rw [contents_cons hc, ih]
  | @link t inner cs ts ht hinner _ ih =>
    obtain ⟨hclose, hlast⟩ := hinner.not_close ht
    have hfirst : FirstBehind [']', ']'] inner := by
      refine firstBehind_of_getLast? hclose fun c hc hmem => hlast ?_
      rw [hc]
      simpa using hmem
    have hcut : cutAt [']', ']'] (inner ++ ']' :: ']' :: cs) = some (inner, cs) :=
      hfirst.cutAt_append (List.cons_ne_nil _ _) cs
    rw [contents_open, hcut]
    simp only [List.map_cons, hinner.titleOf_eq ht, ih]
  | unclosed h => rw [contents_open, cutAt_eq_none_iff.mpr h, List.map_nil, List.map_nil]

theorem Written.clean (h : Written cs ts) : ∀ t ∈ ts, Clean t := by
  induction h with
  | nil | unclosed => exact List.forall_mem_nil _
  | plain _ _ ih => exact ih
  | link ht _ _ ih => exact List.forall_mem_cons.mpr ⟨ht, ih⟩

theorem Written.titles_eq {text : String} (h : Written text.toList ts) : titles text = distinct ts := by
  have hfilter : (ts.map String.toList).filter (fun t => !t.isEmpty) = ts.map String.toList := by
    rw [List.filter_eq_self, List.forall_mem_map]
    intro t ht
    have hne : t.toList ≠ [] := mt String.toList_eq_nil_iff.mp (h.clean t ht).ne_empty
    simpa using hne
  rw [titles, h.map_titleOf, hfilter, map_ofList_eq_iff.mpr rfl]

theorem LinksTo.written (h : LinksTo cs ts) : Written cs ts := by
  induction h with
  | nil => exact .nil
  | plain hc _ ih => exact .plain hc ih
  | @link t cs ts ht _ ih =>
    have hwrap : (wrap t).toList ++ cs = '[' :: '[' :: (t.toList ++ ']' :: ']' :: cs) := by
      simp [toList_wrap]
    rw [hwrap]
    exact .link ht (.bare (spaced_self t)) ih

theorem LinksTo.titles_eq {text : String} (h : LinksTo text.toList ts) : titles text = distinct ts :=
  h.written.titles_eq

/-! ### What is found in any text -/

theorem not_close_of_mem_contents (h : inner ∈ contents cs) : ¬[']', ']'] <:+: inner := by
  fun_induction contents cs with
  | case1 | case2 => exact absurd h List.not_mem_nil
  | case3 _ _ after _ first rest hclose _ _ ih =>
    rcases List.mem_cons.mp h with rfl | h
    · exact (firstBehind_of_cutAt hclose).not_isInfix (List.cons_ne_nil _ _)
    · exact ih h

theorem mem_titles {text : String} :
    t ∈ titles text ↔ t ≠ "" ∧ ∃ inner ∈ contents text.toList, t = String.ofList (titleOf inner) := by
  unfold titles
  rw [mem_distinct]
  simp only [List.mem_map, List.mem_filter]
  constructor
  · rintro ⟨_, ⟨⟨inner, hinner, rfl⟩, hne⟩, rfl⟩
    refine ⟨?_, inner, hinner, rfl⟩
    simpa [← String.toList_eq_nil_iff] using hne
  · rintro ⟨hne, inner, hinner, rfl⟩
    refine ⟨_, ⟨⟨inner, hinner, rfl⟩, ?_⟩, rfl⟩
    simpa [← String.toList_eq_nil_iff] using hne

/-- A title that is found is trimmed, and holds neither a bar nor what closes a link. -/
theorem titleOf_clean (h : ¬[']', ']'] <:+: inner) :
    trim (titleOf inner) = titleOf inner ∧ '|' ∉ titleOf inner ∧ ¬[']', ']'] <:+: titleOf inner := by
  unfold titleOf
  refine ⟨trim_trim _, fun hbar => ?_, fun hclose => h ?_⟩
  · have hmem := List.mem_takeWhile_imp ((trim_isInfix _).subset hbar)
    simp at hmem
  · exact (hclose.trans (trim_isInfix _)).trans (List.takeWhile_prefix _).isInfix

/-- **Which links are found.** In a text that is written with links, with white space around the titles, aliases
and perhaps a last link that nothing closes, they are the titles of these links without later repetitions. In any
text they are different from each other, and each of them is a title that is trimmed and not empty, without a bar
and without what closes a link. -/
theorem titles_of_written :
    (∀ text ts, Written text.toList ts → titles text = ts.eraseDups) ∧
      ∀ text, (titles text).Nodup ∧ ∀ t ∈ titles text,
        t ≠ "" ∧ trimmed t = t ∧ '|' ∉ t.toList ∧ ¬[']', ']'] <:+: t.toList := by
  constructor
  · intro text ts h
    rw [h.titles_eq, distinct_eq_eraseDups]
  · intro text
    refine ⟨nodup_distinct _, fun t ht => ?_⟩
    obtain ⟨hne, inner, hinner, rfl⟩ := mem_titles.mp ht
    obtain ⟨htrim, hbar, hclose⟩ := titleOf_clean (not_close_of_mem_contents hinner)
    refine ⟨hne, ?_, ?_, ?_⟩
    · rw [trimmed_eq_self_iff, String.toList_ofList, htrim]
    · rwa [String.toList_ofList]
    · rwa [String.toList_ofList]

/-- Brackets and a bar in an alias, a bracket in a title, one title twice, and a last link that is not closed. -/
theorem titles_of_written_mixed :
    Written "x[[ B |c]d|e]]]y[[A[b]][[B]][[open]".toList ["B", "A[b", "B"] ∧
      titles "x[[ B |c]d|e]]]y[[A[b]][[B]][[open]" = ["B", "A[b"] ∧
      "A[b" ≠ "" ∧ trimmed "A[b" = "A[b" ∧ '|' ∉ "A[b".toList ∧ ¬[']', ']'] <:+: "A[b".toList := by
  have hB : Clean "B" := ⟨by decide, by decide, by decide, by decide, by decide⟩
  have hA : Clean "A[b" := ⟨by decide, by decide, by decide, by decide, by decide⟩
  have hshown : Names "B" (" B ".toList ++ '|' :: "c]d|e".toList) :=
    .aliased ⟨[' '], [' '], List.forall_mem_singleton.mpr rfl, List.forall_mem_singleton.mpr rfl, by decide⟩
      (by decide) (by decide)
  have hwritten : Written "x[[ B |c]d|e]]]y[[A[b]][[B]][[open]".toList ["B", "A[b", "B"] := by
    have htext : "x[[ B |c]d|e]]]y[[A[b]][[B]][[open]".toList =
        'x' :: '[' :: '[' :: (" B ".toList ++ '|' :: "c]d|e".toList ++ ']' :: ']' :: ']' :: 'y' ::
          '[' :: '[' :: ("A[b".toList ++ ']' :: ']' :: '[' :: '[' :: ("B".toList ++ ']' :: ']' ::
            '[' :: '[' :: "open]".toList))) := by decide
    rw [htext]
    refine .plain (by decide) (.link hB hshown (.plain (by decide) (.plain (by decide) ?_)))
    exact .link hA (.bare (spaced_self _)) (.link hB (.bare (spaced_self _)) (.unclosed (by decide)))
  have htitles : titles "x[[ B |c]d|e]]]y[[A[b]][[B]][[open]" = ["B", "A[b"] :=
    titles_of_written.1 _ _ hwritten
  exact ⟨hwritten, htitles, (titles_of_written.2 _).2 "A[b" (by rw [htitles]; decide)⟩

end NoteMuse.Link
