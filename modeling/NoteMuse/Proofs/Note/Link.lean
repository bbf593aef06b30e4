import Mathlib.Data.List.Induction
import NoteMuse.Note.Link
import NoteMuse.Proofs.Distinct
import NoteMuse.Proofs.Text.Blank
import NoteMuse.Proofs.Text.Split

/-!
Texts made of links and plain characters. Where the titles are clean and no plain character is an opening
bracket, such texts can be joined, cut at bars and trimmed, which leaves every link whole. Main statements:
`LinksTo.trim`, `LinksTo.exists_of_mem_splitOn`.
-/

namespace NoteMuse.Link

open Text

/-- A title that stands in a link as it is: what closes the link comes after it, and nothing in it is taken
for the bar before an alias or for white space around it. -/
structure Clean (title : String) : Prop where
  ne_empty : title ≠ ""
  trimmed : trimmed title = title
  noBar : '|' ∉ title.toList
  noClose : ¬[']', ']'] <:+: title.toList
  noBracketLast : title.toList.getLast? ≠ some ']'

/-- The text is made of links to these titles, in this order, and of characters that open no link. -/
inductive LinksTo : List Char → List String → Prop
  | nil : LinksTo [] []
  | plain {c : Char} {cs : List Char} {ts : List String} (hc : c ≠ '[') (h : LinksTo cs ts) :
    LinksTo (c :: cs) ts
  | link {t : String} {cs : List Char} {ts : List String} (ht : Clean t) (h : LinksTo cs ts) :
    LinksTo ((wrap t).toList ++ cs) (t :: ts)

variable {cs ds : List Char} {ts us : List String} {t : String} {c : Char}

theorem toList_wrap (t : String) : (wrap t).toList = '[' :: '[' :: (t.toList ++ [']', ']']) := by
  rw [wrap, String.toList_append, String.toList_append]
  rfl

theorem toList_wrap_concat (t : String) : (wrap t).toList = '[' :: '[' :: (t.toList ++ [']']) ++ [']'] := by
  simp [toList_wrap]

theorem wrap_injective : Function.Injective wrap := by
  intro t u h
  have hlist := congrArg String.toList h
  rw [toList_wrap, toList_wrap, List.cons.injEq, List.cons.injEq, List.append_left_inj] at hlist
  exact String.toList_inj.mp hlist.2.2

theorem getLast?_wrap (t : String) : (wrap t).toList.getLast? = some ']' := by
  rw [toList_wrap_concat, List.getLast?_concat]

theorem bar_notMem_wrap (ht : Clean t) : '|' ∉ (wrap t).toList := by
  have := ht.noBar
  simp [toList_wrap, this]

/-! ### Making texts -/

theorem linksTo_of_notMem (h : '[' ∉ cs) : LinksTo cs [] := by
  induction cs with
  | nil => exact .nil
  | cons c cs ih =>
    rw [List.mem_cons, not_or] at h
    exact .plain (Ne.symm h.1) (ih h.2)

theorem linksTo_wrap (ht : Clean t) : LinksTo (wrap t).toList [t] := by
  rw [← List.append_nil (wrap t).toList]
  exact .link ht .nil

theorem LinksTo.append (h : LinksTo cs ts) (hd : LinksTo ds us) : LinksTo (cs ++ ds) (ts ++ us) := by
  induction h with
  | nil => exact hd
  | plain hc _ ih => exact .plain hc ih
  | link ht _ ih =>
    rw [List.append_assoc]
    exact .link ht ih

/-! ### Taking texts apart -/

theorem LinksTo.eq_nil (h : LinksTo [] ts) : ts = [] := by
  generalize hs : ([] : List Char) = s at h
  cases h with
  | nil => rfl
  | plain => cases hs
  | link =>
    rw [toList_wrap] at hs
    cases hs

theorem LinksTo.of_cons (h : LinksTo (c :: cs) ts) (hc : c ≠ '[') : LinksTo cs ts := by
  generalize hs : c :: cs = s at h
  cases h with
  | nil => cases hs
  | plain _ h =>
    cases hs
    exact h
  | link ht h =>
    rw [toList_wrap] at hs
    cases hs
    exact absurd rfl hc

theorem LinksTo.of_append (h : LinksTo (ds ++ cs) ts) (hd : '[' ∉ ds) : LinksTo cs ts := by
  induction ds with
  | nil => exact h
  | cons d ds ih =>
    rw [List.mem_cons, not_or] at hd
    exact ih (h.of_cons (Ne.symm hd.1)) hd.2

/-- The last character is that of a link, or else it may be taken away. -/
theorem LinksTo.of_concat (h : LinksTo (cs ++ [c]) ts) (hc : c ≠ ']') : LinksTo cs ts := by
  generalize hs : cs ++ [c] = s at h
  induction h generalizing cs with
  | nil => simp at hs
  | @plain d ds us hd h ih =>
    cases cs with
    | nil =>
      obtain ⟨-, rfl⟩ := List.cons.inj hs
      rw [h.eq_nil]
      exact .nil
    | cons c' cs =>
      rw [List.cons_append] at hs
      obtain ⟨rfl, htail⟩ := List.cons.inj hs
      exact .plain hd (ih htail)
  | @link t ds us ht h ih =>
    rcases List.eq_nil_or_concat ds with rfl | ⟨ds', d, rfl⟩
    -- nothing follows the link, which ends with a bracket
    · have hlast := congrArg List.getLast? hs
      rw [List.getLast?_concat, List.append_nil, getLast?_wrap] at hlast
      exact absurd (Option.some.inj hlast) hc
    · rw [List.concat_eq_append] at hs ih
      rw [← List.append_assoc] at hs
      obtain ⟨rfl, hd⟩ := List.append_inj' hs rfl
      cases hd
      exact .link ht (ih rfl)

/-- **Trimming leaves every link whole.** -/
theorem LinksTo.trim (h : LinksTo cs ts) : LinksTo (trim cs) ts := by
  have hleft : LinksTo (trimLeft cs) ts := by
    induction h with
    | nil => exact .nil
    | @plain c cs ts hc h ih =>
      by_cases hb : isBlank c = true
      · rwa [trimLeft_blank hb]
      · rw [trimLeft_cons (Bool.eq_false_iff.mpr hb)]
        exact .plain hc h
    | @link t cs ts ht h _ =>
      -- a link begins with a bracket, where trimming comes to its end
      have hstart : trimLeft ((wrap t).toList ++ cs) = (wrap t).toList ++ cs := by
        rw [toList_wrap]
        exact trimLeft_cons (by decide)
      rw [hstart]
      exact .link ht h
  unfold Text.trim
  generalize trimLeft cs = ds at hleft
  -- at the right end from the back: a link ends with a bracket
  induction ds using List.reverseRecOn with
  | nil => exact hleft
  | append_singleton ds c ih =>
    by_cases hb : isBlank c = true
    · rw [trimRight_append_of_blank (List.forall_mem_singleton.mpr hb)]
      refine ih (hleft.of_concat ?_)
      rintro rfl
      exact absurd hb (by decide)
    · rwa [trimRight_append (Bool.eq_false_iff.mpr hb)]

/-- A cut at a bar is made between links. -/
theorem LinksTo.of_cutAt {sep a b : List Char} (h : LinksTo cs ts) (hsep : '[' ∉ sep)
    (hcut : cutAt ('|' :: sep) cs = some (a, b)) :
    ∃ us vs, ts = us ++ vs ∧ LinksTo a us ∧ LinksTo b vs := by
  induction h generalizing a with
  | nil => cases hcut
  | @plain c cs ts hc h ih =>
    by_cases hp : ('|' :: sep).isPrefixOf (c :: cs) = true
    · obtain ⟨rest, hrest⟩ := List.isPrefixOf_iff_prefix.mp hp
      rw [← hrest] at hcut
      obtain ⟨rfl, rfl⟩ : a = [] ∧ b = rest := by
        rw [List.cons_append, cutAt_separator] at hcut
        cases hcut
        exact ⟨rfl, rfl⟩
      have hall : LinksTo (('|' :: sep) ++ b) ts := hrest ▸ .plain hc h
      refine ⟨[], ts, rfl, .nil, hall.of_append ?_⟩
      simp [hsep]
    · rw [cutAt, if_neg hp] at hcut
      obtain ⟨⟨a', b'⟩, hrest, he⟩ := Option.map_eq_some_iff.mp hcut
      cases he
      obtain ⟨us, vs, rfl, ha, hb⟩ := ih hrest
      exact ⟨us, vs, rfl, .plain hc ha, hb⟩
  | @link t cs ts ht h ih =>
    -- no title holds a bar, so the cut is behind the link
    rw [cutAt_append_left (bar_notMem_wrap ht)] at hcut
    obtain ⟨⟨a', b'⟩, hrest, he⟩ := Option.map_eq_some_iff.mp hcut
    cases he
    obtain ⟨us, vs, rfl, ha, hb⟩ := ih hrest
    exact ⟨t :: us, vs, rfl, .link ht ha, hb⟩

/-- **Splitting at bars leaves every link whole.** -/
theorem LinksTo.exists_of_mem_splitOn {sep p : List Char} (h : LinksTo cs ts) (hsep : '[' ∉ sep)
    (hp : p ∈ splitOn ('|' :: sep) cs) : ∃ us, us ⊆ ts ∧ LinksTo p us := by
  induction hn : cs.length using Nat.strongRecOn generalizing cs ts with
  | ind n ih =>
    cases hcut : cutAt ('|' :: sep) cs with
    | none =>
      rw [splitOn_of_cutAt_none hcut, List.mem_singleton] at hp
      subst hp
      exact ⟨ts, List.Subset.refl ts, h⟩
    | some q =>
      obtain ⟨a, b⟩ := q
      obtain ⟨us, vs, rfl, ha, hb⟩ := h.of_cutAt hsep hcut
      rw [splitOn_of_cutAt_some hcut] at hp
      rcases List.mem_cons.mp hp with rfl | hp
      · exact ⟨us, List.subset_append_left us vs, ha⟩
      · have hlt := length_lt_of_cutAt (List.cons_ne_nil _ _) hcut
        obtain ⟨ws, hws, hpiece⟩ := ih b.length (hn ▸ hlt) hb hp rfl
        exact ⟨ws, List.subset_append_of_subset_right us hws, hpiece⟩

end NoteMuse.Link
