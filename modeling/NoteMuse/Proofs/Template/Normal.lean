import NoteMuse.Proofs.Call.Print
import NoteMuse.Proofs.Except
import NoteMuse.Template.Reader

/-!
Normal templates: the form that reading gives a template. Main statement: `normal_of_read`, every
template that is read is normal, as far as its calls have no numbers with a fraction.
-/

namespace NoteMuse

open Text Decimal

/-! ### Normal templates -/

/-- A part is a number of 64 bits. -/
def Step.InRange : Step → Prop
  | .part i => i < UInt64.size
  | .apply _ => True

instance : DecidablePred Step.InRange
  | .part i => inferInstanceAs (Decidable (i < UInt64.size))
  | .apply _ => inferInstanceAs (Decidable True)

def Segment.isLiteral : Segment → Bool
  | .literal _ => true
  | _ => false

def Template.beginsLiteral (t : Template) : Bool := t.head?.any Segment.isLiteral

theorem Template.exists_literal_of_beginsLiteral {t : Template} (h : t.beginsLiteral = true) :
    ∃ s rest, t = .literal s :: rest := by
  cases t with
  | nil => simp [beginsLiteral] at h
  | cons s rest =>
    cases s with
    | literal s => exact ⟨s, rest, rfl⟩
    | reference | call | action => simp [beginsLiteral, Segment.isLiteral] at h

mutual

/-- Names are names of symbols, parts are in range, calls are normal, and literal text is not empty,
inside actions too. -/
def Segment.Normal : Segment → Prop
  | .literal s => s ≠ ""
  | .reference symbol steps => isSymbolName symbol.toList = true ∧ ∀ st ∈ steps, st.InRange
  | .call c => c.Normal
  | .action name body => isSymbolName name.toList = true ∧ Template.Normal body

/-- All segments are normal and no two pieces of literal text are neighbours. -/
def Template.Normal : Template → Prop
  | [] => True
  | s :: rest =>
    s.Normal ∧ ¬(s.isLiteral = true ∧ Template.beginsLiteral rest = true) ∧ Template.Normal rest

end

instance (c : Call) : Decidable c.Normal :=
  decidable_of_iff (Call.isIdentifier c.space = true ∧ Call.isIdentifier c.function = true ∧
      ∀ a ∈ c.args, a.isFloat = false)
    ⟨fun h => ⟨h.1, h.2.1, h.2.2⟩, fun h => ⟨h.space, h.function, h.args⟩⟩

mutual

def Segment.decideNormal : (s : Segment) → Decidable s.Normal
  | .literal s => inferInstanceAs (Decidable (s ≠ ""))
  | .reference symbol steps =>
    inferInstanceAs (Decidable (isSymbolName symbol.toList = true ∧ ∀ st ∈ steps, st.InRange))
  | .call c => inferInstanceAs (Decidable c.Normal)
  | .action _ body => @instDecidableAnd _ _ _ (Template.decideNormal body)

def Template.decideNormal : (t : Template) → Decidable t.Normal
  | [] => isTrue trivial
  | s :: rest =>
    @instDecidableAnd _ _ s.decideNormal (@instDecidableAnd _ _ _ (Template.decideNormal rest))

end

instance : DecidablePred Template.Normal := Template.decideNormal

/-! ### Calls without fractions -/

namespace Template

/-- No call of the template has a number with a fraction, inside actions neither. -/
def FractionFree (t : Template) : Prop := ∀ c ∈ t.calls, ∀ a ∈ c.args, a.isFloat = false

instance : DecidablePred FractionFree := fun t =>
  inferInstanceAs (Decidable (∀ c ∈ t.calls, ∀ a ∈ c.args, a.isFloat = false))

theorem calls_cons (s : Segment) (rest : Template) :
    calls (s :: rest) = s.nodes.filterMap Segment.called? ++ calls rest := by
  unfold calls
  rw [nodes, List.filterMap_append]

theorem calls_call (c : Call) (rest : Template) : calls (.call c :: rest) = c :: calls rest := by
  rw [calls_cons]
  rfl

theorem calls_action (name : String) (body rest : Template) :
    calls (.action name body :: rest) = calls body ++ calls rest := by
  rw [calls_cons]
  rfl

theorem calls_pushChar (c : Char) (t : Template) : calls (pushChar c t) = calls t := by
  unfold pushChar
  split
  · rw [calls_cons, calls_cons]
    rfl
  · rw [calls_cons]
    rfl

theorem FractionFree.rest {s : Segment} {rest : Template} (h : FractionFree (s :: rest)) :
    FractionFree rest := by
  intro c hc
  exact h c (by rw [calls_cons]; exact List.mem_append_right _ hc)

theorem FractionFree.body {name : String} {body rest : Template}
    (h : FractionFree (.action name body :: rest)) : FractionFree body := by
  intro c hc
  exact h c (by rw [calls_action]; exact List.mem_append_left _ hc)

theorem fractionFree_pushChar {c : Char} {t : Template} :
    FractionFree (pushChar c t) ↔ FractionFree t := by
  unfold FractionFree
  rw [calls_pushChar]

/-! ### What reading gives -/

theorem normal_cons_of_not_literal {s : Segment} {rest : Template} (hs : s.Normal)
    (hl : s.isLiteral = false) (hr : Template.Normal rest) : Template.Normal (s :: rest) := by
  rw [Template.Normal]
  exact ⟨hs, by simp [hl], hr⟩

/-- A character in front of a normal template either goes into its first piece of literal text or
becomes one of its own. -/
theorem normal_pushChar (c : Char) {t : Template} (h : t.Normal) : (pushChar c t).Normal := by
  have hne : ∀ s : String, String.singleton c ++ s ≠ "" := by
    intro s he
    have := congrArg String.toList he
    simp at this
  unfold pushChar
  split
  · next s rest =>
    rw [Template.Normal, Segment.Normal] at h ⊢
    exact ⟨hne s, h.2⟩
  · next t hnot =>
    rw [Template.Normal, Segment.Normal]
    refine ⟨by simp, ?_, h⟩
    rintro ⟨-, hb⟩
    obtain ⟨s, rest, rfl⟩ := exists_literal_of_beginsLiteral hb
    exact hnot s rest rfl

end Template

theorem Step.inRange_of_read {word : List Char} {st : Step} (h : Step.read word = .ok st) :
    st.InRange := by
  unfold Step.read at h
  split at h
  · split at h
    · next n hn => cases h; exact lt_of_readNat? hn
    · cases h
  · split at h
    · cases h; trivial
    · cases h

theorem Segment.normal_of_readReference {content : List Char} {s : Segment}
    (h : readReference content = .ok s) : s.Normal ∧ s.isLiteral = false := by
  unfold readReference at h
  split at h
  · cases h
  · split at h
    · cases h
    · next name words hw =>
      split at h
      · next hname =>
        obtain ⟨steps, hsteps, rfl⟩ := map_eq_ok_iff.mp h
        refine ⟨⟨by rwa [String.toList_ofList], ?_⟩, rfl⟩
        intro st hst
        obtain ⟨w, -, hw⟩ := exists_of_mem_of_mapM hsteps hst
        exact Step.inRange_of_read hw
      · cases h

theorem Call.normal_of_scan {cs after : List Char} {c : Call}
    (h : scan cs = .ok (some (c, after))) (hf : ∀ a ∈ c.args, a.isFloat = false) : c.Normal := by
  obtain ⟨hspace, hfunction, -⟩ := scan_eq_some_iff.mp h
  exact ⟨hspace, hfunction, hf⟩

theorem isSymbolName_of_scanAction {cs : List Char} {a : RawAction}
    (h : scanAction cs = .ok (some a)) : isSymbolName a.name = true := by
  unfold scanAction at h
  simp only at h
  split at h
  · split at h
    · cases h
    · next hne =>
      split at h
      · cases h
        simp only [isSymbolName, Bool.not_eq_true] at hne ⊢
        rw [hne, List.all_eq_true.mpr fun c hc => List.all_eq_true.mp List.all_takeWhile c hc]
        rfl
      · cases h
  · cases h

/-- **A template that is read is normal**, when its calls have no numbers with a fraction. -/
theorem Template.normal_of_read {cs : List Char} {t : Template} (h : read cs = .ok t)
    (hf : t.FractionFree) : t.Normal := by
  -- only literal text can run together, and there `pushChar` makes one piece of it
  fun_induction Template.read cs generalizing t with
  | case1 => cases h; trivial
  | case2 c rest ih =>
    obtain ⟨u, hu, rfl⟩ := map_eq_ok_iff.mp h
    exact normal_pushChar c (ih hu (fractionFree_pushChar.mp hf))
  | case3 => cases h
  | case4 => cases h
  | case5 rest content after _ _ s hs _ ih =>
    obtain ⟨u, hu, rfl⟩ := map_eq_ok_iff.mp h
    obtain ⟨hn, hl⟩ := Segment.normal_of_readReference hs
    exact normal_cons_of_not_literal hn hl (ih hu hf.rest)
  | case6 => cases h
  | case7 rest call after hc _ _ _ _ ih =>
    obtain ⟨u, hu, rfl⟩ := map_eq_ok_iff.mp h
    have hcall : call.Normal := Call.normal_of_scan hc (hf call (by rw [calls_call]; simp))
    exact normal_cons_of_not_literal hcall rfl (ih hu hf.rest)
  | case8 _ _ _ _ ih =>
    obtain ⟨u, hu, rfl⟩ := map_eq_ok_iff.mp h
    exact normal_pushChar _ (ih hu (fractionFree_pushChar.mp hf))
  | case9 => cases h
  | case10 => cases h
  | case11 rest a ha _ body hb _ _ _ ihb ih =>
    obtain ⟨u, hu, rfl⟩ := map_eq_ok_iff.mp h
    refine normal_cons_of_not_literal ⟨?_, ihb hb hf.body⟩ rfl (ih hu hf.rest)
    rw [String.toList_ofList]
    exact isSymbolName_of_scanAction ha
  | case12 _ _ _ _ _ ih =>
    obtain ⟨u, hu, rfl⟩ := map_eq_ok_iff.mp h
    exact normal_pushChar _ (ih hu (fractionFree_pushChar.mp hf))
  | case13 c _ _ _ _ _ ih =>
    obtain ⟨u, hu, rfl⟩ := map_eq_ok_iff.mp h
    exact normal_pushChar c (ih hu (fractionFree_pushChar.mp hf))

end NoteMuse
