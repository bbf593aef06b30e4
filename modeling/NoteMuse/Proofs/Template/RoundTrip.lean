import NoteMuse.Proofs.Template.Balanced
import NoteMuse.Proofs.Text.Split

/-!
Reading a printed template gives the template back. The three readers involved, for templates, for the
text of an action and for the arguments of a call, each take a backslash in their own way; a printed
text is such that they agree on it. Main statement: `parse_print_inverse`.
-/

namespace NoteMuse

open Text Decimal

/-! ### References -/

namespace Segment

theorem readReference_print {symbol : String} {steps : List Step}
    (hs : isSymbolName symbol.toList = true) (hst : ∀ st ∈ steps, st.InRange) :
    readReference (printReference symbol steps) = .ok (.reference symbol steps) := by
  have hne : printReference symbol steps ≠ [] := by
    simp [printReference, (isSymbolName_iff.mp hs).1]
  have hdot : '.' ∉ symbol.toList := fun h => ne_of_mem_symbolName hs h rfl rfl
  have hwords : ∀ w ∈ steps.map Step.print, '.' ∉ w := by
    intro w hw hd
    obtain ⟨st, -, rfl⟩ := List.mem_map.mp hw
    cases Step.isSymbolChar_of_mem_print hd
  have hsteps : (steps.map Step.print).mapM Step.read = .ok steps := by
    rw [mapM_eq_ok_iff, List.forall₂_map_left_iff, List.forall₂_same]
    exact fun st h => Step.read_print (hst st h)
  unfold readReference
  rw [if_neg (by simpa using hne), printReference, splitOn_append_flatMap hdot hwords]
  simp only [hs, if_true, hsteps, String.ofList_toList]
  rfl

end Segment

/-! ### Actions -/

/-- After a name and a colon an action goes on to the bracket that closes it. -/
theorem scanAction_append {name : List Char} (hn : isSymbolName name = true) (rest : List Char) :
    scanAction (name ++ ':' :: rest) =
      match readBracketed 0 rest with
      | some (body, after) => .ok (some ⟨name, body, after⟩)
      | none => .error (.unclosed '[') := by
  obtain ⟨hne, hall⟩ := isSymbolName_iff.mp hn
  have hname := takeWhile_dropWhile_append (d := ':') hall rfl rest
  unfold scanAction
  cases hread : readBracketed 0 rest <;>
    simp only [hname, List.isEmpty_eq_false_iff.mpr hne, Bool.false_eq_true, if_false, hread]

/-- The text of a printed action is told apart from its name and from what follows the action. -/
theorem scanAction_print {name b : List Char} (hn : isSymbolName name = true) (hb : Balanced b)
    (rest : List Char) :
    scanAction (name ++ ':' :: (b ++ ']' :: rest)) = .ok (some ⟨name, b, rest⟩) := by
  rw [scanAction_append hn, hb.readBracketed_append]

/-! ### Literal text -/

namespace Template

/-- A protected text is read character by character as literal text. -/
theorem read_protect (cs rest : List Char) :
    read (protect Segment.marked cs ++ rest) = (read rest).map fun t => cs.foldr pushChar t := by
  induction cs with
  | nil => cases h : read rest <;> simp [protect, h, Except.map]
  | cons c cs ih =>
    have hpush : ((read rest).map fun t => cs.foldr pushChar t).map (pushChar c) =
        (read rest).map fun t => (c :: cs).foldr pushChar t := by
      cases read rest <;> rfl
    by_cases hc : c ∈ Segment.marked
    · rw [protect_cons_mem hc, List.cons_append, List.cons_append, read_backslash, ih, hpush]
    · have hne := hc
      simp only [Segment.marked, List.mem_cons, List.not_mem_nil, or_false, not_or] at hne
      obtain ⟨hback, hhash, hdollar, hopen, -⟩ := hne
      rw [protect_cons_not_mem hc, List.cons_append, read_char hback hhash hdollar hopen, ih, hpush]

/-- Characters in front of a template that does not begin with literal text become one piece. -/
theorem foldr_pushChar {t : Template} (ht : ¬t.beginsLiteral = true) {cs : List Char} (h : cs ≠ []) :
    cs.foldr pushChar t = .literal (String.ofList cs) :: t := by
  induction cs with
  | nil => exact absurd rfl h
  | cons c cs ih =>
    rw [List.foldr_cons]
    cases cs with
    | nil =>
      rw [List.foldr_nil]
      unfold pushChar
      split
      · exact absurd rfl ht
      · rfl
    | cons d cs =>
      rw [ih (List.cons_ne_nil _ _), pushChar, String.ofList_cons (c := c)]

/-! ### The round trip -/

/-- A call may go without its closing mark where none follows. -/
theorem dropHash_eq_self {cs : List Char} (h : cs.head? ≠ some '#') : dropHash cs = cs := by
  unfold dropHash
  split
  · exact absurd rfl h
  · rfl

theorem read_of_mem_printings {t : Template} (h : t.Normal) {next : Option Char} {cs : List Char}
    (hcs : cs ∈ t.printings next) : read cs = .ok t := by
  induction t using Template.induction generalizing next cs with
  | nil =>
    obtain rfl : cs = [] := by simpa [printings] using hcs
    exact read_nil
  | literal s rest ih =>
    obtain ⟨b, hb, a, ha, rfl⟩ := mem_printings_cons.mp hcs
    obtain rfl := Segment.mem_printings_literal.mp ha
    obtain ⟨hs, hnot, hrest⟩ := h
    have hne : s.toList ≠ [] := by simpa [Segment.Normal] using hs
    have hbegins : ¬rest.beginsLiteral = true := fun hb => hnot ⟨rfl, hb⟩
    -- the pieces of literal text do not run together, since a normal template has no two of them in a row
    rw [read_protect, ih hrest hb, Except.map, foldr_pushChar hbegins hne, String.ofList_toList]
  | reference symbol steps rest ih =>
    obtain ⟨b, hb, a, ha, rfl⟩ := mem_printings_cons.mp hcs
    obtain rfl := Segment.mem_printings_reference.mp ha
    obtain ⟨⟨hname, hsteps⟩, -, hrest⟩ := h
    have hmark : '#' ∉ Segment.printReference symbol steps := fun hm =>
      Segment.ne_of_mem_printReference hname hm (by decide) rfl rfl
    rw [List.cons_append, List.append_assoc, List.singleton_append,
      read_reference (cutAt_append hmark b) (Segment.readReference_print hname hsteps),
      ih hrest hb]
    rfl
  | call c rest ih =>
    obtain ⟨b, hb, a, ha, rfl⟩ := mem_printings_cons.mp hcs
    obtain ⟨hcall, -, hrest⟩ := h
    rcases Segment.mem_printings_call.mp ha with rfl | ⟨hnext, rfl⟩
    -- the call has its closing mark, or it is left out where no mark can follow
    · rw [List.append_assoc, Call.print, List.cons_append, read_call (Call.scan_printBody hcall _),
        List.singleton_append, dropHash, ih hrest hb]
      rfl
    · have hhead : b.head? ≠ some '#' := by
        intro hh
        rw [hh, Option.some_or] at hnext
        exact hnext rfl
      rw [Call.print, List.cons_append, read_call (Call.scan_printBody hcall _),
        dropHash_eq_self hhead, ih hrest hb]
      rfl
  | action name body rest ihb ih =>
    obtain ⟨b, hb, a, ha, rfl⟩ := mem_printings_cons.mp hcs
    obtain ⟨d, hd, rfl⟩ := Segment.mem_printings_action.mp ha
    obtain ⟨⟨hname, hbody⟩, -, hrest⟩ := h
    have hscan := scanAction_print hname (balanced_of_mem_printings hbody hd) b
    simp only [List.cons_append, List.append_assoc, List.nil_append]
    rw [read_action hscan (ihb hbody hd), ih hrest hb, String.ofList_toList]
    rfl

theorem exists_mem_printings (t : Template) (next : Option Char) : ∃ cs, cs ∈ t.printings next := by
  induction t using Template.induction generalizing next with
  | nil => exact ⟨[], by simp [printings]⟩
  | literal s rest ih =>
    obtain ⟨b, hb⟩ := ih next
    exact ⟨_, mem_printings_cons.mpr ⟨b, hb, _, Segment.mem_printings_literal.mpr rfl, rfl⟩⟩
  | reference symbol steps rest ih =>
    obtain ⟨b, hb⟩ := ih next
    exact ⟨_, mem_printings_cons.mpr ⟨b, hb, _, Segment.mem_printings_reference.mpr rfl, rfl⟩⟩
  | call c rest ih =>
    obtain ⟨b, hb⟩ := ih next
    exact ⟨_, mem_printings_cons.mpr ⟨b, hb, _, Segment.mem_printings_call.mpr (.inl rfl), rfl⟩⟩
  | action name body rest ihb ih =>
    obtain ⟨b, hb⟩ := ih next
    obtain ⟨d, hd⟩ := ihb (some ']')
    exact ⟨_, mem_printings_cons.mpr
      ⟨b, hb, _, Segment.mem_printings_action.mpr ⟨d, hd, rfl⟩, rfl⟩⟩

theorem mem_print {t : Template} {s : String} : s ∈ t.print ↔ s.toList ∈ t.printings none := by
  unfold print
  rw [List.mem_map]
  constructor
  · rintro ⟨cs, hcs, rfl⟩
    rwa [String.toList_ofList]
  · intro h
    exact ⟨s.toList, h, String.ofList_toList⟩

/-- **Reading and printing are inverse on normal templates.** A template that is read has normal form,
unless it holds a number with a fraction; a template in normal form has a printed text, and is read from
each of them, whichever of the closing marks are left out. -/
theorem parse_print_inverse :
    (∀ s t, parse s = .ok t → t.FractionFree → t.Normal) ∧
      ∀ t : Template, t.Normal → (∃ s, s ∈ t.print) ∧ ∀ s ∈ t.print, parse s = .ok t := by
  refine ⟨fun s t h hf => normal_of_read h hf, fun t h => ⟨?_, fun s hs => ?_⟩⟩
  · obtain ⟨cs, hcs⟩ := exists_mem_printings t none
    exact ⟨String.ofList cs, mem_print.mpr (by rwa [String.toList_ofList])⟩
  · exact read_of_mem_printings h (mem_print.mp hs)

/-- A call whose closing mark is left out in an action, with brackets in its argument. -/
theorem parse_print_inverse_nested :
    parse "[p:$vault.pick(\"\\]\", -3)\\]]#p.0#" =
        .ok [.action "p" [.call ⟨"vault", "pick", [.text "]", .int (-3)]⟩, .literal "]"],
          .reference "p" [.part 0]] ∧
      Template.Normal [.action "p" [.call ⟨"vault", "pick", [.text "]", .int (-3)]⟩, .literal "]"],
          .reference "p" [.part 0]] := by
  have hn : Template.Normal [.action "p" [.call ⟨"vault", "pick", [.text "]", .int (-3)]⟩,
      .literal "]"], .reference "p" [.part 0]] := by decide
  have hp := (parse_print_inverse.2 _ hn).2 "[p:$vault.pick(\"\\]\", -3)\\]]#p.0#" (by decide)
  exact ⟨hp, parse_print_inverse.1 _ _ hp (by decide)⟩

theorem fractionFree_of_normal {t : Template} (h : t.Normal) : t.FractionFree := by
  induction t using Template.induction with
  | nil => exact fun c hc => absurd hc List.not_mem_nil
  | literal s rest ih | reference symbol steps rest ih =>
    intro c hc
    rw [calls_cons] at hc
    exact ih h.2.2 c hc
  | call c rest ih =>
    intro d hd
    rw [calls_call] at hd
    rcases List.mem_cons.mp hd with rfl | hd
    · exact h.1.args
    · exact ih h.2.2 d hd
  | action name body rest ihb ih =>
    intro c hc
    rw [calls_action] at hc
    rcases List.mem_append.mp hc with hc | hc
    · exact ihb h.1.2 c hc
    · exact ih h.2.2 c hc

/-- The normal templates are those that are read from some text without a number with a fraction. -/
theorem normal_iff {t : Template} : t.Normal ↔ t.FractionFree ∧ ∃ s, parse s = .ok t := by
  constructor
  · intro h
    obtain ⟨cs, hcs⟩ := exists_mem_printings t none
    refine ⟨fractionFree_of_normal h, String.ofList cs, ?_⟩
    rw [parse, String.toList_ofList]
    exact read_of_mem_printings h hcs
  · rintro ⟨hf, s, hs⟩
    exact normal_of_read hs hf

end Template

end NoteMuse
