import NoteMuse.Proofs.Template.Print
import NoteMuse.Proofs.Template.Read

/-!
Balanced texts, which the search for the end of an action passes over at whatever depth, brackets and
backslashes included. Main statement: `balanced_of_mem_printings`, a printed template is balanced.
-/

namespace NoteMuse

open Text Decimal

/-! ### Balanced texts -/

/-- The search for the bracket that closes an action passes over the text, at whatever depth. -/
def Balanced (cs : List Char) : Prop :=
  ∀ depth rest,
    readBracketed depth (cs ++ rest) = (readBracketed depth rest).map fun p => (cs ++ p.1, p.2)

/-- A character that means nothing to the search: neither a backslash nor a bracket. -/
def isPlain (c : Char) : Bool := c ≠ '\\' && c ≠ '[' && c ≠ ']'

theorem isPlain_iff {c : Char} : isPlain c = true ↔ c ≠ '\\' ∧ c ≠ '[' ∧ c ≠ ']' := by
  simp [isPlain, and_assoc]

namespace Balanced

theorem nil : Balanced [] := by
  intro depth rest
  simp

theorem append {a b : List Char} (ha : Balanced a) (hb : Balanced b) : Balanced (a ++ b) := by
  intro depth rest
  rw [List.append_assoc, ha, hb, Option.map_map]
  simp only [Function.comp_def, List.append_assoc]

theorem cons {c : Char} (hc : isPlain c = true) {cs : List Char} (h : Balanced cs) :
    Balanced (c :: cs) := by
  obtain ⟨hback, hopen, hclose⟩ := isPlain_iff.mp hc
  intro depth rest
  rw [List.cons_append, readBracketed_char hback hopen hclose, h, Option.map_map]
  rfl

theorem singleton {c : Char} (hc : isPlain c = true) : Balanced [c] := cons hc nil

theorem of_forall {cs : List Char} (h : ∀ c ∈ cs, isPlain c = true) : Balanced cs := by
  induction cs with
  | nil => exact nil
  | cons c cs ih =>
    exact cons (h c (List.mem_cons_self ..)) (ih fun d hd => h d (List.mem_cons_of_mem _ hd))

theorem backslash (c : Char) {cs : List Char} (h : Balanced cs) : Balanced ('\\' :: c :: cs) := by
  intro depth rest
  rw [List.cons_append, List.cons_append, readBracketed_backslash, h, Option.map_map]
  rfl

theorem brackets {cs : List Char} (h : Balanced cs) : Balanced ('[' :: (cs ++ [']'])) := by
  intro depth rest
  rw [List.cons_append, readBracketed_open, List.append_assoc, h, List.singleton_append,
    readBracketed_close, Option.map_map, Option.map_map]
  simp only [Function.comp_def, List.append_assoc, List.cons_append, List.nil_append]

/-- The bracket after a balanced text is the one that closes. -/
theorem readBracketed_append {cs : List Char} (h : Balanced cs) (rest : List Char) :
    readBracketed 0 (cs ++ ']' :: rest) = some (cs, rest) := by
  rw [h, readBracketed_end, Option.map_some, List.append_nil]

/-- A text in which all characters are protected that mean something to the search. -/
theorem protect {marked : List Char} (hm : ∀ c, c ∉ marked → isPlain c = true) (cs : List Char) :
    Balanced (Text.protect marked cs) := by
  induction cs with
  | nil => exact nil
  | cons c cs ih =>
    by_cases h : c ∈ marked
    · rw [protect_cons_mem h]
      exact ih.backslash c
    · rw [protect_cons_not_mem h]
      exact cons (hm c h) ih

end Balanced

/-! ### Names, references and calls -/

theorem isPlain_of_isSymbolChar {c : Char} (h : isSymbolChar c = true) : isPlain c = true := by
  have hne : ∀ d, isSymbolChar d = false → c ≠ d := by
    rintro d hd rfl
    rw [h] at hd
    cases hd
  exact isPlain_iff.mpr ⟨hne _ rfl, hne _ rfl, hne _ rfl⟩

theorem Balanced.of_isSymbolName {cs : List Char} (h : isSymbolName cs = true) : Balanced cs :=
  of_forall fun c hc => isPlain_of_isSymbolChar ((isSymbolName_iff.mp h).2 c hc)

theorem Segment.balanced_reference {symbol : String} {steps : List Step}
    (h : isSymbolName symbol.toList = true) :
    Balanced ('#' :: (printReference symbol steps ++ ['#'])) := by
  have hinner : Balanced (printReference symbol steps) := by
    refine .of_forall fun c hc => ?_
    rcases mem_printReference h hc with rfl | hc
    · rfl
    · exact isPlain_of_isSymbolChar hc
  exact .cons rfl (hinner.append (.singleton rfl))

theorem Arg.balanced_print {a : Arg} (h : a.isFloat = false) : Balanced a.print := by
  cases a with
  | text s =>
    have hmarked : ∀ c, c ∉ marked → isPlain c = true := by
      intro c hc
      simp only [marked, List.mem_cons, List.not_mem_nil, or_false, not_or] at hc
      exact isPlain_iff.mpr ⟨hc.1, hc.2.2⟩
    exact .cons rfl ((Balanced.protect hmarked s.toList).append (.singleton rfl))
  | int n =>
    refine .of_forall fun c hc => ?_
    rcases mem_intText hc with rfl | hd
    · rfl
    · refine isPlain_of_isSymbolChar ?_
      rw [isSymbolChar, isAlphanumeric_of_isDigit hd]
      rfl
  | float x => cases h

namespace Call

theorem balanced_printArgs {as : List Arg} (h : ∀ a ∈ as, a.isFloat = false) :
    Balanced (printArgs as) := by
  induction as with
  | nil => exact .nil
  | cons a as ih =>
    have ha : Balanced a.print := Arg.balanced_print (h a (List.mem_cons_self ..))
    have has := ih fun x hx => h x (List.mem_cons_of_mem _ hx)
    cases as with
    | nil => rwa [printArgs_singleton]
    | cons b as =>
      rw [printArgs_cons_cons]
      exact ha.append (.cons rfl (.cons rfl has))

theorem balanced_identifier {s : String} (h : isIdentifier s = true) : Balanced s.toList := by
  refine .of_forall fun c hc => isPlain_of_isSymbolChar ?_
  have hident : isIdentChar c = true := (isIdentifier_iff.mp h).2 c hc
  unfold isSymbolChar
  rw [← isIdentChar, hident]
  rfl

theorem balanced_print {c : Call} (h : c.Normal) : Balanced c.print := by
  have hargs : Balanced (printArgs c.args ++ [')']) := (balanced_printArgs h.args).append (.singleton rfl)
  have hfunction : Balanced (c.function.toList ++ '(' :: (printArgs c.args ++ [')'])) :=
    (balanced_identifier h.function).append (.cons rfl hargs)
  exact .cons rfl ((balanced_identifier h.space).append (.cons rfl hfunction))

end Call

/-! ### Templates -/

namespace Template

/-- **A printed template is balanced.** -/
theorem balanced_of_mem_printings {t : Template} (h : t.Normal) {next : Option Char}
    {cs : List Char} (hcs : cs ∈ t.printings next) : Balanced cs := by
  induction t using Template.induction generalizing next cs with
  | nil =>
    obtain rfl : cs = [] := by simpa [printings] using hcs
    exact .nil
  | literal s rest ih =>
    obtain ⟨b, hb, a, ha, rfl⟩ := mem_printings_cons.mp hcs
    obtain rfl := Segment.mem_printings_literal.mp ha
    have hmarked : ∀ c, c ∉ Segment.marked → isPlain c = true := by
      intro c hc
      simp only [Segment.marked, List.mem_cons, List.not_mem_nil, or_false, not_or] at hc
      exact isPlain_iff.mpr ⟨hc.1, hc.2.2.2⟩
    exact (Balanced.protect hmarked s.toList).append (ih h.2.2 hb)
  | reference symbol steps rest ih =>
    obtain ⟨b, hb, a, ha, rfl⟩ := mem_printings_cons.mp hcs
    obtain rfl := Segment.mem_printings_reference.mp ha
    exact (Segment.balanced_reference h.1.1).append (ih h.2.2 hb)
  | call c rest ih =>
    obtain ⟨b, hb, a, ha, rfl⟩ := mem_printings_cons.mp hcs
    have hc : Balanced c.print := Call.balanced_print h.1
    rcases Segment.mem_printings_call.mp ha with rfl | ⟨-, rfl⟩
    · exact (hc.append (.singleton rfl)).append (ih h.2.2 hb)
    · exact hc.append (ih h.2.2 hb)
  | action name body rest ihb ih =>
    obtain ⟨b, hb, a, ha, rfl⟩ := mem_printings_cons.mp hcs
    obtain ⟨d, hd, rfl⟩ := Segment.mem_printings_action.mp ha
    have hbody : Balanced d := ihb h.1.2 hd
    have hname : Balanced name.toList := .of_isSymbolName h.1.1
    -- the brackets of the action go around its name, the colon and its body
    have houter := (hname.append (.cons rfl hbody) : Balanced (name.toList ++ ':' :: d)).brackets
    simp only [List.append_assoc, List.cons_append] at houter
    exact houter.append (ih h.2.2 hb)

end Template

end NoteMuse
