import NoteMuse.Proofs.Template.Normal

/-!
The texts that print a template. They differ in the closing marks of calls: each may be left out where
the text does not go on with the same mark.
-/

namespace NoteMuse

open Text Decimal

/-! ### Printing -/

def Step.print : Step → List Char
  | .part i => digits i
  | .apply m => m.name.toList

/-- What is printed of a reference between its marks. -/
def Segment.printReference (symbol : String) (steps : List Step) : List Char :=
  symbol.toList ++ (steps.map Step.print).flatMap ('.' :: ·)

/-- What is protected in literal text. -/
def Segment.marked : List Char := ['\\', '#', '$', '[', ']']

mutual

/-- The texts that print a segment which the character `next` follows. -/
def Segment.printings (next : Option Char) : Segment → List (List Char)
  | .literal s => [protect Segment.marked s.toList]
  | .reference symbol steps =>
    ['#' :: (Segment.printReference symbol steps ++ ['#'])]
  | .call c => if next = some '#' then [c.print ++ ['#']] else [c.print ++ ['#'], c.print]
  | .action name body =>
    (Template.printings (some ']') body).map fun b => '[' :: (name.toList ++ ':' :: (b ++ [']']))

/-- The texts that print a template which the character `next` follows. -/
def Template.printings (next : Option Char) : Template → List (List Char)
  | [] => [[]]
  | s :: rest =>
    (Template.printings next rest).flatMap fun b =>
      (Segment.printings (b.head?.or next) s).map (· ++ b)

end

/-- The texts that print a template. -/
def Template.print (t : Template) : List String := (t.printings none).map String.ofList

example : Template.print [.action "p" [.call ⟨"vault", "hub", []⟩], .call ⟨"a", "b", [.text "]"]⟩] =
    ["[p:$vault.hub()#]$a.b(\"\\]\")#", "[p:$vault.hub()]$a.b(\"\\]\")#",
      "[p:$vault.hub()#]$a.b(\"\\]\")", "[p:$vault.hub()]$a.b(\"\\]\")"] := by decide

theorem Template.mem_printings_cons {next : Option Char} {s : Segment} {rest : Template}
    {cs : List Char} :
    cs ∈ Template.printings next (s :: rest) ↔
      ∃ b ∈ Template.printings next rest, ∃ a ∈ s.printings (b.head?.or next), cs = a ++ b := by
  simp [Template.printings, eq_comm]

namespace Segment

variable {next : Option Char} {cs : List Char}

theorem mem_printings_literal {s : String} :
    cs ∈ printings next (.literal s) ↔ cs = protect marked s.toList := by
  simp [printings]

theorem mem_printings_reference {symbol : String} {steps : List Step} :
    cs ∈ printings next (.reference symbol steps) ↔
      cs = '#' :: (printReference symbol steps ++ ['#']) := by
  simp [printings]

theorem mem_printings_call {c : Call} :
    cs ∈ printings next (.call c) ↔
      cs = c.print ++ ['#'] ∨ next ≠ some '#' ∧ cs = c.print := by
  unfold printings
  split <;> simp_all

theorem mem_printings_action {name : String} {body : Template} :
    cs ∈ printings next (.action name body) ↔
      ∃ b ∈ Template.printings (some ']') body,
        cs = '[' :: (name.toList ++ ':' :: (b ++ [']'])) := by
  simp [printings, eq_comm]

end Segment

/-! ### Names and steps -/

theorem isSymbolName_iff {cs : List Char} :
    isSymbolName cs = true ↔ cs ≠ [] ∧ ∀ c ∈ cs, isSymbolChar c = true := by
  simp [isSymbolName]

theorem ne_of_mem_symbolName {cs : List Char} (h : isSymbolName cs = true) {c d : Char}
    (hc : c ∈ cs) (hd : isSymbolChar d = false) : c ≠ d := by
  rintro rfl
  rw [(isSymbolName_iff.mp h).2 c hc] at hd
  cases hd

theorem isAlphanumeric_of_isDigit {c : Char} (h : isDigit c = true) : isAlphanumeric c = true := by
  obtain ⟨hlo, hhi⟩ := toNat_of_isDigit h
  have hn : isNumeric c = true := by
    unfold isNumeric Ranges.has numericRanges
    rw [Ranges.covers, if_neg (by omega), decide_eq_true hhi, Bool.true_or]
  rw [isAlphanumeric, hn, Bool.or_true]

namespace Step

theorem isSymbolChar_of_mem_print {st : Step} {c : Char} (h : c ∈ st.print) :
    isSymbolChar c = true := by
  cases st with
  | part i =>
    rw [isSymbolChar, isAlphanumeric_of_isDigit (isDigit_of_mem_digits h)]
    rfl
  | apply m =>
    have hall : m.name.toList.all isSymbolChar = true := by cases m <;> decide
    exact List.all_eq_true.mp hall c h

theorem read_print {st : Step} (h : st.InRange) : read st.print = .ok st := by
  cases st with
  | part i =>
    unfold read
    simp only [print, List.isEmpty_eq_false_iff.mpr (digits_ne_nil i), all_isDigit_digits,
      Bool.not_false, Bool.and_self, if_true, readNat?_digits h]
  | apply m =>
    have hword : (!m.name.toList.isEmpty && m.name.toList.all isDigit) = false := by
      cases m <;> decide
    unfold read
    simp only [print, hword, Bool.false_eq_true, if_false, String.ofList_toList,
      Modifier.ofName?_name]

end Step

namespace Segment

theorem mem_printReference {symbol : String} {steps : List Step} {c : Char}
    (hs : isSymbolName symbol.toList = true) (h : c ∈ printReference symbol steps) :
    c = '.' ∨ isSymbolChar c = true := by
  rcases List.mem_append.mp h with h | h
  · exact .inr ((isSymbolName_iff.mp hs).2 c h)
  · obtain ⟨w, hw, hc⟩ := List.mem_flatMap.mp h
    obtain ⟨st, -, rfl⟩ := List.mem_map.mp hw
    exact (List.mem_cons.mp hc).imp_right Step.isSymbolChar_of_mem_print

theorem ne_of_mem_printReference {symbol : String} {steps : List Step} {c d : Char}
    (hs : isSymbolName symbol.toList = true) (h : c ∈ printReference symbol steps) (hdot : d ≠ '.')
    (hd : isSymbolChar d = false) : c ≠ d := by
  rintro rfl
  rcases mem_printReference hs h with h | h
  · exact hdot h
  · rw [hd] at h
    cases h

end Segment

end NoteMuse
