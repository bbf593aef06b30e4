import NoteMuse.Proofs.Call.Grammar

/-!
Printing calls. A text argument stands between double quotes, a whole number in decimal, and the
arguments have a comma and a blank between them. Main statement: `scan_printBody`, a printed call is read
back and nothing of the text behind it is touched.
-/

namespace NoteMuse

open Text Decimal

/-! ### Protected texts -/

/-- The text with a backslash before each of the characters of `marked`. -/
def Text.protect (marked cs : List Char) : List Char :=
  cs.flatMap fun c => if c ∈ marked then ['\\', c] else [c]

theorem Text.protect_cons_mem {marked : List Char} {c : Char} (h : c ∈ marked) (cs : List Char) :
    protect marked (c :: cs) = '\\' :: c :: protect marked cs := by
  simp [protect, h]

theorem Text.protect_cons_not_mem {marked : List Char} {c : Char} (h : c ∉ marked)
    (cs : List Char) : protect marked (c :: cs) = c :: protect marked cs := by
  simp [protect, h]

theorem Text.protect_eq_self {marked cs : List Char} (h : ∀ c ∈ cs, c ∉ marked) :
    protect marked cs = cs := by
  induction cs with
  | nil => rfl
  | cons c cs ih =>
    obtain ⟨hc, hcs⟩ := List.forall_mem_cons.mp h
    rw [protect_cons_not_mem hc, ih hcs]

/-! ### Arguments -/

namespace Arg

/-- What is protected in a text argument: besides the quote and the backslash the two brackets, which
would count as the brackets of an action around the call. -/
def marked : List Char := ['\\', '"', '[', ']']

def print : Arg → List Char
  | text s => '"' :: protect marked s.toList ++ ['"']
  | int n => (intText n.toInt).toList
  | float x => x.text.toList

/-- The argument is a number with a fraction. -/
def isFloat : Arg → Bool
  | float _ => true
  | _ => false

theorem body_protect (cs : List Char) : Body '"' (protect marked cs) cs := by
  induction cs with
  | nil => exact .nil
  | cons c cs ih =>
    by_cases hc : c ∈ marked
    · rw [protect_cons_mem hc]
      exact .hidden c ih
    · have hne := hc
      simp only [marked, List.mem_cons, List.not_mem_nil, or_false, not_or] at hne
      obtain ⟨hback, hquote, -, -⟩ := hne
      rw [protect_cons_not_mem hc]
      exact .plain hback hquote ih

theorem mem_intText {n : Int} {c : Char} (h : c ∈ (intText n).toList) :
    c = '-' ∨ isDigit c = true := by
  unfold intText at h
  split at h
  · rw [String.toList_ofList, List.mem_cons] at h
    exact h.imp_right isDigit_of_mem_digits
  · rw [String.toList_ofList] at h
    exact .inr (isDigit_of_mem_digits h)

theorem intText_ne_nil (n : Int) : (intText n).toList ≠ [] := by
  unfold intText
  split <;> simp [digits_ne_nil]

def isNumberChar (c : Char) : Bool := c = '-' || isDigit c

theorem isNumberChar_of_mem_intText {n : Int} {c : Char} (h : c ∈ (intText n).toList) :
    isNumberChar c = true := by
  unfold isNumberChar
  rw [Bool.or_eq_true, decide_eq_true_eq]
  exact mem_intText h

theorem ne_of_mem_intText {n : Int} {c d : Char} (h : c ∈ (intText n).toList)
    (hd : isNumberChar d = false) : c ≠ d := by
  rintro rfl
  rw [isNumberChar_of_mem_intText h] at hd
  cases hd

theorem isBlank_of_mem_intText {n : Int} {c : Char} (h : c ∈ (intText n).toList) :
    isBlank c = false := by
  rcases mem_intText h with rfl | h
  · rfl
  · exact isBlank_of_isDigit h

theorem spells_intText (n : Int64) : Spells (intText n.toInt).toList (int n) := by
  have htrim : trim (intText n.toInt).toList = (intText n.toInt).toList :=
    trim_eq_self fun c hc => isBlank_of_mem_intText hc
  have htoken : ofToken (trim (intText n.toInt).toList) = int n := by
    unfold ofToken
    rw [htrim, readInt64?_intText]
  rw [← htoken]
  refine .bare ?_ ?_ ?_ ?_
  · intro c hc
    have hmem := List.mem_of_head? hc
    exact ⟨ne_of_mem_intText hmem rfl, ne_of_mem_intText hmem rfl⟩
  · exact fun c hc => ⟨ne_of_mem_intText hc rfl, ne_of_mem_intText hc rfl⟩
  · rw [htrim]
    exact intText_ne_nil _
  · rw [htrim]
    intro c hc hmem
    have hnumber : isNumberChar c = true := isNumberChar_of_mem_intText hc
    simp only [List.mem_cons, List.not_mem_nil, or_false] at hmem
    rcases hmem with rfl | rfl | rfl | rfl <;> cases hnumber

/-- The text is an argument that does not begin with white space. -/
structure Tight (cs : List Char) (a : Arg) : Prop where
  start : ∀ c ∈ cs.head?, isBlank c = false
  spells : Spells cs a

theorem tight_intText (n : Int64) : Tight (intText n.toInt).toList (int n) :=
  ⟨fun _ hc => isBlank_of_mem_intText (List.mem_of_head? hc), spells_intText n⟩

theorem Body.tight {cs value : List Char} (h : Body '"' cs value) :
    Tight ('"' :: (cs ++ ['"'])) (text (String.ofList value)) := by
  refine ⟨?_, .quoted (.inl rfl) h⟩
  rintro c ⟨⟩
  decide

theorem tight_print {a : Arg} (ha : a.isFloat = false) : Tight a.print a := by
  cases a with
  | text s =>
    have h := (body_protect s.toList).tight
    rwa [String.ofList_toList] at h
  | int n => exact tight_intText n
  | float x => cases ha

theorem Tight.item {before cs : List Char} {a : Arg} (h : Tight cs a)
    (hbefore : ∀ c ∈ before, isBlank c = true) : Item (before ++ cs) a := by
  have hitem : Item (before ++ cs ++ []) a :=
    .mk hbefore h.start h.spells fun _ hc => absurd hc List.not_mem_nil
  rwa [List.append_nil] at hitem

end Arg

/-! ### Lists of arguments -/

namespace Call

theorem items_intercalate {texts : List (List Char)} {as : List Arg} (h : List.Forall₂ Arg.Tight texts as)
    (hne : texts ≠ []) {before : List Char} (hbefore : ∀ c ∈ before, isBlank c = true) :
    Arg.Items (before ++ [',', ' '].intercalate texts) as := by
  induction h generalizing before with
  | nil => exact absurd rfl hne
  | @cons cs a texts as hcs hrest ih =>
    cases hrest with
    | nil =>
      have hone : [',', ' '].intercalate [cs] = cs := by simp [List.intercalate]
      rw [hone]
      exact .one (hcs.item hbefore)
    | @cons ds b texts as hds hrest =>
      have hcons : [',', ' '].intercalate (cs :: ds :: texts) =
          cs ++ ',' :: ([' '] ++ [',', ' '].intercalate (ds :: texts)) := by
        simp [List.intercalate]
      rw [hcons, ← List.append_assoc]
      exact .cons (hcs.item hbefore) (ih (List.cons_ne_nil _ _) (List.forall_mem_singleton.mpr rfl))

theorem listed_intercalate {texts : List (List Char)} {as : List Arg} (h : List.Forall₂ Arg.Tight texts as) :
    Arg.Listed ([',', ' '].intercalate texts) as := by
  have hnone : ∀ c ∈ ([] : List Char), isBlank c = true := fun _ hc => absurd hc List.not_mem_nil
  cases h with
  | nil => exact .none hnone
  | cons ha has => exact .some (items_intercalate (.cons ha has) (List.cons_ne_nil _ _) hnone)

def printArgs (as : List Arg) : List Char := [',', ' '].intercalate (as.map Arg.print)

@[simp] theorem printArgs_singleton (a : Arg) : printArgs [a] = a.print := by simp [printArgs]

@[simp] theorem printArgs_cons_cons (a b : Arg) (as : List Arg) :
    printArgs (a :: b :: as) = a.print ++ ',' :: ' ' :: printArgs (b :: as) := by
  simp [printArgs, List.intercalate]

theorem listed_printArgs {as : List Arg} (h : ∀ a ∈ as, a.isFloat = false) :
    Arg.Listed (printArgs as) as := by
  refine listed_intercalate ?_
  rw [List.forall₂_map_left_iff, List.forall₂_same]
  exact fun a ha => Arg.tight_print (h a ha)

/-! ### Calls -/

/-- A call with a name of two parts and no numbers with a fraction. -/
structure Normal (c : Call) : Prop where
  space : isIdentifier c.space = true
  function : isIdentifier c.function = true
  args : ∀ a ∈ c.args, a.isFloat = false

def printBody (c : Call) : List Char :=
  c.space.toList ++ '.' :: (c.function.toList ++ '(' :: (printArgs c.args ++ [')']))

def print (c : Call) : List Char := '$' :: c.printBody

/-- **A printed call is read back**, and what follows it is left. -/
theorem scan_printBody {c : Call} (h : c.Normal) (rest : List Char) :
    scan (c.printBody ++ rest) = .ok (some (c, rest)) := by
  refine scan_eq_some_iff.mpr ⟨h.space, h.function, printArgs c.args ++ ')' :: rest, ?_, ?_⟩
  · simp [printBody]
  · exact readArgs_eq_ok_iff.mpr ⟨printArgs c.args, rfl, listed_printArgs h.args⟩

end Call

end NoteMuse
