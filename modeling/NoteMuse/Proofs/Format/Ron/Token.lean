import Mathlib.Data.Nat.Digits.Defs
import NoteMuse.Format.Ron.Printer
import NoteMuse.Format.Ron.Token
import NoteMuse.Proofs.Decimal

/-!
The small parts of a text in RON that was printed read back: quoted texts with any characters, numbers and
names, each whatever follows it, as long as this is a comma or a closing parenthesis. Main statements:
`readText?_quote`, `readInteger?_digits`.
-/

namespace NoteMuse.Format.Ron

open Text Decimal

variable {cs rest : List Char} {c : Char}

/-! ### Gaps -/

/-- The character is no gap and begins none. -/
def Solid (c : Char) : Prop := isGap c = false ∧ c ≠ '/'

instance : DecidablePred Solid := fun c => inferInstanceAs (Decidable (isGap c = false ∧ c ≠ '/'))

theorem skipGap_nil : skipGap [] = .ok [] := by
  rw [skipGap]
  rfl

lemma skipGap_of_dropWhile (h : cs.dropWhile isGap = c :: rest) (hc : c ≠ '/') :
    skipGap cs = .ok (c :: rest) := by
  rw [skipGap]
  split <;> next hs => rw [h] at hs; grind

theorem skipGap_cons (hc : Solid c) (rest : List Char) : skipGap (c :: rest) = .ok (c :: rest) :=
  skipGap_of_dropWhile (List.dropWhile_cons_of_neg (by simp [hc.1])) hc.2

theorem skipGap_append {gap : List Char} (hgap : ∀ d ∈ gap, isGap d = true) (hc : Solid c)
    (rest : List Char) : skipGap (gap ++ c :: rest) = .ok (c :: rest) := by
  refine skipGap_of_dropWhile ?_ hc.2
  rw [List.dropWhile_append_of_pos hgap, List.dropWhile_cons_of_neg (by simp [hc.1])]

theorem skipChar?_self (c : Char) (rest : List Char) :
    skipChar? c (c :: rest) = (skipGap rest).map some := if_pos rfl

theorem isGap_of_mem_indent {level : Nat} (h : c ∈ (indent level).toList) : isGap c = true := by
  rw [indent, String.toList_ofList, List.mem_replicate] at h
  rw [h.2]
  decide

/-! ### What follows a value -/

/-- A comma or a closing parenthesis is what comes next. -/
def Stops (rest : List Char) : Prop := ∃ c tail, rest = c :: tail ∧ (c = ',' ∨ c = ')')

theorem stops_comma (tail : List Char) : Stops (',' :: tail) := ⟨',', tail, rfl, .inl rfl⟩

theorem stops_closing (tail : List Char) : Stops (')' :: tail) := ⟨')', tail, rfl, .inr rfl⟩

theorem Stops.takeWhile {p : Char → Bool} (h : Stops rest) (hp : p ',' = false ∧ p ')' = false) :
    rest.takeWhile p = [] := by
  obtain ⟨c, tail, rfl, rfl | rfl⟩ := h
  · exact List.takeWhile_cons_of_neg (by simp [hp.1])
  · exact List.takeWhile_cons_of_neg (by simp [hp.2])

theorem Stops.dropWhile {p : Char → Bool} (h : Stops rest) (hp : p ',' = false ∧ p ')' = false) :
    rest.dropWhile p = rest := by
  obtain ⟨c, tail, rfl, rfl | rfl⟩ := h
  · exact List.dropWhile_cons_of_neg (by simp [hp.1])
  · exact List.dropWhile_cons_of_neg (by simp [hp.2])

/-! ### Digits -/

lemma foldlM_toDigits {b : Nat} (hb : 1 < b) {f : Nat → Char → Option Nat}
    (hf : ∀ n d, d < b → f n d.digitChar = some (b * n + d)) (n : Nat) :
    (Nat.toDigits b n).foldlM f 0 = some n := by
  induction n using Nat.strongRecOn with
  | ind n ih =>
    by_cases hn : n < b
    · rw [Nat.toDigits_of_lt_base hn, List.foldlM_cons, hf 0 n hn, Nat.mul_zero, Nat.zero_add]
      rfl
    · have hle : b ≤ n := Nat.le_of_not_lt hn
      have hdiv : n / b < n := Nat.div_lt_self (by omega) hb
      rw [Nat.toDigits_of_base_le hb hle, List.foldlM_append, ih (n / b) hdiv]
      show ([(n % b).digitChar].foldlM f (n / b)) = some n
      rw [List.foldlM_cons, hf _ _ (Nat.mod_lt n (by omega)), Nat.div_add_mod]
      rfl

lemma digitChar_ne : ∀ d, d < 16 → d.digitChar ≠ '\x7d' := by decide

lemma hexValue?_digitChar : ∀ d, d < 16 → hexValue? d.digitChar = some d := by decide

lemma hexNumber?_toDigits (n : Nat) : hexNumber? (Nat.toDigits 16 n) = some n := by
  refine foldlM_toDigits (by decide) ?_ n
  intro n d hd
  rw [hexValue?_digitChar d hd]
  rfl

/-! ### Quoted texts -/

lemma charOf?_toNat (c : Char) : charOf? c.toNat = some c := by
  have hvalid : c.toNat.isValidChar := c.valid
  unfold charOf?
  rw [dif_pos hvalid]
  rfl

lemma readEscape?_code (c : Char) (rest : List Char) :
    readEscape? ('u' :: '\x7b' :: (Nat.toDigits 16 c.toNat ++ '\x7d' :: rest)) = some (c, rest) := by
  have hall : ∀ d ∈ Nat.toDigits 16 c.toNat, decide (d ≠ '\x7d') = true := by
    intro d hd
    obtain ⟨k, hk, rfl⟩ := exists_of_mem_toDigits (by decide) hd
    exact decide_eq_true (digitChar_ne k hk)
  have htake : (Nat.toDigits 16 c.toNat ++ '\x7d' :: rest).takeWhile (· ≠ '\x7d') =
      Nat.toDigits 16 c.toNat := by
    rw [List.takeWhile_append_of_pos hall, List.takeWhile_cons_of_neg (by decide), List.append_nil]
  have hdrop : (Nat.toDigits 16 c.toNat ++ '\x7d' :: rest).dropWhile (· ≠ '\x7d') = '\x7d' :: rest := by
    rw [List.dropWhile_append_of_pos hall, List.dropWhile_cons_of_neg (by decide)]
  have hpos : 1 ≤ (Nat.toDigits 16 c.toNat).length := Nat.length_toDigits_pos
  have hlen : (Nat.toDigits 16 c.toNat).length ≤ 6 := by
    refine (Nat.length_toDigits_le_iff (by decide) (by decide)).mpr ?_
    have hvalid : c.toNat.isValidChar := c.valid
    unfold Nat.isValidChar at hvalid
    omega
  unfold readEscape?
  simp only [htake, hdrop, hpos, hlen, decide_true, Bool.and_true, if_true, hexNumber?_toDigits,
    Option.bind_some, charOf?_toNat, Option.map_some]

lemma readQuoted?_escape (h : readEscape? cs = some (c, rest)) (hlen : rest.length < cs.length) :
    readQuoted? ('\\' :: cs) = (readQuoted? rest).map fun p => (c :: p.1, p.2) := by
  rw [readQuoted?]
  simp only [h, hlen, if_true]

lemma readQuoted?_plain (hq : c ≠ '"') (hb : c ≠ '\\') (cs : List Char) :
    readQuoted? (c :: cs) = (readQuoted? cs).map fun p => (c :: p.1, p.2) := by
  rw [readQuoted?]
  · exact fun h => hq h
  · exact fun h => hb h

/-- However a character is written in a quoted text, it is read back. -/
theorem readQuoted?_escapeChar (c : Char) (cs : List Char) :
    readQuoted? (escapeChar ['"', '\'', '\\'] c ++ cs) = (readQuoted? cs).map fun p => (c :: p.1, p.2) := by
  unfold escapeChar
  split
  · next h => subst h; exact readQuoted?_escape rfl (by simp)
  split
  · next h => subst h; exact readQuoted?_escape rfl (by simp)
  split
  · next h => subst h; exact readQuoted?_escape rfl (by simp)
  split
  · next h => subst h; exact readQuoted?_escape rfl (by simp)
  split
  · next h =>
    have hmarked : c = '"' ∨ c = '\'' ∨ c = '\\' := by simpa using h
    rcases hmarked with rfl | rfl | rfl <;> exact readQuoted?_escape rfl (by simp)
  · next h =>
    have hplain : ¬(c = '"' ∨ c = '\'' ∨ c = '\\') := by simpa using h
    split
    · exact readQuoted?_plain (fun he => hplain (.inl he)) (fun he => hplain (.inr (.inr he))) cs
    · have hcode : escapeCode c ++ cs =
          '\\' :: 'u' :: '\x7b' :: (Nat.toDigits 16 c.toNat ++ '\x7d' :: cs) := by
        simp [escapeCode]
      rw [hcode]
      exact readQuoted?_escape (readEscape?_code c cs) (by simp; omega)

lemma readQuoted?_flatMap (cs rest : List Char) :
    readQuoted? (cs.flatMap (escapeChar ['"', '\'', '\\']) ++ '"' :: rest) = some (cs, rest) := by
  induction cs with
  | nil => rw [List.flatMap_nil, List.nil_append, readQuoted?]
  | cons c cs ih =>
    rw [List.flatMap_cons, List.append_assoc, readQuoted?_escapeChar, ih]
    rfl

theorem toList_quote (s : String) :
    (quote s).toList = '"' :: (s.toList.flatMap (escapeChar ['"', '\'', '\\']) ++ ['"']) := by
  rw [quote, quotedWith, String.toList_ofList, List.cons_append]

/-- **A quoted text is read back**, whatever characters it holds. -/
theorem readText?_quote (s : String) (rest : List Char) :
    readText? ((quote s).toList ++ rest) = some (s, rest) := by
  have hbody := readQuoted?_flatMap s.toList rest
  rw [toList_quote, List.cons_append, List.append_assoc, List.singleton_append]
  show (readQuoted? _).map _ = _
  rw [hbody, Option.map_some, String.ofList_toList]

/-! ### Numbers -/

lemma snd_of_digits {n : Nat} (h : Stops rest) {d e : Char} {tail : List Char}
    (he : digits n ++ rest = d :: e :: tail) : isDigit e = true ∨ e = ',' ∨ e = ')' := by
  obtain ⟨d', ds, hds, -⟩ := exists_digits_eq_cons n
  rw [hds, List.cons_append] at he
  obtain ⟨-, htail⟩ := List.cons.inj he
  cases ds with
  | nil =>
    obtain ⟨c, rest, rfl, hc⟩ := h
    obtain ⟨rfl, -⟩ := List.cons.inj htail
    exact .inr hc
  | cons e' ds =>
    obtain ⟨rfl, -⟩ := List.cons.inj htail
    exact .inl (isDigit_of_mem_digits (n := n) (by simp [hds]))

lemma readBase_digits {n : Nat} (h : Stops rest) :
    readBase (digits n ++ rest) = (10, digits n ++ rest) := by
  have hsnd := @snd_of_digits rest n h
  unfold readBase
  split
  · next he => exact absurd (hsnd he) (by decide)
  · next he => exact absurd (hsnd he) (by decide)
  · next he => exact absurd (hsnd he) (by decide)
  · rfl

lemma isIntegerChar_of_mem_digits {n : Nat} (h : c ∈ digits n) : isIntegerChar c = true := by
  obtain ⟨d, hd, rfl⟩ := exists_of_mem_toDigits (by decide) h
  unfold isIntegerChar
  rw [hexValue?_digitChar d (by omega)]
  rfl

lemma digitsValue?_digits (n : Nat) : digitsValue? 10 (digits n) = some n := by
  have hfilter : (digits n).filter (· ≠ '_') = digits n := by
    rw [List.filter_eq_self]
    intro c hc
    refine decide_eq_true fun he => ?_
    rw [he] at hc
    exact Nat.underscore_not_in_toDigits hc
  rw [digitsValue?, hfilter]
  refine foldlM_toDigits (by decide) ?_ n
  intro n d hd
  rw [hexValue?_digitChar d (by omega), Option.bind_some, if_pos hd]

/-- **A whole number is read back.** -/
theorem readInteger?_digits (n : Nat) (h : Stops rest) :
    readInteger? (digits n ++ rest) = some (n, rest) := by
  have hall : ∀ c ∈ digits n, isIntegerChar c = true := fun c hc => isIntegerChar_of_mem_digits hc
  have htake : (digits n ++ rest).takeWhile isIntegerChar = digits n := by
    rw [List.takeWhile_append_of_pos hall, h.takeWhile (by decide), List.append_nil]
  have hdrop : (digits n ++ rest).dropWhile isIntegerChar = rest := by
    rw [List.dropWhile_append_of_pos hall, h.dropWhile (by decide)]
  obtain ⟨d, ds, hds, hd⟩ := exists_digits_eq_cons n
  have hfirst : ((digits n).isEmpty || (digits n).head? = some '_') = false := by
    rw [hds]
    rw [List.isEmpty_cons, List.head?_cons, Bool.false_or, decide_eq_false_iff_not]
    rintro ⟨⟩
    exact absurd hd (by decide)
  unfold readInteger?
  simp only [readBase_digits h, htake, hdrop, hfirst, Bool.false_eq_true, if_false, digitsValue?_digits,
    Option.map_some]

/-! ### Words and names -/

theorem dropStart?_append (a b : List Char) : dropStart? a (a ++ b) = some b := by
  unfold dropStart?
  rw [if_pos (List.isPrefixOf_iff_prefix.mpr (List.prefix_append a b)), List.drop_left]

theorem dropWords?_append (w : String) (h : Stops rest) : dropWords? [w] (w.toList ++ rest) = some rest := by
  have hnext : (rest.head?.map isNameChar).getD false = false := by
    obtain ⟨c, tail, rfl, rfl | rfl⟩ := h <;> rfl
  unfold dropWords?
  rw [List.findSome?_cons, dropStart?_append]
  simp [Option.filter, hnext]

/-- A name, which begins with a letter and goes on with letters, digits and underscores. -/
def IsName (name : String) : Prop :=
  (name.toList.head?.map isNameStart).getD false = true ∧ name.toList.all isNameChar = true

instance : DecidablePred IsName := fun name => by unfold IsName; infer_instance

/-- **A name is read back** that a colon follows. -/
theorem readName?_append {name : String} (h : IsName name) (rest : List Char) :
    readName? (name.toList ++ ':' :: rest) = some (name, ':' :: rest) := by
  obtain ⟨hstart, hall⟩ := h
  rw [List.all_eq_true] at hall
  have htake : (name.toList ++ ':' :: rest).takeWhile isNameChar = name.toList := by
    rw [List.takeWhile_append_of_pos hall, List.takeWhile_cons_of_neg (by decide), List.append_nil]
  have hdrop : (name.toList ++ ':' :: rest).dropWhile isNameChar = ':' :: rest := by
    rw [List.dropWhile_append_of_pos hall, List.dropWhile_cons_of_neg (by decide)]
  obtain ⟨c, cs, hname⟩ : ∃ c cs, name.toList = c :: cs := by
    cases hn : name.toList with
    | nil => rw [hn] at hstart; cases hstart
    | cons c cs => exact ⟨c, cs, rfl⟩
  -- what comes second is no mark of a raw name or text
  have hsnd : ∀ d e tail, name.toList ++ ':' :: rest = d :: e :: tail → isNameChar e = true ∨ e = ':' := by
    intro d e tail he
    rw [hname] at he hall
    cases cs with
    | nil =>
      cases he
      exact .inr rfl
    | cons c' cs =>
      cases he
      exact .inl (hall e (by simp))
  unfold readName?
  split
  · next he => exact absurd (hsnd _ _ _ he) (by decide)
  · next he => exact absurd (hsnd _ _ _ he) (by decide)
  · next c' tail _ _ he =>
    rw [← he, htake, hdrop]
    rw [hname, List.cons_append] at he
    obtain ⟨rfl, -⟩ := List.cons.inj he
    have hfirst : isNameStart c = true := by rwa [hname] at hstart
    have hcolon : isRawNameChar ':' = false := by decide
    simp [hfirst, hcolon]
  · next he => exact absurd he (by simp)

end NoteMuse.Format.Ron
