import NoteMuse.Proofs.Call.Print

/-!
Calls as they are shown. A call that is shown has its text arguments in quoted form, where a letter or a code
point stands for a character that does not show by itself. A reader of calls does not know these escapes: it
drops the backslash and keeps what follows. So every call that is shown is read as a call again, and as the same
one exactly when no text argument has such a character. Main statement: `parse_display`.
-/

namespace NoteMuse

open Decimal

/-! ### Quoted texts -/

namespace Text

/-- In a quoted text the character stands for itself, or it is a quote or a backslash with a backslash before
it. -/
def Shown (c : Char) : Prop := escapeChar ['"', '\\'] c ∈ [[c], ['\\', '"'], ['\\', '\\']]

instance : DecidablePred Shown := fun c =>
  inferInstanceAs (Decidable (escapeChar ['"', '\\'] c ∈ [[c], ['\\', '"'], ['\\', '\\']]))

/-- What is left of a character in a quoted text when the backslash in front of an escape is dropped. -/
def unescaped (c : Char) : List Char :=
  if escapeChar ['"', '\\'] c = [c] then [c] else (escapeChar ['"', '\\'] c).tail

/-- How a character is written in a quoted text: as it is; with a backslash in front, if it is a quote or a
backslash; or else as an escape that holds neither after its backslash and does not keep the character. -/
theorem escapeChar_cases (c : Char) :
    (escapeChar ['"', '\\'] c = [c] ∧ c ≠ '"' ∧ c ≠ '\\') ∨
      (escapeChar ['"', '\\'] c = ['\\', c] ∧ (c = '"' ∨ c = '\\')) ∨
        ∃ d rest, escapeChar ['"', '\\'] c = '\\' :: d :: rest ∧ d :: rest ≠ [c] ∧
          ∀ x ∈ d :: rest, x ≠ '\\' ∧ x ≠ '"' := by
  unfold escapeChar
  split
  · next h => subst h; exact .inr (.inr ⟨'n', [], rfl, by decide, by simp⟩)
  split
  · next h => subst h; exact .inr (.inr ⟨'r', [], rfl, by decide, by simp⟩)
  split
  · next h => subst h; exact .inr (.inr ⟨'t', [], rfl, by decide, by simp⟩)
  split
  · next h => subst h; exact .inr (.inr ⟨'0', [], rfl, by decide, by simp⟩)
  split
  · next h => exact .inr (.inl ⟨rfl, by simpa using h⟩)
  next h =>
  split
  · exact .inl ⟨rfl, by simpa using h⟩
  · refine .inr (.inr ⟨'u', '\x7b' :: Nat.toDigits 16 c.toNat ++ ['\x7d'], rfl, by simp, ?_⟩)
    have hdigit : ∀ d, d < 16 → d.digitChar ≠ '\\' ∧ d.digitChar ≠ '"' := by decide
    intro x hx
    simp only [List.cons_append, List.mem_cons, List.mem_append, List.not_mem_nil, or_false] at hx
    rcases hx with rfl | rfl | hx | rfl
    · decide
    · decide
    · obtain ⟨d, hd, rfl⟩ := exists_of_mem_toDigits (by decide) hx
      exact hdigit d hd
    · decide

theorem unescaped_ne_nil (c : Char) : unescaped c ≠ [] := by
  unfold unescaped
  split
  · exact List.cons_ne_nil _ _
  · next hne =>
    obtain ⟨h, -⟩ | ⟨h, -⟩ | ⟨d, rest, h, -⟩ := escapeChar_cases c
    · exact absurd h hne
    · rw [h]
      exact List.cons_ne_nil _ _
    · rw [h]
      exact List.cons_ne_nil _ _

/-- Dropping the backslash of an escape gives the character back only for a quote and a backslash. -/
theorem unescaped_eq_iff {c : Char} : unescaped c = [c] ↔ Shown c := by
  unfold unescaped Shown
  obtain ⟨h, -⟩ | ⟨h, hc⟩ | ⟨d, rest, h, hne, hrest⟩ := escapeChar_cases c
  · simp [h]
  · rcases hc with rfl | rfl <;> simp [h]
  · obtain ⟨hback, hquote⟩ := hrest d (List.mem_cons_self ..)
    simp [h, hne, hback, hquote]

/-- A text is left as it is by a map that gives every character at least one, if and only if the map leaves
each character as it is. -/
theorem flatMap_eq_self_iff {f : Char → List Char} (hne : ∀ c, f c ≠ []) {cs : List Char} :
    cs.flatMap f = cs ↔ ∀ c ∈ cs, f c = [c] := by
  have hlength : ∀ ds : List Char, ds.length ≤ (ds.flatMap f).length := by
    intro ds
    induction ds with
    | nil => exact Nat.le_refl _
    | cons d ds ih =>
      have hpos : 0 < (f d).length := List.length_pos_iff.mpr (hne d)
      rw [List.flatMap_cons, List.length_append, List.length_cons]
      omega
  constructor
  · intro h
    induction cs with
    | nil => exact fun _ hc => absurd hc List.not_mem_nil
    | cons c cs ih =>
      obtain ⟨d, ds, hd⟩ := List.exists_cons_of_ne_nil (hne c)
      rw [List.flatMap_cons, hd, List.cons_append] at h
      obtain ⟨rfl, hrest⟩ := List.cons.inj h
      -- the first character takes one place, for the others take at least one each
      have hds : ds = [] := by
        have hle := hlength cs
        have hsum := congrArg List.length hrest
        rw [List.length_append] at hsum
        exact List.eq_nil_of_length_eq_zero (by omega)
      subst hds
      exact List.forall_mem_cons.mpr ⟨hd, ih hrest⟩
  · intro h
    rw [List.flatMap_congr h, List.flatMap_singleton']

end Text

open Text

/-! ### Arguments -/

namespace Arg

variable {quote : Char} {cs ds value value' : List Char}

theorem Body.append (h : Body quote cs value) (h' : Body quote ds value') :
    Body quote (cs ++ ds) (value ++ value') := by
  induction h with
  | nil => exact h'
  | plain hback hquote _ ih => exact .plain hback hquote ih
  | hidden c _ ih => exact .hidden c ih

theorem Body.of_forall (h : ∀ c ∈ cs, c ≠ '\\' ∧ c ≠ quote) : Body quote cs cs := by
  induction cs with
  | nil => exact .nil
  | cons c cs ih =>
    obtain ⟨⟨hback, hquote⟩, hcs⟩ := List.forall_mem_cons.mp h
    exact .plain hback hquote (ih hcs)

theorem body_escapeChar (c : Char) : Body '"' (escapeChar ['"', '\\'] c) (unescaped c) := by
  unfold unescaped
  obtain ⟨h, hquote, hback⟩ | ⟨h, -⟩ | ⟨d, rest, h, -, hrest⟩ := escapeChar_cases c
  · rw [h, if_pos rfl]
    exact .plain hback hquote .nil
  · rw [h, if_neg (by simp)]
    exact .hidden c .nil
  · rw [h, if_neg (by simp)]
    exact .hidden d (.of_forall fun x hx => hrest x (List.mem_cons_of_mem _ hx))

theorem body_flatMap (cs : List Char) :
    Body '"' (cs.flatMap (escapeChar ['"', '\\'])) (cs.flatMap unescaped) := by
  induction cs with
  | nil => exact .nil
  | cons c cs ih =>
    rw [List.flatMap_cons, List.flatMap_cons]
    exact (body_escapeChar c).append ih

/-- What an argument that is shown is read as. -/
def reread : Arg → Arg
  | text s => text (String.ofList (s.toList.flatMap unescaped))
  | a => a

theorem tight_display {a : Arg} (ha : a.isFloat = false) : Tight a.display.toList a.reread := by
  cases a with
  | text s =>
    have hdisplay : (text s).display.toList =
        '"' :: (s.toList.flatMap (escapeChar ['"', '\\']) ++ ['"']) := by
      rw [display, quoted, quotedWith, String.toList_ofList, List.cons_append]
    rw [hdisplay]
    exact (body_flatMap s.toList).tight
  | int n => exact tight_intText n
  | float x => cases ha

/-- An argument is read as itself when all characters of its text are shown. -/
theorem reread_eq_iff {a : Arg} : a.reread = a ↔ ∀ s, a = text s → ∀ c ∈ s.toList, Shown c := by
  cases a with
  | text s =>
    have hlist : s.toList.flatMap unescaped = s.toList ↔ ∀ c ∈ s.toList, Shown c := by
      rw [flatMap_eq_self_iff unescaped_ne_nil]
      simp only [unescaped_eq_iff]
    have hreread : (text s).reread = text s ↔ s.toList.flatMap unescaped = s.toList := by
      rw [reread, text.injEq, ← String.toList_inj, String.toList_ofList]
    rw [hreread, hlist]
    simp
  | int n => simp [reread]
  | float x => simp [reread]

theorem reread_eq_int_iff {a : Arg} {n : Int64} : a.reread = int n ↔ a = int n := by
  cases a <;> simp [reread]

end Arg

/-! ### Calls -/

namespace Call

theorem Written.trim_eq {cs : List Char} {c : Call} (h : Written cs c) : trim cs = cs := by
  obtain @⟨space, function, list, args, -, -, -⟩ := h
  have hend : '$' :: (space.toList ++ '.' :: (function.toList ++ '(' :: (list ++ [')']))) =
      '$' :: (space.toList ++ '.' :: (function.toList ++ '(' :: list)) ++ [')'] := by simp
  rw [hend, trim, List.cons_append, trimLeft_cons (by decide), ← List.cons_append,
    trimRight_append (by decide)]

/-- What a call that is shown is read as. -/
def reread (c : Call) : Call := ⟨c.space, c.function, c.args.map Arg.reread⟩

theorem reread_eq_iff {c : Call} : c.reread = c ↔ ∀ s, .text s ∈ c.args → ∀ x ∈ s.toList, Shown x := by
  have hargs : c.reread = c ↔ ∀ a ∈ c.args, a.reread = a := by
    obtain ⟨space, function, args⟩ := c
    have hmap : args.map Arg.reread = args.map id ↔ ∀ a ∈ args, a.reread = a := List.map_inj_left
    rw [List.map_id] at hmap
    simpa only [reread, mk.injEq, true_and] using hmap
  rw [hargs]
  simp only [Arg.reread_eq_iff]
  constructor
  · exact fun h s hs => h _ hs s rfl
  · rintro h _ ha s rfl
    exact h s ha

theorem written_display {c : Call} (h : c.Normal) : Written c.display.toList c.reread := by
  have hlist : c.display.toList = '$' :: (c.space.toList ++ '.' :: (c.function.toList ++ '(' ::
      ([',', ' '].intercalate (c.args.map fun a => a.display.toList) ++ [')']))) := by
    have hsep : ", ".toList = [',', ' '] := rfl
    simp [display, qualifiedName, String.toList_intercalate, hsep, Function.comp_def]
  have hargs : Arg.Listed ([',', ' '].intercalate (c.args.map fun a => a.display.toList))
      (c.args.map Arg.reread) := by
    refine listed_intercalate ?_
    rw [List.forall₂_map_left_iff, List.forall₂_map_right_iff, List.forall₂_same]
    exact fun a ha => Arg.tight_display (h.args a ha)
  rw [hlist]
  exact .mk h.space h.function hargs

/-- **A call that is shown is read again**, as a call of the same function with as many arguments and the same
whole numbers; and it is the same call if and only if in its texts all characters are shown: none is written
as a letter or a code point after a backslash. -/
theorem parse_display {c : Call} (h : c.Normal) :
    (∃ args, parse c.display = .ok ⟨c.space, c.function, args⟩ ∧ args.length = c.args.length ∧
      ∀ (i : Nat) n, args[i]? = some (.int n) ↔ c.args[i]? = some (.int n)) ∧
    (parse c.display = .ok c ↔ ∀ s, .text s ∈ c.args → ∀ x ∈ s.toList, Shown x) := by
  have hwritten : Written (trim c.display.toList) c.reread :=
    (written_display h).trim_eq.symm ▸ written_display h
  have hparse : parse c.display = .ok c.reread := parse_eq_ok_iff_written.mpr hwritten
  refine ⟨⟨c.args.map Arg.reread, hparse, List.length_map .., fun i n => ?_⟩, ?_⟩
  · rw [List.getElem?_map, Option.map_eq_some_iff]
    simp only [Arg.reread_eq_int_iff]
    exact ⟨fun ⟨a, ha, he⟩ => he ▸ ha, fun hi => ⟨_, hi, rfl⟩⟩
  · rw [hparse, Except.ok.injEq, reread_eq_iff]

def twoTexts : Call := ⟨"a", "b", [.text "\"\\", .int (-5), .text "x\ny"]⟩

/-- The call is read again, but not as the same one. -/
theorem parse_display_two_texts :
    twoTexts.Normal ∧
      (∃ args, parse twoTexts.display = .ok ⟨"a", "b", args⟩ ∧ args.length = 3 ∧
        args[1]? = some (.int (-5))) ∧
      parse twoTexts.display ≠ .ok twoTexts := by
  have hnormal : twoTexts.Normal := ⟨by decide, by decide, by decide⟩
  obtain ⟨⟨args, hparse, hlength, hints⟩, hsame⟩ := parse_display hnormal
  refine ⟨hnormal, ⟨args, hparse, hlength, (hints 1 (-5)).mpr rfl⟩, ?_⟩
  rw [Ne, hsame]
  intro h
  exact absurd (h "x\ny" (by decide) '\n' (by decide)) (by decide)

end Call

end NoteMuse
