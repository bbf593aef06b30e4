import NoteMuse.Proofs.Call.Scan

/-!
The grammar of calls. A call is a dollar sign, two names with a dot between them, and a list of arguments
between parentheses; an argument stands between quotes, or is a bare token up to the next comma or parenthesis.
What is read is what the grammar has, so that more text behind a call changes nothing, and a call without its
end is malformed. Main statements: `parse_exact`, `exists_error_of_scan_append`.
-/

namespace NoteMuse

open Text

/-! ### Arguments -/

namespace Arg

/-- The text between two marks and what it stands for: a backslash takes the character after it as it is, and
no mark stands without one. -/
inductive Body (quote : Char) : List Char → List Char → Prop
  | nil : Body quote [] []
  | plain {c : Char} {cs value : List Char} (hback : c ≠ '\\') (hquote : c ≠ quote) (h : Body quote cs value) :
    Body quote (c :: cs) (c :: value)
  | hidden (c : Char) {cs value : List Char} (h : Body quote cs value) :
    Body quote ('\\' :: c :: cs) (c :: value)

/-- The text is an argument and denotes the value: a text between quotes of either kind, or a bare token, which
denotes what is left of it without the white space around it. -/
inductive Spells : List Char → Arg → Prop
  | quoted {quote : Char} {cs value : List Char} (hquote : quote = '"' ∨ quote = '\'')
    (h : Body quote cs value) : Spells (quote :: (cs ++ [quote])) (text (String.ofList value))
  | bare {token : List Char} (hstart : ∀ c ∈ token.head?, c ≠ '"' ∧ c ≠ '\'')
    (hends : ∀ c ∈ token, c ≠ ',' ∧ c ≠ ')') (hne : trim token ≠ [])
    (hflat : ∀ c ∈ trim token, c ∉ ['#', '$', '(', '[']) : Spells token (ofToken (trim token))

/-- White space, an argument, and white space. All the white space in front is outside the argument, so that a
quote behind it opens a text and is never part of a bare token. -/
inductive Item : List Char → Arg → Prop
  | mk {before cs after : List Char} {a : Arg} (hbefore : ∀ c ∈ before, isBlank c = true)
    (hstart : ∀ c ∈ cs.head?, isBlank c = false) (h : Spells cs a)
    (hafter : ∀ c ∈ after, isBlank c = true) : Item (before ++ cs ++ after) a

/-- One or more items with commas between them. -/
inductive Items : List Char → List Arg → Prop
  | one {cs : List Char} {a : Arg} (h : Item cs a) : Items cs [a]
  | cons {cs ds : List Char} {a : Arg} {as : List Arg} (h : Item cs a) (hs : Items ds as) :
    Items (cs ++ ',' :: ds) (a :: as)

/-- What may stand between the parentheses of a call: items, or nothing but white space. -/
inductive Listed : List Char → List Arg → Prop
  | none {cs : List Char} (h : ∀ c ∈ cs, isBlank c = true) : Listed cs []
  | some {cs : List Char} {as : List Arg} (h : Items cs as) : Listed cs as

/-! ### Reading an argument -/

variable {quote d : Char} {cs value rest : List Char} {a : Arg}

theorem body_of_readQuoted (h : readQuoted quote cs = some (value, rest)) :
    ∃ body, cs = body ++ quote :: rest ∧ Body quote body value := by
  fun_induction readQuoted quote cs generalizing value with
  | case1 => cases h
  | case2 c cs ih =>
    obtain ⟨p, hp, he⟩ := Option.map_eq_some_iff.mp h
    cases he
    obtain ⟨body, rfl, hbody⟩ := ih hp
    exact ⟨'\\' :: c :: body, rfl, .hidden c hbody⟩
  | case3 cs _ =>
    cases h
    exact ⟨[], rfl, .nil⟩
  | case4 c cs hnext hc ih =>
    obtain ⟨p, hp, he⟩ := Option.map_eq_some_iff.mp h
    cases he
    obtain ⟨body, rfl, hbody⟩ := ih hp
    have hback : c ≠ '\\' := by
      intro hback
      cases body with
      | nil => exact hnext quote p.2 hback rfl
      | cons x body => exact hnext x (body ++ quote :: p.2) hback rfl
    exact ⟨c :: body, rfl, .plain hback hc hbody⟩

theorem Body.readQuoted (h : Body quote cs value) (hquote : quote ≠ '\\') (rest : List Char) :
    readQuoted quote (cs ++ quote :: rest) = some (value, rest) := by
  induction h with
  | nil => rw [List.nil_append, readQuoted.eq_3 _ _ _ fun _ _ hc => absurd hc hquote, if_pos rfl]
  | plain hback hne _ ih =>
    rw [List.cons_append, readQuoted.eq_3 _ _ _ fun _ _ hc => absurd hc hback, if_neg hne, ih]
    rfl
  | hidden c _ ih =>
    rw [List.cons_append, List.cons_append, Arg.readQuoted, ih]
    rfl

theorem isTokenChar_iff {c : Char} : isTokenChar c = true ↔ c ≠ ',' ∧ c ≠ ')' := by
  simp [isTokenChar]

theorem isTokenChar_of_isBlank {c : Char} (h : isBlank c = true) : isTokenChar c = true := by
  rw [isTokenChar_iff]
  constructor <;>
    · rintro rfl
      exact absurd h (by decide)

/-- When a bare token at the front is read: something is left of it without the white space around it, and in
this no sign begins another expression. -/
theorem readToken_eq_ok_iff :
    readToken cs = .ok a ↔
      trim (cs.takeWhile isTokenChar) ≠ [] ∧
        (∀ c ∈ trim (cs.takeWhile isTokenChar), c ∉ ['#', '$', '(', '[']) ∧
          ofToken (trim (cs.takeWhile isTokenChar)) = a := by
  unfold readToken
  generalize trim (cs.takeWhile isTokenChar) = token
  by_cases hne : token = []
  · simp [hne]
  · by_cases hflat : ∀ c ∈ token, c ∉ ['#', '$', '(', '[']
    · have hany : (token.any fun c => ['#', '$', '(', '['].contains c) = false := by
        rw [List.any_eq_false]
        intro c hc
        simpa using hflat c hc
      simp only [List.isEmpty_eq_false_iff.mpr hne, hany, Bool.false_eq_true, if_false, Except.ok.injEq]
      exact ⟨fun h => ⟨hne, hflat, h⟩, fun h => h.2.2⟩
    · have hany : (token.any fun c => ['#', '$', '(', '['].contains c) = true := by
        push Not at hflat
        obtain ⟨c, hc, hmem⟩ := hflat
        exact List.any_eq_true.mpr ⟨c, hc, by simpa using hmem⟩
      simp only [List.isEmpty_eq_false_iff.mpr hne, hany, Bool.false_eq_true, if_false, if_true]
      exact ⟨fun h => (nomatch h), fun h => absurd h.2.1 hflat⟩

theorem spells_of_read {c : Char} (h : read (c :: cs) = .ok (a, rest)) :
    ∃ spelled, c :: cs = spelled ++ rest ∧ spelled.head? = some c ∧ Spells spelled a := by
  rw [read] at h
  split at h
  · next hc =>
    split at h
    · next value after hread =>
      cases h
      obtain ⟨body, rfl, hbody⟩ := body_of_readQuoted hread
      have hquote : c = '"' ∨ c = '\'' := by simpa using hc
      exact ⟨c :: (body ++ [c]), by simp, rfl, .quoted hquote hbody⟩
    · cases h
  · next hc =>
    obtain ⟨x, hread, he⟩ := map_eq_ok_iff.mp h
    cases he
    obtain ⟨hne, hflat, rfl⟩ := readToken_eq_ok_iff.mp hread
    have hsplit : (c :: cs).takeWhile isTokenChar ++ (c :: cs).dropWhile isTokenChar = c :: cs :=
      List.takeWhile_append_dropWhile
    -- the token is not empty, so it begins with the character that was looked at
    have hhead : ((c :: cs).takeWhile isTokenChar).head? = some c := by
      rw [List.takeWhile_cons] at hne ⊢
      split
      · rfl
      · next hfalse =>
        rw [if_neg hfalse] at hne
        exact absurd rfl hne
    refine ⟨_, hsplit.symm, hhead, .bare ?_ ?_ hne hflat⟩
    · intro x hx
      rw [hhead] at hx
      cases hx
      simpa using hc
    · exact fun x hx => isTokenChar_iff.mp (List.mem_takeWhile_imp hx)

/-- An argument is read up to the character that says how the list goes on. -/
theorem Spells.exists_read (h : Spells cs a) {after : List Char} (hafter : ∀ c ∈ after, isBlank c = true)
    (hd : isTokenChar d = false) (rest : List Char) :
    ∃ left, read (cs ++ (after ++ d :: rest)) = .ok (a, left) ∧ trimLeft left = d :: rest := by
  have hblank : isBlank d = false := by
    by_contra hd'
    rw [isTokenChar_of_isBlank (by simpa using hd')] at hd
    cases hd
  cases h with
  | @quoted quote body value hquote hbody =>
    have hback : quote ≠ '\\' := by rcases hquote with rfl | rfl <;> decide
    refine ⟨after ++ d :: rest, ?_, ?_⟩
    · rw [List.cons_append, List.append_assoc, List.singleton_append, read, if_pos (by simpa using hquote),
        hbody.readQuoted hback]
    · rw [trimLeft_append_of_blank hafter, trimLeft_cons hblank]
  | @bare token hstart hends hne hflat =>
    -- a bare token takes the white space behind it along, and is trimmed afterwards
    have hall : ∀ c ∈ cs ++ after, isTokenChar c = true := by
      intro c hc
      rcases List.mem_append.mp hc with hc | hc
      · exact isTokenChar_iff.mpr (hends c hc)
      · exact isTokenChar_of_isBlank (hafter c hc)
    obtain ⟨htake, hdrop⟩ := takeWhile_dropWhile_append hall hd rest
    have htrim : trim (cs ++ after) = trim cs := trim_append_of_blank hafter cs
    have htoken : readToken (cs ++ after ++ d :: rest) = .ok (ofToken (trim cs)) := by
      rw [readToken_eq_ok_iff, htake, htrim]
      exact ⟨hne, hflat, rfl⟩
    refine ⟨d :: rest, ?_, trimLeft_cons hblank⟩
    cases cs with
    | nil => exact absurd rfl hne
    | cons c cs =>
      obtain ⟨hdouble, hsingle⟩ := hstart c rfl
      rw [← List.append_assoc, List.cons_append, List.cons_append, read, if_neg (by simp [hdouble, hsingle])]
      rw [List.cons_append, List.cons_append] at htoken hdrop
      rw [htoken, hdrop]
      rfl

theorem Spells.exists_cons (h : Spells cs a) : ∃ c rest, cs = c :: rest ∧ c ≠ ')' := by
  cases h with
  | quoted hquote _ => exact ⟨_, _, rfl, by rcases hquote with rfl | rfl <;> decide⟩
  | bare _ hends hne _ =>
    cases cs with
    | nil => exact absurd rfl hne
    | cons c rest => exact ⟨c, rest, rfl, (hends c (List.mem_cons_self ..)).2⟩

theorem item_of_read {c : Char} {rest after left : List Char} (hcs : trimLeft cs = c :: rest)
    (hread : read (c :: rest) = .ok (a, after)) (hafter : trimLeft after = d :: left) :
    ∃ item, cs = item ++ d :: left ∧ Item item a := by
  obtain ⟨spelled, hsplit, hhead, hspells⟩ := spells_of_read hread
  have hstart : ∀ x ∈ spelled.head?, isBlank x = false := by
    intro x hx
    rw [hhead] at hx
    cases hx
    have hnot := List.head?_dropWhile_not isBlank cs
    rw [← trimLeft, hcs] at hnot
    exact hnot
  refine ⟨cs.takeWhile isBlank ++ spelled ++ after.takeWhile isBlank, ?_,
    .mk (fun _ hx => List.mem_takeWhile_imp hx) hstart hspells fun _ hx => List.mem_takeWhile_imp hx⟩
  calc cs = cs.takeWhile isBlank ++ trimLeft cs := List.takeWhile_append_dropWhile.symm
    _ = cs.takeWhile isBlank ++ (spelled ++ (after.takeWhile isBlank ++ trimLeft after)) := by
      rw [hcs, hsplit, trimLeft, List.takeWhile_append_dropWhile]
    _ = cs.takeWhile isBlank ++ spelled ++ after.takeWhile isBlank ++ d :: left := by
      rw [hafter]
      simp only [List.append_assoc]

end Arg

/-! ### Reading a list of arguments -/

namespace Call

open Arg

variable {cs rest : List Char} {a : Arg} {as : List Arg}

/-- An item at the front of a list is read, and the character behind it says how the list goes on. -/
theorem readArgs_item {first : Bool} (h : Item cs a) {d : Char} (hd : isTokenChar d = false)
    (rest : List Char) :
    readArgs first (cs ++ d :: rest) =
      if d = ',' then (readArgs false rest).map fun q => (a :: q.1, q.2) else .ok ([a], rest) := by
  obtain @⟨before, cs, after, _, hbefore, hstart, hspells, hafter⟩ := h
  obtain ⟨c, tail, rfl, hclose⟩ := hspells.exists_cons
  obtain ⟨left, hread, hleft⟩ := hspells.exists_read hafter hd rest
  have htrim : trimLeft (before ++ (c :: tail) ++ after ++ d :: rest) =
      c :: (tail ++ (after ++ d :: rest)) := by
    rw [List.append_assoc, List.append_assoc, trimLeft_append_of_blank hbefore, List.cons_append,
      trimLeft_cons (hstart c rfl)]
  rw [List.cons_append] at hread
  rw [readArgs_eq, htrim]
  simp only [hclose, decide_false, Bool.and_false, Bool.false_eq_true, if_false, hread, Except.bind, hleft]
  by_cases hcomma : d = ','
  · rw [if_pos hcomma, if_pos hcomma]
  · have hend : d = ')' := by
      by_contra hend
      rw [isTokenChar_iff.mpr ⟨hcomma, hend⟩] at hd
      cases hd
    rw [if_neg hcomma, if_neg hcomma, if_pos hend]

theorem readArgs_items {first : Bool} (h : Items cs as) (rest : List Char) :
    readArgs first (cs ++ ')' :: rest) = .ok (as, rest) := by
  induction h generalizing first with
  | one h => rw [readArgs_item h rfl, if_neg (by decide)]
  | cons h _ ih =>
    rw [List.append_assoc, List.cons_append, readArgs_item h rfl, if_pos rfl, ih]
    rfl

theorem listed_of_readArgs {first : Bool} (h : readArgs first cs = .ok (as, rest)) :
    ∃ list, cs = list ++ ')' :: rest ∧ (Items list as ∨ first = true ∧ Listed list as) := by
  -- an empty list is one before the first argument only, hence the flag in the statement
  fun_induction readArgs first cs generalizing as with
  | case1 => cases h
  | case2 first cs c rest' hs hclose =>
    cases h
    rw [Bool.and_eq_true, decide_eq_true_eq] at hclose
    obtain ⟨hfirst, rfl⟩ := hclose
    refine ⟨cs.takeWhile isBlank, ?_, .inr ⟨hfirst, .none ?_⟩⟩
    · rw [← hs, trimLeft, List.takeWhile_append_dropWhile]
    · exact fun _ hx => List.mem_takeWhile_imp hx
  | case3 => cases h
  | case4 => cases h
  | case5 => cases h
  | case6 first cs c rest' hs hclose a after ha rest₁ as rest₂ hr ht hlt ih =>
    cases h
    obtain ⟨item, rfl, hitem⟩ := item_of_read hs ha ht
    obtain ⟨list, rfl, hlist | ⟨hfirst, -⟩⟩ := ih hr
    · refine ⟨item ++ ',' :: list, ?_, .inl (.cons hitem hlist)⟩
      rw [List.append_assoc, List.cons_append]
    · cases hfirst
  | case7 first cs c rest' hs hclose a after ha rest₁ ht _ =>
    cases h
    obtain ⟨item, rfl, hitem⟩ := item_of_read hs ha ht
    exact ⟨item, rfl, .inl (.one hitem)⟩
  | case8 => cases h

/-- **What is read as a list of arguments** is one, up to the parenthesis behind it. -/
theorem readArgs_eq_ok_iff :
    readArgs true cs = .ok (as, rest) ↔ ∃ list, cs = list ++ ')' :: rest ∧ Listed list as := by
  constructor
  · intro h
    obtain ⟨list, hcs, hlist | ⟨-, hlist⟩⟩ := listed_of_readArgs h
    · exact ⟨list, hcs, .some hlist⟩
    · exact ⟨list, hcs, hlist⟩
  · rintro ⟨list, rfl, hlist⟩
    cases hlist with
    | none hblank =>
      rw [readArgs_eq, trimLeft_append_of_blank hblank, trimLeft_cons (by decide)]
      rfl
    | some hitems => exact readArgs_items hitems rest

/-- More text behind a list of arguments is left as it is. -/
theorem readArgs_append (h : readArgs true cs = .ok (as, rest)) (more : List Char) :
    readArgs true (cs ++ more) = .ok (as, rest ++ more) := by
  obtain ⟨list, rfl, hlist⟩ := readArgs_eq_ok_iff.mp h
  refine readArgs_eq_ok_iff.mpr ⟨list, ?_, hlist⟩
  rw [List.append_assoc, List.cons_append]

/-! ### Calls -/

/-- **A call that is broken off** inside its list of arguments is malformed. -/
theorem exists_error_of_scan_append {cs rest : List Char} {c : Call} {d : Char} (hd : isIdentChar d = false)
    (hdot : d ≠ '.') (hopen : d ≠ '(') (h : scan (cs ++ d :: rest) = .ok (some (c, []))) :
    ∃ e, scan cs = .error e := by
  obtain ⟨hspace, hfunction, args, hshape, hargs⟩ := scan_eq_some_iff.mp h
  have hident : ∀ {s : String}, isIdentifier s = true → d ∉ s.toList := by
    intro s hs hmem
    rw [(isIdentifier_iff.mp hs).2 d hmem] at hd
    cases hd
  have hhead : d ∉ c.space.toList ++ '.' :: (c.function.toList ++ ['(']) := by
    simp [hident hspace, hident hfunction, hdot, hopen]
  have hsplit : cs ++ d :: rest = (c.space.toList ++ '.' :: (c.function.toList ++ ['('])) ++ args := by
    simpa using hshape
  obtain ⟨args', rfl, rfl⟩ := eq_append_of_append_cons hhead hsplit
  cases hread : readArgs true args' with
  | error e =>
    refine ⟨e, ?_⟩
    rw [List.append_assoc, List.cons_append, List.append_assoc, List.singleton_append,
      scan_append hspace hfunction, hread]
    rfl
  | ok p =>
    -- the whole list would end where this one does
    rw [readArgs_append hread] at hargs
    have hnil : p.2 ++ d :: rest = [] := congrArg Prod.snd (Except.ok.inj hargs)
    exact absurd hnil (List.append_ne_nil_of_right_ne_nil _ (List.cons_ne_nil _ _))

/-- The text is a call: a dollar sign, two names with a dot between them, and a list of arguments between
parentheses. -/
inductive Written : List Char → Call → Prop
  | mk {space function : String} {list : List Char} {args : List Arg} (hspace : isIdentifier space = true)
    (hfunction : isIdentifier function = true) (hargs : Listed list args) :
    Written ('$' :: (space.toList ++ '.' :: (function.toList ++ '(' :: (list ++ [')'])))) ⟨space, function, args⟩

theorem scan_eq_ok_iff {c : Call} : scan cs = .ok (some (c, [])) ↔ Written ('$' :: cs) c := by
  rw [scan_eq_some_iff]
  constructor
  · rintro ⟨hspace, hfunction, args, rfl, hargs⟩
    obtain ⟨list, rfl, hlist⟩ := readArgs_eq_ok_iff.mp hargs
    exact .mk hspace hfunction hlist
  · rintro ⟨hspace, hfunction, hlist⟩
    exact ⟨hspace, hfunction, _, rfl, readArgs_eq_ok_iff.mpr ⟨_, rfl, hlist⟩⟩

/-- **Which texts are calls**: those that the grammar has, white space around them apart. -/
theorem parse_eq_ok_iff_written {marker : String} {c : Call} :
    parse marker = .ok c ↔ Written (trim marker.toList) c := by
  rw [parse_eq_ok_iff]
  constructor
  · rintro ⟨cs, htrim, hscan⟩
    rw [htrim]
    exact scan_eq_ok_iff.mp hscan
  · intro h
    generalize trim marker.toList = cs at h
    obtain ⟨hspace, hfunction, hargs⟩ := h
    exact ⟨_, rfl, scan_eq_ok_iff.mpr (.mk hspace hfunction hargs)⟩

/-- **The grammar is what is read.** A text is read as a call exactly when the text without the white space
around it is this call by the grammar, which so has no text for two calls; every other text is an error. -/
theorem parse_exact (marker : String) :
    (∀ c, parse marker = .ok c ↔ Written (trim marker.toList) c) ∧
      ((∃ e, parse marker = .error e) ↔ ∀ c, ¬Written (trim marker.toList) c) := by
  refine ⟨fun c => parse_eq_ok_iff_written, ?_⟩
  simp only [← parse_eq_ok_iff_written]
  cases parse marker with
  | ok c => simp
  | error e => simp

end Call

end NoteMuse
