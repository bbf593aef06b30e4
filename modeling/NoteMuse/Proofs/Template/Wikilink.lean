import NoteMuse.Proofs.Note.Link
import NoteMuse.Proofs.Template.RoundTrip

/-!
Links to notes in templates. A link is no syntax of templates: its two brackets are tried one after the other for
the opening of an action, and the second one opens one when the title begins with a name and a colon. A text of
links and plain characters is literal if there is no such title in it. Main statement: `parse_linked`.
-/

namespace NoteMuse.Template

open Text

/-- The text is made of links to these titles, in this order, and of other characters, none of which means
anything in a template. -/
inductive Linked : List Char → List String → Prop
  | nil : Linked [] []
  | plain {c : Char} {cs : List Char} {ts : List String} (hc : c ∉ Segment.marked) (h : Linked cs ts) :
    Linked (c :: cs) ts
  | link {t : String} {cs : List Char} {ts : List String} (hne : t ≠ "")
    (ht : ∀ c ∈ t.toList, c ∉ Segment.marked) (h : Linked cs ts) : Linked ((Link.wrap t).toList ++ cs) (t :: ts)

/-- The title begins as an action does: with a name and a colon. -/
def LikeAction (title : String) : Prop :=
  ∃ name body, title = name ++ ":" ++ body ∧ isSymbolName name.toList = true

/-- The template of a text that is taken as it is. -/
def verbatim (s : String) : Template := if s = "" then [] else [.literal s]

variable {cs rest : List Char} {ts : List String} {t name body : String} {c : Char} {p : Template}

/-! ### Literal text -/

theorem foldr_pushChar_nil (s : String) : s.toList.foldr pushChar [] = verbatim s := by
  unfold verbatim
  split
  · next h => rw [h]; rfl
  · next h =>
    have hne : s.toList ≠ [] := fun hs => h (String.toList_eq_nil_iff.mp hs)
    rw [foldr_pushChar (by decide) hne, String.ofList_toList]

theorem read_plain (h : ∀ c ∈ cs, c ∉ Segment.marked) (rest : List Char) :
    read (cs ++ rest) = (read rest).map fun p => cs.foldr pushChar p := by
  have hread := read_protect cs rest
  rwa [protect_eq_self h] at hread

theorem action_mem_pushChar {s : List Segment} :
    .action name s ∈ pushChar c p ↔ .action name s ∈ p := by
  unfold pushChar
  split <;> simp

theorem action_mem_foldr_pushChar {s : List Segment} :
    .action name s ∈ cs.foldr pushChar p ↔ .action name s ∈ p := by
  induction cs with
  | nil => rfl
  | cons c cs ih => rw [List.foldr_cons, action_mem_pushChar, ih]

/-! ### Links -/

/-- A text that begins with no name and colon is no action. -/
theorem scanAction_eq_none (h : ∀ name body, cs = name ++ ':' :: body → isSymbolName name = false) :
    scanAction cs = .ok none := by
  unfold scanAction
  split
  · next rest hdrop =>
    have hcs : cs = cs.takeWhile isSymbolChar ++ ':' :: rest := by
      rw [← hdrop, List.takeWhile_append_dropWhile]
    have hname := h _ _ hcs
    have hall : (cs.takeWhile isSymbolChar).all isSymbolChar = true := List.all_takeWhile
    rw [isSymbolName, hall, Bool.and_true, Bool.not_eq_false'] at hname
    rw [if_pos hname]
  · rfl

theorem scanAction_bracket (rest : List Char) : scanAction ('[' :: rest) = .ok none := by
  refine scanAction_eq_none fun name body h => ?_
  cases name with
  | nil => rfl
  | cons c name =>
    obtain ⟨rfl, -⟩ := List.cons.inj h
    rfl

theorem read_close (rest : List Char) :
    read (']' :: ']' :: rest) = (read rest).map fun p => pushChar ']' (pushChar ']' p) := by
  rw [read_char (by decide) (by decide) (by decide) (by decide),
    read_char (by decide) (by decide) (by decide) (by decide)]
  cases read rest <;> rfl

/-- A link whose title begins like no action is literal text. -/
theorem read_wrap (ht : ∀ c ∈ t.toList, c ∉ Segment.marked) (hlike : ¬LikeAction t) (rest : List Char) :
    read ((Link.wrap t).toList ++ rest) = (read rest).map fun p => (Link.wrap t).toList.foldr pushChar p := by
  have hscan : scanAction (t.toList ++ ']' :: ']' :: rest) = .ok none := by
    refine scanAction_eq_none fun name body hcs => ?_
    by_contra hname
    rw [Bool.not_eq_false] at hname
    have hclose : ']' ∉ name ++ [':'] := by
      intro hmem
      rcases List.mem_append.mp hmem with hmem | hmem
      · exact ne_of_mem_symbolName hname hmem (by decide) rfl
      · exact absurd hmem (by decide)
    have hsplit : t.toList ++ ']' :: ']' :: rest = (name ++ [':']) ++ body := by
      rw [hcs, List.append_assoc, List.singleton_append]
    obtain ⟨body', htitle, -⟩ := eq_append_of_append_cons hclose hsplit
    refine hlike ⟨String.ofList name, String.ofList body', ?_, by rwa [String.toList_ofList]⟩
    rw [← String.toList_inj, htitle]
    simp
  rw [Link.toList_wrap, List.cons_append, List.cons_append, List.append_assoc, List.cons_append,
    List.cons_append, List.nil_append, read_bracket (scanAction_bracket _), read_bracket hscan, read_plain ht,
    read_close]
  cases read rest with
  | error e => rfl
  | ok p => simp [Except.map]

/-- A link whose title begins like an action is one between two brackets. -/
theorem read_wrap_action (ht : ∀ c ∈ t.toList, c ∉ Segment.marked) (htitle : t = name ++ ":" ++ body)
    (hname : isSymbolName name.toList = true) (rest : List Char) :
    read ((Link.wrap t).toList ++ rest) =
      (read rest).map fun p => pushChar '[' (.action name (verbatim body) :: pushChar ']' p) := by
  have hlist : t.toList = name.toList ++ ':' :: body.toList := by
    rw [htitle, String.toList_append, String.toList_append, List.append_assoc]
    rfl
  have hbody : ∀ c ∈ body.toList, c ∉ Segment.marked := fun c hc => ht c (by simp [hlist, hc])
  have hplain : Balanced body.toList := by
    refine .of_forall fun c hc => ?_
    have hmarked := hbody c hc
    simp only [Segment.marked, List.mem_cons, List.not_mem_nil, or_false, not_or] at hmarked
    exact isPlain_iff.mpr ⟨hmarked.1, hmarked.2.2.2⟩
  have hinner : read body.toList = .ok (verbatim body) := by
    have hread := read_plain hbody []
    rwa [List.append_nil, read_nil, Except.map, foldr_pushChar_nil] at hread
  have haction := read_action (scanAction_print hname hplain (']' :: rest)) hinner
  rw [String.ofList_toList] at haction
  rw [Link.toList_wrap, hlist, List.cons_append, List.cons_append, read_bracket (scanAction_bracket _)]
  simp only [List.append_assoc, List.cons_append, List.nil_append]
  rw [haction, read_char (by decide) (by decide) (by decide) (by decide)]
  cases read rest <;> rfl

/-! ### Whole texts -/

/-- Without titles that begin like actions all of the text is literal. -/
theorem read_of_linked (h : Linked cs ts) (hlike : ∀ t ∈ ts, ¬LikeAction t) :
    read cs = .ok (cs.foldr pushChar []) := by
  induction h with
  | nil => exact read_nil
  | @plain c cs ts hc _ ih =>
    have hread := read_plain (List.forall_mem_singleton.mpr hc) cs
    rw [List.singleton_append, ih hlike] at hread
    exact hread
  | link _ ht _ ih =>
    obtain ⟨hfirst, hrest⟩ := List.forall_mem_cons.mp hlike
    rw [read_wrap ht hfirst, ih hrest, Except.map, List.foldr_append]

/-- However a link is read, what is read behind it goes on from there; and an action of the name and the body is
among the segments if it was before, or if it is what the title begins like. -/
theorem exists_read_wrap (ht : ∀ c ∈ t.toList, c ∉ Segment.marked) (name body : String) (rest : List Char) :
    ∃ f : Template → Template, read ((Link.wrap t).toList ++ rest) = (read rest).map f ∧
      ∀ p, (t = name ++ ":" ++ body ∧ isSymbolName name.toList = true) ∨ .action name (verbatim body) ∈ p →
        .action name (verbatim body) ∈ f p := by
  by_cases htitle : t = name ++ ":" ++ body ∧ isSymbolName name.toList = true
  · refine ⟨_, read_wrap_action ht htitle.1 htitle.2 rest, fun p _ => ?_⟩
    rw [action_mem_pushChar]
    exact List.mem_cons_self ..
  · by_cases hlike : LikeAction t
    · obtain ⟨name', body', htitle', hname'⟩ := hlike
      refine ⟨_, read_wrap_action ht htitle' hname' rest, fun p h => ?_⟩
      rw [action_mem_pushChar, List.mem_cons, action_mem_pushChar]
      exact .inr (h.resolve_left htitle)
    · exact ⟨_, read_wrap ht hlike rest, fun p h => action_mem_foldr_pushChar.mpr (h.resolve_left htitle)⟩

/-- A text of links is always a template, and every title that begins like an action is one in it. -/
theorem exists_read_of_linked (h : Linked cs ts) (name body : String) :
    ∃ p, read cs = .ok p ∧ (name ++ ":" ++ body ∈ ts → isSymbolName name.toList = true →
      .action name (verbatim body) ∈ p) := by
  induction h with
  | nil => exact ⟨[], read_nil, fun h => absurd h List.not_mem_nil⟩
  | @plain c cs ts hc _ ih =>
    obtain ⟨p, hp, haction⟩ := ih
    have hread := read_plain (List.forall_mem_singleton.mpr hc) cs
    rw [List.singleton_append, hp] at hread
    exact ⟨_, hread, fun hmem hname => action_mem_pushChar.mpr (haction hmem hname)⟩
  | @link t cs ts _ ht _ ih =>
    obtain ⟨p, hp, haction⟩ := ih
    obtain ⟨f, hread, hf⟩ := exists_read_wrap ht name body cs
    rw [hp] at hread
    refine ⟨f p, hread, fun hmem hname => hf p ?_⟩
    rcases List.mem_cons.mp hmem with htitle | hmem
    · exact .inl ⟨htitle.symm, hname⟩
    · exact .inr (haction hmem hname)

theorem literal_ne_of_mem_action {s : String} {inner : List Segment} (h : .action name inner ∈ p) :
    p ≠ [.literal s] := by
  rintro rfl
  cases List.mem_singleton.mp h

/-- **Links in templates.** A text of links and plain characters is literal text as a whole exactly when no
title begins with a name and a colon. Each title that does is an action: the template binds the name to what
follows the colon, instead of linking to a note. -/
theorem parse_linked {text : String} {titles : List String} (hne : text ≠ "")
    (h : Linked text.toList titles) :
    (parse text = .ok [.literal text] ↔ ∀ t ∈ titles, ¬LikeAction t) ∧
      ∀ name body, name ++ ":" ++ body ∈ titles → isSymbolName name.toList = true →
        ∃ p, parse text = .ok p ∧ .action name (verbatim body) ∈ p := by
  refine ⟨⟨?_, fun hlike => ?_⟩, fun name body hmem hname => ?_⟩
  · rintro hliteral t ht ⟨name, body, rfl, hname⟩
    obtain ⟨p, hp, haction⟩ := exists_read_of_linked h name body
    exact literal_ne_of_mem_action (haction ht hname) (Except.ok.inj (hp.symm.trans hliteral))
  · rw [parse, read_of_linked h hlike, foldr_pushChar_nil, verbatim, if_neg hne]
  · obtain ⟨p, hp, haction⟩ := exists_read_of_linked h name body
    exact ⟨p, hp, haction hmem hname⟩

theorem LikeAction.colon_mem (h : LikeAction t) : ':' ∈ t.toList := by
  obtain ⟨name, body, rfl, -⟩ := h
  simp [String.toList_append]

theorem linked_wrap (hne : t ≠ "") (ht : (t.toList.all fun c => !Segment.marked.contains c) = true) :
    Linked (Link.wrap t).toList [t] := by
  rw [← List.append_nil (Link.wrap t).toList]
  refine .link hne (fun c hc => ?_) .nil
  simpa using List.all_eq_true.mp ht c hc

theorem linked_project : Linked "[[Project: Alpha]]".toList ["Project: Alpha"] := by
  have hwrap : "[[Project: Alpha]]" = Link.wrap "Project: Alpha" := by decide
  rw [hwrap]
  exact linked_wrap (by decide) (by decide)

/-- A link to a note is literal text, and what looks like one to a title with a colon is an action. -/
theorem parse_linked_notes :
    (Link.wrap "Some Note" ≠ "" ∧ Linked (Link.wrap "Some Note").toList ["Some Note"] ∧
      parse (Link.wrap "Some Note") = .ok [.literal "[[Some Note]]"]) ∧
    ("[[Project: Alpha]]" ≠ "" ∧ Linked "[[Project: Alpha]]".toList ["Project: Alpha"] ∧
      ∃ p, parse "[[Project: Alpha]]" = .ok p ∧ .action "Project" [.literal " Alpha"] ∈ p) := by
  have hnote : Linked (Link.wrap "Some Note").toList ["Some Note"] := linked_wrap (by decide) (by decide)
  have hlike : ∀ t ∈ ["Some Note"], ¬LikeAction t := by
    intro t ht hlike
    rw [List.mem_singleton.mp ht] at hlike
    exact absurd hlike.colon_mem (by decide)
  have haction := (parse_linked (by decide) linked_project).2 "Project" " Alpha" (by decide) (by decide)
  exact ⟨⟨by decide, hnote, (parse_linked (by decide) hnote).1.mpr hlike⟩,
    ⟨by decide, linked_project, haction⟩⟩

/-- Not every link is literal text: a title with a colon after its first word is enough. -/
theorem not_forall_parse_linked :
    ¬∀ (text : String) (titles : List String), text ≠ "" → Linked text.toList titles →
      parse text = .ok [.literal text] := by
  intro h
  obtain ⟨p, hp, haction⟩ := exists_read_of_linked linked_project "Project" " Alpha"
  have hliteral := h "[[Project: Alpha]]" _ (by decide) linked_project
  exact literal_ne_of_mem_action (haction (by decide) (by decide)) (Except.ok.inj (hp.symm.trans hliteral))

end NoteMuse.Template
