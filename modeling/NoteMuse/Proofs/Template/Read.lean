import NoteMuse.Template.Reader

/-!
One step of reading a template, by the character at the front, and induction over a template into the
bodies of its actions.
-/

namespace NoteMuse

open Text

/-! ### Induction -/

/-- Induction over a template that goes into actions: what holds of the body of an action and of what
follows the action holds of both together. -/
@[elab_as_elim]
theorem Template.induction {motive : Template → Prop} (nil : motive [])
    (literal : ∀ s rest, motive rest → motive (.literal s :: rest))
    (reference : ∀ symbol steps rest, motive rest → motive (.reference symbol steps :: rest))
    (call : ∀ c rest, motive rest → motive (.call c :: rest))
    (action : ∀ name body rest, motive body → motive rest → motive (.action name body :: rest)) :
    ∀ t, motive t
  | [] => nil
  | .literal s :: rest => literal s rest (Template.induction nil literal reference call action rest)
  | .reference symbol steps :: rest =>
    reference symbol steps rest (Template.induction nil literal reference call action rest)
  | .call c :: rest => call c rest (Template.induction nil literal reference call action rest)
  | .action name body :: rest =>
    action name body rest (Template.induction nil literal reference call action body)
      (Template.induction nil literal reference call action rest)

/-! ### The text of an action -/

theorem readBracketed_backslash (depth : Nat) (c : Char) (rest : List Char) :
    readBracketed depth ('\\' :: c :: rest) =
      (readBracketed depth rest).map fun p => ('\\' :: c :: p.1, p.2) := by
  rw [readBracketed]

theorem readBracketed_char {c : Char} (hb : c ≠ '\\') (ho : c ≠ '[') (hc : c ≠ ']') (depth : Nat)
    (rest : List Char) :
    readBracketed depth (c :: rest) =
      (readBracketed depth rest).map fun p => (c :: p.1, p.2) := by
  cases depth with
  | zero => rw [readBracketed.eq_4 _ _ (by grind) (by grind), if_neg hc, if_neg ho]
  | succ d => rw [readBracketed.eq_5 _ _ _ (by grind) (by grind), if_neg hc, if_neg ho]

theorem readBracketed_open (depth : Nat) (rest : List Char) :
    readBracketed depth ('[' :: rest) =
      (readBracketed (depth + 1) rest).map fun p => ('[' :: p.1, p.2) := by
  cases depth with
  | zero => rw [readBracketed.eq_4 _ _ (by grind) (by grind), if_neg (by decide), if_pos rfl]
  | succ d => rw [readBracketed.eq_5 _ _ _ (by grind) (by grind), if_neg (by decide), if_pos rfl]

theorem readBracketed_close (depth : Nat) (rest : List Char) :
    readBracketed (depth + 1) (']' :: rest) =
      (readBracketed depth rest).map fun p => (']' :: p.1, p.2) := by
  rw [readBracketed.eq_5 _ _ _ (by grind) (by grind), if_pos rfl]

theorem readBracketed_end (rest : List Char) : readBracketed 0 (']' :: rest) = some ([], rest) := by
  rw [readBracketed.eq_4 _ _ (by grind) (by grind), if_pos rfl]

/-! ### Steps of reading -/

namespace Template

theorem read_nil : read [] = .ok [] := by rw [read]

theorem read_backslash (c : Char) (rest : List Char) :
    read ('\\' :: c :: rest) = (read rest).map (pushChar c) := by rw [read]

/-- A character with no meaning of its own is literal text. -/
theorem read_char {c : Char} (hb : c ≠ '\\') (hh : c ≠ '#') (hd : c ≠ '$') (ha : c ≠ '[')
    (rest : List Char) : read (c :: rest) = (read rest).map (pushChar c) := by
  rw [read.eq_3 _ _ (by grind), if_neg hh, if_neg hd, if_neg ha]

theorem read_reference {rest content after : List Char} {s : Segment}
    (hc : cutAt ['#'] rest = some (content, after)) (hs : Segment.readReference content = .ok s) :
    read ('#' :: rest) = (read after).map (s :: ·) := by
  rw [read.eq_3 _ _ (by grind), if_pos rfl]
  split
  · next hn => rw [hc] at hn; cases hn
  · next hn =>
    rw [hc] at hn
    cases hn
    simp only [hs]

theorem read_call {rest after : List Char} {c : Call}
    (hc : Call.scan rest = .ok (some (c, after))) :
    read ('$' :: rest) = (read (dropHash after)).map (.call c :: ·) := by
  rw [read.eq_3 _ _ (by grind), if_neg (by decide), if_pos rfl]
  split
  · next hn => rw [hc] at hn; cases hn
  · next hn => rw [hc] at hn; cases hn; rfl
  · next hn => rw [hc] at hn; cases hn

theorem read_call_error {rest : List Char} {e : CallError} (hc : Call.scan rest = .error e) :
    read ('$' :: rest) = .error (.malformedCall e) := by
  rw [read.eq_3 _ _ (by grind), if_neg (by decide), if_pos rfl]
  split
  · next hn => rw [hc] at hn; cases hn; rfl
  · next hn => rw [hc] at hn; cases hn
  · next hn => rw [hc] at hn; cases hn

theorem read_action {rest : List Char} {a : RawAction} {body : Template}
    (ha : scanAction rest = .ok (some a)) (hb : read a.body = .ok body) :
    read ('[' :: rest) = (read a.after).map (.action (String.ofList a.name) body :: ·) := by
  rw [read.eq_3 _ _ (by grind), if_neg (by decide), if_neg (by decide), if_pos rfl]
  split
  · next hn => rw [ha] at hn; cases hn
  · next hn =>
    rw [ha] at hn
    cases hn
    simp only [hb]
  · next hn => rw [ha] at hn; cases hn

theorem read_bracket {rest : List Char} (ha : scanAction rest = .ok none) :
    read ('[' :: rest) = (read rest).map (pushChar '[') := by
  rw [read.eq_3 _ _ (by grind), if_neg (by decide), if_neg (by decide), if_pos rfl]
  split
  · next hn => rw [ha] at hn; cases hn
  · next hn => rw [ha] at hn; cases hn
  · rfl

theorem read_action_error {rest : List Char} {e : TemplateError} (ha : scanAction rest = .error e) :
    read ('[' :: rest) = .error e := by
  rw [read.eq_3 _ _ (by grind), if_neg (by decide), if_neg (by decide), if_pos rfl]
  split
  · next hn => rw [ha] at hn; cases hn; rfl
  · next hn => rw [ha] at hn; cases hn
  · next hn => rw [ha] at hn; cases hn

theorem read_action_body_error {rest : List Char} {a : RawAction} {e : TemplateError}
    (ha : scanAction rest = .ok (some a)) (hb : read a.body = .error e) :
    read ('[' :: rest) = .error e := by
  rw [read.eq_3 _ _ (by grind), if_neg (by decide), if_neg (by decide), if_pos rfl]
  split
  · next hn => rw [ha] at hn; cases hn
  · next hn =>
    rw [ha] at hn
    cases hn
    simp only [hb]
  · next hn => rw [ha] at hn; cases hn

end Template

end NoteMuse
