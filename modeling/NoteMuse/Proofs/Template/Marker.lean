import NoteMuse.Proofs.Template.Brackets
import NoteMuse.Proofs.Template.RoundTrip

/-!
Calls inside actions. A text that is read as a call by itself is read as the same call as the body of an
action if its brackets are matched. If they are not, the template is malformed: the search for the end of the
action counts the brackets in text arguments too, although the arguments stand between quotes. Main statement:
`parse_action_marker`.
-/

namespace NoteMuse

open Text

namespace Template

variable {cs name : List Char} {c : Call}

theorem read_marker (h : Call.scan cs = .ok (some (c, []))) : read ('$' :: cs) = .ok [.call c] := by
  rw [read_call h, dropHash_eq_self (by decide), read_nil]
  rfl

/-- A call with matched brackets is the body of an action. -/
theorem read_action_of_matched (hname : isSymbolName name = true) (h : Call.scan cs = .ok (some (c, [])))
    (hmatched : Matched ('$' :: cs)) :
    read ('[' :: (name ++ ':' :: ('$' :: cs ++ [']']))) = .ok [.action (String.ofList name) [.call c]] := by
  rw [read_action (scanAction_print hname hmatched.balanced []) (read_marker h), read_nil]
  rfl

/-- Other calls are none: the body of the action is a part of the call, or the action has no end. -/
theorem exists_error_of_not_matched (hname : isSymbolName name = true)
    (h : Call.scan cs = .ok (some (c, []))) (hmatched : ¬Matched ('$' :: cs)) :
    ∃ e, read ('[' :: (name ++ ':' :: ('$' :: cs ++ [']']))) = .error e := by
  have hscan := scanAction_append hname ('$' :: cs ++ [']'])
  cases hread : readBracketed 0 ('$' :: cs ++ [']']) with
  | none =>
    rw [hread] at hscan
    exact ⟨_, read_action_error hscan⟩
  | some p =>
    obtain ⟨body, after⟩ := p
    rw [hread] at hscan
    obtain ⟨hbody, hcs⟩ := readBracketed_eq_some_iff.mp hread
    rcases List.eq_nil_or_concat' after with rfl | ⟨more, x, rfl⟩
    · obtain rfl := List.append_cancel_right hcs
      exact absurd hbody hmatched
    · have hsplit : body ++ ']' :: (more ++ [x]) = body ++ ']' :: more ++ [x] := by simp
      rw [hsplit] at hcs
      obtain ⟨hcs, -⟩ := List.append_inj' hcs rfl
      cases body with
      | nil => cases hcs
      | cons d body =>
        -- the body begins like the call and does not come to its end
        obtain ⟨rfl, rfl⟩ := List.cons.inj hcs
        obtain ⟨e, he⟩ := Call.exists_error_of_scan_append rfl (by decide) (by decide) h
        exact ⟨_, read_action_body_error hscan (read_call_error he)⟩

/-- **A call as the body of an action.** What is a call by itself is the same call as the body of an action
exactly when its brackets are matched, and otherwise the template is malformed. -/
theorem parse_action_marker {m name : String} {c : Call} (htrim : trim m.toList = m.toList)
    (hm : Call.parse m = .ok c) (hname : isSymbolName name.toList = true) :
    (parse ("[" ++ name ++ ":" ++ m ++ "]") = .ok [.action name [.call c]] ↔ Matched m.toList) ∧
      ((∃ e, parse ("[" ++ name ++ ":" ++ m ++ "]") = .error e) ↔ ¬Matched m.toList) := by
  obtain ⟨cs, hcs, hscan⟩ := Call.parse_eq_ok_iff.mp hm
  rw [htrim] at hcs
  have htext : ("[" ++ name ++ ":" ++ m ++ "]").toList =
      '[' :: (name.toList ++ ':' :: ('$' :: cs ++ [']'])) := by
    simp [String.toList_append, hcs]
  rw [parse, htext, hcs]
  by_cases hmatched : Matched ('$' :: cs)
  · have hok := read_action_of_matched hname hscan hmatched
    rw [String.ofList_toList] at hok
    rw [hok]
    simp [hmatched]
  · obtain ⟨e, he⟩ := exists_error_of_not_matched hname hscan hmatched
    rw [he]
    simp [hmatched]

/-- A call whose argument holds matched brackets. -/
theorem parse_action_marker_link :
    trim "$a.b(\"[x]\")".toList = "$a.b(\"[x]\")".toList ∧
      Call.parse "$a.b(\"[x]\")" = .ok ⟨"a", "b", [.text "[x]"]⟩ ∧
      parse "[n:$a.b(\"[x]\")]" = .ok [.action "n" [.call ⟨"a", "b", [.text "[x]"]⟩]] := by
  have htrim : trim "$a.b(\"[x]\")".toList = "$a.b(\"[x]\")".toList := by decide
  have hm : Call.parse "$a.b(\"[x]\")" = .ok ⟨"a", "b", [.text "[x]"]⟩ := by
    refine Call.parse_eq_ok_iff.mpr ⟨_, htrim, Call.scan_eq_some_iff.mpr ⟨by decide, by decide, ?_⟩⟩
    refine ⟨"\"[x]\")".toList, rfl, ?_⟩
    rw [Call.readArgs_eq]
    rfl
  have hname : isSymbolName "n".toList = true := by decide
  exact ⟨htrim, hm, (parse_action_marker htrim hm hname).1.mpr (by decide)⟩

/-- Not every call is the body of an action: one bracket in a text argument is enough. -/
theorem not_forall_parse_action_marker :
    ¬∀ (m name : String) (c : Call), trim m.toList = m.toList → Call.parse m = .ok c →
      isSymbolName name.toList = true →
        parse ("[" ++ name ++ ":" ++ m ++ "]") = .ok [.action name [.call c]] := by
  intro h
  have htrim : trim "$a.b(\"]\")".toList = "$a.b(\"]\")".toList := by decide
  have hscan : Call.scan "a.b(\"]\")".toList = .ok (some (⟨"a", "b", [.text "]"]⟩, [])) := by
    refine Call.scan_eq_some_iff.mpr ⟨by decide, by decide, "\"]\")".toList, rfl, ?_⟩
    rw [Call.readArgs_eq]
    rfl
  have hm : Call.parse "$a.b(\"]\")" = .ok ⟨"a", "b", [.text "]"]⟩ :=
    Call.parse_eq_ok_iff.mpr ⟨_, htrim, hscan⟩
  have hname : isSymbolName "n".toList = true := by decide
  obtain ⟨e, he⟩ := exists_error_of_not_matched hname hscan (by decide)
  have hok := h "$a.b(\"]\")" "n" _ htrim hm hname
  cases he.symm.trans hok

end Template

end NoteMuse
