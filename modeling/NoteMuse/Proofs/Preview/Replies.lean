import NoteMuse.Preview.CommandLine
import NoteMuse.Proofs.Preview.Session
import NoteMuse.Proofs.Text.Blank
import NoteMuse.Proofs.Text.Split

/-!
The replies of a shell to the lines of a script. What the shell prints is its prompts and these replies; a
command that only shows something leaves the shell as it is, so that it may be put into a script anywhere
without a change to the other replies. Main statements: `answers_eq`, `replies_original`.
-/

namespace NoteMuse.Preview

open Decimal Text

/-! ### Lines as they are typed -/

theorem isWord_toString (n : Nat) : IsWord (toString n) := by
  have hlist : (toString n).toList = digits n := String.toList_ofList
  refine ⟨hlist ▸ digits_ne_nil n, List.all_eq_true.mpr fun c hc => ?_⟩
  rw [isBlank_of_isDigit (isDigit_of_mem_digits (hlist ▸ hc))]
  rfl

theorem fields_word_number {w : String} (h : IsWord w) (n : Nat) :
    fields (w ++ " " ++ toString n) = [w, toString n] := by
  rw [h.fields_append, (isWord_toString n).fields_eq]

theorem Command.ofLine_seed (seed : SessionSeed) :
    Command.ofLine ("seed " ++ seed.text) = .seed (some seed) := by
  have hfields : fields ("seed " ++ seed.text) = ["seed", seed.text] :=
    fields_word_number (w := "seed") ⟨by decide, by decide⟩ _
  have hlower : String.ofList (lower "seed".toList) = "seed" := by decide
  have hread : readSeed? seed.text = some seed := by
    rw [readSeed?, SessionSeed.text, readCount?_toString seed.value.toNat_lt, Option.map_some]
    simp
  unfold Command.ofLine
  simp only [hfields, hlower, List.head?_cons, Option.bind_some, hread]

theorem Command.ofLine_expand {n : Nat} (h : n < UInt64.size) :
    Command.ofLine ("expand " ++ toString n) = .expand n := by
  have hfields : fields ("expand " ++ toString n) = ["expand", toString n] :=
    fields_word_number (w := "expand") ⟨by decide, by decide⟩ n
  have hlower : String.ofList (lower "expand".toList) = "expand" := by decide
  unfold Command.ofLine
  simp only [hfields, hlower, List.head?_cons, Option.bind_some, readCount?_toString h, Option.getD_some]

theorem Command.ofLine_session : Command.ofLine "session" = .session := by
  have hfields : fields "session" = ["session"] := IsWord.fields_eq ⟨by decide, by decide⟩
  have hlower : String.ofList (lower "session".toList) = "session" := by decide
  unfold Command.ofLine
  simp only [hfields, hlower]

theorem Command.ofLine_help : Command.ofLine "help" = .help := by
  have hfields : fields "help" = ["help"] := IsWord.fields_eq ⟨by decide, by decide⟩
  have hlower : String.ofList (lower "help".toList) = "help" := by decide
  unfold Command.ofLine
  simp only [hfields, hlower]

/-! ### Replies -/

namespace Shell

/-- The replies to lines one after another, up to the one that ends the shell, and the fault by which it
breaks off. -/
def replies (s : Shell) : List String → List (List Line) × Option Fault
  | [] => ([], none)
  | line :: rest =>
    match s.run (Command.ofLine line) with
    | .error f => ([], some f)
    | .ok (s, reply) =>
      if Command.ofLine line = .quit then ([reply], none)
      else (reply :: (s.replies rest).1, (s.replies rest).2)

end Shell

def replyText (reply : List Line) : String :=
  prompt ++ String.join (reply.map fun l => l.render ++ "\n")

/-- What a shell prints is its replies, and one more prompt: it waits for a line, or for the answer that a fault
keeps it from. There is none after the line that ends the shell. -/
theorem answers_eq (s : Shell) (lines : List String) :
    answers s lines =
      (String.join ((s.replies lines).1.map replyText) ++
          (if (s.replies lines).2 = none ∧ .quit ∈ lines.map Command.ofLine then "" else prompt),
        (s.replies lines).2) := by
  induction lines generalizing s with
  | nil => rfl
  | cons line rest ih =>
    rw [answers, Shell.replies]
    rcases s.run (Command.ofLine line) with f | ⟨s', reply⟩
    · rfl
    · by_cases hquit : Command.ofLine line = .quit
      · simp [hquit, replyText]
      · simp only [if_neg hquit, ih s', List.map_cons, List.mem_cons, Ne.symm hquit, false_or,
          String.join_cons, String.append_assoc, replyText]

namespace Shell

/-! ### Commands that only show something -/

/-- The command only shows something of a geist with this grammar, or it is refused. -/
inductive Idle (g : Grammar) : Command → Prop
  | blank : Idle g .blank
  | help : Idle g .help
  | session : Idle g .session
  | symbols : Idle g .symbols
  | unknown (word : String) : Idle g (.unknown word)
  | badSeed : Idle g (.seed none)
  | noSymbol : Idle g (.symbol none)
  | unknownSymbol {name : String} (h : name ∉ g.names) : Idle g (.symbol (some name))

variable {s s' : Shell} {c : Command}

theorem Idle.ne_quit {g : Grammar} (h : Idle g c) : c ≠ .quit := by
  rintro rfl
  cases h

theorem Idle.run_eq (h : Idle s.grammar c) (hid : ¬Unnameable s.id) : ∃ reply, s.run c = .ok (s, reply) := by
  cases h with
  | session =>
    rw [run, session_eq, if_neg hid]
    exact ⟨_, rfl⟩
  | unknownSymbol hname =>
    rw [run, symbol, if_neg (by simpa using hname)]
    exact ⟨_, rfl⟩
  | blank | help | symbols | unknown | badSeed | noSymbol => exact ⟨_, rfl⟩

/-- No command changes the geist. -/
theorem run_same {reply : List Line} (h : s.run c = .ok (s', reply)) :
    s'.id = s.id ∧ s'.grammar = s.grammar := by
  cases c with
  | expand n =>
    unfold run expand at h
    simp only at h
    split at h <;> cases h
    · exact ⟨rfl, rfl⟩
    · exact ⟨rfl, rfl⟩
  | symbol name =>
    cases name with
    | none =>
      cases h
      exact ⟨rfl, rfl⟩
    | some name =>
      unfold run symbol at h
      simp only at h
      split at h
      · split at h <;> cases h
        · exact ⟨rfl, rfl⟩
        · exact ⟨rfl, rfl⟩
      · cases h
        exact ⟨rfl, rfl⟩
  | seed seed =>
    cases seed <;> cases h <;> exact ⟨rfl, rfl⟩
  | session =>
    obtain ⟨lines, -, he⟩ := map_eq_ok_iff.mp h
    cases he
    exact ⟨rfl, rfl⟩
  | blank | quit | help | symbols | unknown =>
    cases h
    exact ⟨rfl, rfl⟩

/-! ### Scripts with lines put in -/

/-- A line of a script, and whether it was put in. -/
structure ScriptLine where
  text : String
  inserted : Bool

def original (script : List ScriptLine) : List String :=
  (script.filter fun l => !l.inserted).map ScriptLine.text

/-- The replies to the lines that were not put in, of the replies to all lines. -/
def repliesToOriginal (script : List ScriptLine) (replies : List (List Line)) : List (List Line) :=
  ((script.zip replies).filter fun p => !p.1.inserted).map Prod.snd

/-- **Lines that only show something change no other reply**, wherever they are put in, when a worker can have
the id of the geist as its name. -/
theorem replies_original (hid : ¬Unnameable s.id) {script : List ScriptLine}
    (h : ∀ l ∈ script, l.inserted = true → Idle s.grammar (Command.ofLine l.text)) :
    s.replies (original script) =
      (repliesToOriginal script (s.replies (script.map ScriptLine.text)).1,
        (s.replies (script.map ScriptLine.text)).2) := by
  induction script generalizing s with
  | nil => rfl
  | cons l script ih =>
    obtain ⟨hl, hrest⟩ := List.forall_mem_cons.mp h
    cases hins : l.inserted with
    | true =>
      -- a line that was put in leaves the shell as it is, and its reply is not counted
      obtain ⟨reply, hrun⟩ := (hl hins).run_eq hid
      have hquit := (hl hins).ne_quit
      have horiginal : original (l :: script) = original script := by
        rw [original, List.filter_cons_of_neg (by simp [hins])]
        rfl
      rw [horiginal, ih hid hrest, List.map_cons, replies, hrun]
      simp only [if_neg hquit]
      simp [repliesToOriginal, hins]
    | false =>
      have horiginal : original (l :: script) = l.text :: original script := by
        rw [original, List.filter_cons_of_pos (by simp [hins]), List.map_cons]
        rfl
      rw [horiginal, List.map_cons, replies, replies]
      rcases hrun : s.run (Command.ofLine l.text) with f | ⟨s', reply⟩
      · rfl
      -- whether a line only shows something is a matter of the grammar, which no command changes
      · obtain ⟨hid', hg⟩ := run_same hrun
        simp only
        by_cases hquit : Command.ofLine l.text = .quit
        · simp [hquit, repliesToOriginal, hins]
        · rw [if_neg hquit, if_neg hquit, ih (hid' ▸ hid) (hg ▸ hrest)]
          simp [repliesToOriginal, hins]

end Shell

end NoteMuse.Preview
