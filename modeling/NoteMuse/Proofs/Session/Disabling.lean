import Mathlib.Data.List.Induction
import NoteMuse.Proofs.Session.Run

/-!
When a geist is disabled. In a run of sessions and resets the counter of a geist is the length of its
streak of failures, which is read off from what happened to it; the turn that brings the streak up to the
threshold disables the geist, and nothing but a reset happens to it afterwards. The invariant is
`Tracked`; main statement: `guarded_run`.
-/

namespace NoteMuse

open Geist

/-! ### Streaks -/

/-- The geist took a turn and failed. -/
def Mark.failed : Mark → Bool
  | .turn o _ => o.failureMessage?.isSome
  | .reset => false

/-- The geist took a turn that disabled it. -/
def Mark.disabling : Mark → Bool
  | .turn _ disables => disables
  | .reset => false

/-- The number of failures since the last success or reset. Where there was neither, the `n` failures
count that came before. -/
def streak (n : Nat) (marks : List Mark) : Nat :=
  (marks.reverse.takeWhile Mark.failed).length + if marks.all Mark.failed then n else 0

section Streak

variable {n : Nat} {marks : List Mark} {m : Mark}

theorem streak_concat_failed (h : m.failed = true) : streak n (marks ++ [m]) = streak n marks + 1 := by
  unfold streak
  simp only [List.reverse_append, List.reverse_singleton, List.singleton_append, List.takeWhile_cons,
    h, if_true, List.length_cons, List.all_append, List.all_cons, List.all_nil, Bool.and_true]
  omega

theorem streak_concat_of_not_failed (h : m.failed = false) : streak n (marks ++ [m]) = 0 := by
  unfold streak
  simp [h]

theorem streak_append_reset (n : Nat) (marks more : List Mark) :
    streak n (marks ++ .reset :: more) = streak 0 more := by
  induction more using List.reverseRecOn with
  | nil => rw [streak_concat_of_not_failed rfl]; rfl
  | append_singleton more m ih =>
    have hsplit : marks ++ .reset :: (more ++ [m]) = marks ++ .reset :: more ++ [m] := by simp
    rw [hsplit]
    cases h : m.failed with
    | false => rw [streak_concat_of_not_failed h, streak_concat_of_not_failed h]
    | true => rw [streak_concat_failed h, streak_concat_failed h, ih]

end Streak

theorem concat_eq_append_cons {marks pre post : List Mark} {m x : Mark}
    (h : marks ++ [m] = pre ++ x :: post) :
    (pre = marks ∧ x = m ∧ post = []) ∨ ∃ post', post = post' ++ [m] ∧ marks = pre ++ x :: post' := by
  induction post using List.reverseRecOn with
  | nil =>
    obtain ⟨rfl, hm⟩ := List.append_inj' h rfl
    cases hm
    exact .inl ⟨rfl, rfl, rfl⟩
  | append_singleton post' y _ =>
    have hassoc : pre ++ x :: (post' ++ [y]) = pre ++ x :: post' ++ [y] := by simp
    rw [hassoc] at h
    obtain ⟨hmarks, hm⟩ := List.append_inj' h rfl
    cases hm
    exact .inr ⟨post', rfl, hmarks⟩

/-! ### The invariant -/

/-- How the descriptor of a geist goes with what happened to it, after `n` failures in a row. -/
structure Tracked (threshold : UInt32) (n : Nat) (marks : List Mark) (d : Descriptor) : Prop where
  counted : d.failures.toNat = streak n marks
  below : d.enabled = true → d.failures < threshold
  /-- A geist is disabled exactly by its last turn. -/
  disabled_iff : d.enabled = false ↔ ∃ pre o, marks = pre ++ [.turn o true]
  disables_iff : ∀ pre o b post, marks = pre ++ .turn o b :: post →
    (b = true ↔ o.failureMessage?.isSome = true ∧
      streak n (pre ++ [.turn o b]) = threshold.toNat)
  /-- Nothing but a reset follows upon a turn that disables. -/
  quiet : ∀ pre o post, marks = pre ++ .turn o true :: post → post = [] ∨ ∃ more, post = .reset :: more

namespace Tracked

variable {threshold : UInt32} {n : Nat} {marks : List Mark} {d : Descriptor}

theorem start (he : d.enabled = true) (hf : d.failures < threshold) :
    Tracked threshold d.failures.toNat [] d where
  counted := by simp [streak]
  below := fun _ => hf
  disabled_iff := by simp [he]
  disables_iff := by simp
  quiet := by simp

/-- One more mark. A disabled geist can only be reset. -/
theorem concat (h : Tracked threshold n marks d) {m : Mark} {d' : Descriptor}
    (hm : d.enabled = false → m = .reset) (hcounted : d'.failures.toNat = streak n (marks ++ [m]))
    (hbelow : d'.enabled = true → d'.failures < threshold)
    (hdisabled : d'.enabled = false ↔ ∃ o, m = .turn o true)
    (hdisables : ∀ o b, m = .turn o b → (b = true ↔ o.failureMessage?.isSome = true ∧
      streak n (marks ++ [m]) = threshold.toNat)) :
    Tracked threshold n (marks ++ [m]) d' where
  counted := hcounted
  below := hbelow
  disabled_iff := by
    rw [hdisabled]
    constructor
    · rintro ⟨o, rfl⟩
      exact ⟨marks, o, rfl⟩
    · rintro ⟨pre, o, hsplit⟩
      obtain ⟨-, hm⟩ := List.append_inj' hsplit rfl
      exact ⟨o, List.singleton_inj.mp hm⟩
  -- a turn is the new mark, or it stands among the marks before
  disables_iff := by
    intro pre o b post hsplit
    rcases concat_eq_append_cons hsplit with ⟨rfl, rfl, rfl⟩ | ⟨post', rfl, hmarks⟩
    · exact hdisables o b rfl
    · exact h.disables_iff pre o b post' hmarks
  quiet := by
    intro pre o post hsplit
    rcases concat_eq_append_cons hsplit with ⟨-, -, rfl⟩ | ⟨post', rfl, hmarks⟩
    · exact .inl rfl
    · rcases h.quiet pre o post' hmarks with rfl | ⟨more, rfl⟩
      · -- the geist was disabled before the new mark
        rw [hm (h.disabled_iff.mpr ⟨pre, o, hmarks⟩)]
        exact .inr ⟨[], rfl⟩
      · exact .inr ⟨more ++ [m], rfl⟩

theorem success (hT : 1 ≤ threshold) (h : Tracked threshold n marks d) (he : d.enabled = true)
    {o : Outcome} (ho : o.failureMessage? = none) :
    Tracked threshold n (marks ++ [.turn o false]) d.recordSuccess := by
  have hstreak : streak n (marks ++ [.turn o false]) = 0 :=
    streak_concat_of_not_failed (by simp [Mark.failed, ho])
  refine h.concat (by simp [he]) hstreak.symm (fun _ => ?_) (by simp [Descriptor.recordSuccess, he]) ?_
  · rw [UInt32.lt_iff_toNat_lt]
    rw [UInt32.le_iff_toNat_le] at hT
    exact hT
  · rintro o' b hm
    cases hm
    simp [ho]

theorem failure (h : Tracked threshold n marks d) (he : d.enabled = true) {o : Outcome} {m : String}
    (ho : o.failureMessage? = some m) :
    Tracked threshold n (marks ++ [.turn o (d.recordFailure m threshold).2])
      (d.recordFailure m threshold).1 := by
  have hlt : d.failures.toNat < threshold.toNat := UInt32.lt_iff_toNat_lt.mp (h.below he)
  have hmax : threshold.toNat < UInt32.size := threshold.toNat_lt
  -- below the threshold the counter does not come to its end
  have hmore : (oneMore d.failures).toNat = d.failures.toNat + 1 := by
    rw [toNat_oneMore]
    omega
  have hstreak : streak n (marks ++ [.turn o (d.recordFailure m threshold).2]) =
      d.failures.toNat + 1 := by
    rw [streak_concat_failed (by simp [Mark.failed, ho]), h.counted]
  have hflag : (d.recordFailure m threshold).2 = true ↔ d.failures.toNat + 1 = threshold.toNat := by
    simp only [Descriptor.recordFailure, he, Bool.true_and, decide_eq_true_eq,
      UInt32.le_iff_toNat_le, hmore]
    omega
  have henabled : (d.recordFailure m threshold).1.enabled = !(d.recordFailure m threshold).2 := by
    simp only [Descriptor.recordFailure, he, Bool.true_and]
  refine h.concat (by simp [he]) (by rw [hstreak]; exact hmore) ?_ ?_ ?_
  · intro hn
    rw [henabled, Bool.not_eq_true', Bool.eq_false_iff, ne_eq, hflag] at hn
    show oneMore d.failures < threshold
    rw [UInt32.lt_iff_toNat_lt, hmore]
    omega
  · simp [henabled]
  · rintro o' b hm
    cases hm
    rw [hflag, hstreak, ho]
    simp

theorem reset (hT : 1 ≤ threshold) (h : Tracked threshold n marks d) :
    Tracked threshold n (marks ++ [.reset]) { d.recordSuccess with enabled := true } := by
  have hstreak : streak n (marks ++ [.reset]) = 0 := streak_concat_of_not_failed rfl
  refine h.concat (fun _ => rfl) hstreak.symm (fun _ => ?_) (by simp) (by simp)
  rw [UInt32.lt_iff_toNat_lt]
  rw [UInt32.le_iff_toNat_le] at hT
  exact hT

/-- Where the geist is not reset, at most one turn disables it. -/
theorem countP_disabling_le_one (h : Tracked threshold n marks d) (pre part post : List Mark)
    (hmarks : marks = pre ++ part ++ post) (hreset : .reset ∉ part) :
    part.countP Mark.disabling ≤ 1 := by
  induction part generalizing pre with
  | nil => exact Nat.zero_le 1
  | cons m part ih =>
    rw [List.mem_cons, not_or] at hreset
    cases hm : m.disabling with
    | false =>
      rw [List.countP_cons_of_neg (by simp [hm])]
      exact ih (pre ++ [m]) (by simp [hmarks]) hreset.2
    | true =>
      -- nothing but a reset follows a turn that disables, and this part has none
      have hnil : part = [] := by
        cases m with
        | reset => cases hm
        | turn o b =>
          cases hm
          rcases h.quiet pre o (part ++ post) (by simp [hmarks]) with hq | ⟨more, hq⟩
          · exact (List.append_eq_nil_iff.mp hq).1
          · cases part with
            | nil => rfl
            | cons x part =>
              obtain ⟨rfl, -⟩ := List.cons.inj hq
              exact absurd (List.mem_cons_self ..) hreset.2
      rw [hnil, List.countP_singleton]
      split <;> omega

end Tracked

namespace Scheduler

variable {s : Scheduler} {g : String} {r : Registry} {e : Entry}

theorem Changes.tracked (hT : 1 ≤ s.failureThreshold) {n : Nat} {marks : List Mark}
    (h : Tracked s.failureThreshold n marks e.descriptor) {m : Option Mark} {e' : Entry}
    (hc : Changes s e m e') :
    Tracked s.failureThreshold n (marks ++ m.toList) e'.descriptor := by
  cases hc with
  | none => rwa [Option.toList_none, List.append_nil]
  | reset hrun => exact h.reset hT
  | turn o hd =>
    have he : e.descriptor.enabled = true := (Bool.and_eq_true_iff.mp hd).1
    simp only [disables, entryAfter, afterTurn, Option.toList_some]
    cases ho : o.failureMessage? with
    | none => exact h.success hT he ho
    | some m => exact h.failure he ho

theorem Changes.source_eq {m : Option Mark} {e' : Entry} (hc : Changes s e m e') :
    e'.source = e.source := by
  cases hc <;> rfl

theorem tracked_run (hT : 1 ≤ s.failureThreshold) (he : r.lookup? g = some e)
    (henabled : e.descriptor.enabled = true) (hlt : e.descriptor.failures < s.failureThreshold)
    (es : List Event) :
    ∃ e', (s.run r es).lookup? g = some e' ∧ e'.source = e.source ∧
      Tracked s.failureThreshold e.descriptor.failures.toNat (s.history g r es) e'.descriptor := by
  induction es using List.reverseRecOn with
  | nil => exact ⟨e, he, rfl, Tracked.start henabled hlt⟩
  | append_singleton es ev ih =>
    obtain ⟨e₁, he₁, hsource, htracked⟩ := ih
    obtain ⟨e₂, he₂, hc⟩ := changes_after (s := s) he₁ ev
    rw [run_concat, history_concat]
    exact ⟨e₂, he₂, hc.source_eq.trans hsource, hc.tracked hT htracked⟩

/-! ### Disabled geists -/

theorem eq_reset_of_mark? {ev : Event} (h : s.mark? g r ev = some .reset) : ev = .reset g := by
  cases ev with
  | session seed =>
    unfold mark? at h
    simp only at h
    split at h <;> cases h
  | reset id =>
    unfold mark? at h
    simp only at h
    split at h
    · split at h
      · next hid => rw [hid]
      · cases h
    · cases h

/-- Nothing happens to a disabled geist until it is reset. -/
theorem run_of_disabled (he : r.lookup? g = some e) (hd : e.descriptor.enabled = false)
    {es : List Event} (hes : .reset g ∉ es) :
    s.history g r es = [] ∧ (s.run r es).lookup? g = some e := by
  induction es generalizing r with
  | nil => exact ⟨rfl, he⟩
  | cons ev es ih =>
    rw [List.mem_cons, not_or] at hes
    obtain ⟨e', he', hc⟩ := changes_after (s := s) he ev
    -- a disabled geist is not due, so nothing but its reset could change it
    have hnone : s.mark? g r ev = none ∧ e' = e := by
      cases hm : s.mark? g r ev with
      | none =>
        rw [hm] at hc
        cases hc
        exact ⟨rfl, rfl⟩
      | some m =>
        rw [hm] at hc
        cases hc with
        | turn o hdue =>
          rw [Entry.due, hd] at hdue
          cases hdue
        | reset => exact absurd (eq_reset_of_mark? hm).symm hes.1
    rw [history, hnone.1, Option.toList_none, List.nil_append]
    rw [hnone.2] at he'
    exact ih he' hes.2

/-- How a geist stands at some point of a run, after `n` failures in a row before it and with these
marks in it. -/
structure Guarded (s : Scheduler) (g : String) (n : Nat) (marks : List Mark) (r : Registry)
    (e : Entry) : Prop where
  entry : r.lookup? g = some e
  below : e.descriptor.enabled = true → e.descriptor.failures < s.failureThreshold
  counted : e.descriptor.failures.toNat = streak n marks
  /-- A turn disables the geist exactly when it fails as the last of a streak as long as the threshold. -/
  disables_iff : ∀ pre o b post, marks = pre ++ .turn o b :: post →
    (b = true ↔ o.failureMessage?.isSome = true ∧
      streak n (pre ++ [.turn o b]) = s.failureThreshold.toNat)
  once : ∀ pre part post, marks = pre ++ part ++ post → .reset ∉ part →
    part.countP Mark.disabling ≤ 1
  /-- The geist is disabled just after a turn that disables it, and until it is reset nothing follows. -/
  disabled_iff : e.descriptor.enabled = false ↔ ∃ pre o, marks = pre ++ [.turn o true]
  silent : e.descriptor.enabled = false → ∀ more, .reset g ∉ more →
    s.history g r more = [] ∧ (s.run r more).lookup? g = some e ∧
      ∀ seed report, (s.session (s.run r more) seed).1 = .ok report → report.record? g = none
  /-- A reset is not refused, and the streak begins anew with it. -/
  restored : ∃ r', r.reset g = .ok r' ∧ r'.lookup? g = some e.restored
  restarted : ∀ pre post, marks = pre ++ .reset :: post → streak n marks = streak 0 post

/-- **At every point of every run** of sessions and resets, a geist that can run and began it enabled
and below the threshold is as `Guarded` says. -/
theorem guarded_run (hT : 1 ≤ s.failureThreshold) (he : r.lookup? g = some e)
    (hrun : e.source.runnable = true) (henabled : e.descriptor.enabled = true)
    (hlt : e.descriptor.failures < s.failureThreshold) (es : List Event) :
    ∃ e', s.Guarded g e.descriptor.failures.toNat (s.history g r es) (s.run r es) e' := by
  obtain ⟨e', he', hsource, h⟩ := tracked_run hT he henabled hlt es
  refine ⟨e', ?_⟩
  constructor
  case entry => exact he'
  case below => exact h.below
  case counted => exact h.counted
  case disables_iff => exact h.disables_iff
  case once =>
    intro pre part post hmarks hreset
    exact h.countP_disabling_le_one pre part post hmarks hreset
  case disabled_iff => exact h.disabled_iff
  case silent =>
    intro hd more hmore
    obtain ⟨hhistory, hentry⟩ := run_of_disabled (s := s) he' hd hmore
    refine ⟨hhistory, hentry, ?_⟩
    intro seed report hok
    obtain ⟨-, rfl⟩ := session_eq_ok_iff.mp hok
    cases hr : (s.progress (s.run (s.run r es) more) seed).2.report.record? g with
    | none => rfl
    | some record =>
      have hdue := (due_of_record hentry hr).1
      rw [Entry.due, hd] at hdue
      cases hdue
  case restored =>
    refine ⟨_, Registry.reset_eq_ok_iff.mpr ⟨e', he', ?_, rfl⟩, Registry.lookup?_put_self ..⟩
    rw [hsource, hrun]
  case restarted =>
    rintro pre post hmarks
    rw [hmarks, streak_append_reset]

/-- The geist `a` is disabled by its third failure, has no turn in the fourth session and, reset, succeeds in
the fifth. -/
theorem guarded_run_band :
    standard.history "a" (.band 0) Event.fiveSessions =
        [.turn (.failure .runtime "no idea") false, .turn (.failure .runtime "panicked: no idea") false,
          .turn .timeout true, .reset, .turn (.success [⟨"Still here", [], "a", none⟩]) false] ∧
      ∃ e', standard.Guarded "a" 0 (standard.history "a" (.band 0) Event.fiveSessions)
        (standard.run (.band 0) Event.fiveSessions) e' := by
  have hT : 1 ≤ standard.failureThreshold := by decide
  have hlt : 0 < standard.failureThreshold := by decide
  have hx : (Registry.band 0).lookup? "a" = some (.ofProgram "a" Program.faltering) :=
    Registry.lookup?_put_self ..
  exact ⟨by decide +kernel, guarded_run hT hx rfl rfl hlt _⟩

end Scheduler

end NoteMuse
