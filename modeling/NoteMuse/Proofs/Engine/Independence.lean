import NoteMuse.Engine
import NoteMuse.Proofs.Session.Run

/-!
Geists do not influence one another. What an engine shows of a geist over a run is what the geist shows on
its own, as far as the run goes; and a run goes on to its end unless one of its sessions breaks off, which
is the only thing that a geist can do to the others. Main statement: `views_independent`.
-/

namespace NoteMuse

open Geist

/-- What is seen of a geist: its record in the session that is over, and its descriptor. -/
structure View where
  record? : Option Record
  descriptor? : Option Descriptor
  deriving DecidableEq

def Event.concerns (g : String) : Event → Bool
  | .session _ => true
  | .reset id => id = g

/-! ### A geist on its own -/

namespace Scheduler

/-- The record of a geist in a session with no other geists. -/
def alone (s : Scheduler) (g : String) (x : Entry) (seed : SessionSeed) : Option Record :=
  if x.due then (s.invoke seed g x.turns x.source).toOption else none

/-- What a geist on its own shows of an event that concerns it, and its entry afterwards. -/
def stepAlone (s : Scheduler) (g : String) (x : Entry) : Event → View × Entry
  | .session seed =>
    let x' := s.entryWith (s.alone g x seed) x
    (⟨s.alone g x seed, some x'.descriptor⟩, x')
  | .reset _ =>
    let x' := if x.source.runnable then x.restored else x
    (⟨none, some x'.descriptor⟩, x')

def viewsAlone (s : Scheduler) (g : String) : Entry → List Event → List View
  | _, [] => []
  | x, ev :: es => (s.stepAlone g x ev).1 :: s.viewsAlone g (s.stepAlone g x ev).2 es

/-- No session of the run comes to a geist that is due and whose id no worker can have as its name. -/
def Nameable (s : Scheduler) (r : Registry) (es : List Event) : Prop :=
  ∀ pre seed post, es = pre ++ .session seed :: post → ∀ id ∈ (s.run r pre).due, ¬Unnameable id

theorem nameable_cons {s : Scheduler} {r : Registry} {ev : Event} {es : List Event} :
    s.Nameable r (ev :: es) ↔
      (∀ seed, ev = .session seed → ∀ id ∈ r.due, ¬Unnameable id) ∧ s.Nameable (s.after r ev) es := by
  constructor
  · intro h
    refine ⟨?_, ?_⟩
    · rintro seed rfl
      exact h [] seed es rfl
    · rintro pre seed post rfl
      exact h (ev :: pre) seed post rfl
  · rintro ⟨hfirst, hrest⟩ pre seed post hes
    cases pre with
    | nil =>
      obtain ⟨rfl, -⟩ := List.cons.inj hes
      exact hfirst seed rfl
    | cons p pre =>
      obtain ⟨rfl, rfl⟩ := List.cons.inj hes
      exact hrest pre seed post rfl

theorem nameable_of_ids {s : Scheduler} {r : Registry} (h : ∀ id ∈ r.ids, ¬Unnameable id)
    (es : List Event) : s.Nameable r es := by
  induction es generalizing r with
  | nil =>
    intro pre seed post hes
    cases pre <;> cases hes
  | cons ev es ih =>
    rw [nameable_cons]
    refine ⟨?_, ih fun id hid => h id ((ids_after s r ev).mp hid)⟩
    intro seed _ id hid
    obtain ⟨e, he, -⟩ := Registry.mem_due.mp hid
    exact h id (Registry.mem_ids.mpr ⟨e, he⟩)

/-- In a session with a report a geist has the record that it has on its own. -/
theorem record?_eq_alone {s : Scheduler} {r : Registry} {seed : SessionSeed} {report : Report}
    (h : (s.session r seed).1 = .ok report) {g : String} {x : Entry} (hx : r.lookup? g = some x) :
    report.record? g = s.alone g x seed := by
  have hgeists := (lawful_of_session_ok h).1.geists
  obtain ⟨-, rfl⟩ := session_eq_ok_iff.mp h
  unfold alone
  cases hr : (s.progress r seed).2.report.record? g with
  | none =>
    rw [Report.record?_eq_none_iff, hgeists] at hr
    rw [if_neg fun hd => hr (Registry.mem_due.mpr ⟨x, hx, hd⟩)]
  | some record =>
    obtain ⟨hd, hi⟩ := due_of_record hx hr
    rw [if_pos hd, hi]
    rfl

end Scheduler

/-! ### A geist in an engine -/

namespace Engine

/-- Does what an event says; a reset that is refused changes nothing. -/
def act (e : Engine) : Event → Except Fault (Option Report × Engine)
  | .session seed => (e.runWith seed).map fun p => (some p.1, p.2)
  | .reset id =>
    match e.reset id with
    | .ok e => .ok (none, e)
    | .error _ => .ok (none, e)

/-- What a run shows of the geist `g`, after every event that concerns it. The run is over when a session
breaks off. -/
def views (g : String) : Engine → List Event → List View
  | _, [] => []
  | e, ev :: es =>
    match e.act ev with
    | .error _ => []
    | .ok (report?, e) =>
      if ev.concerns g then
        ⟨report?.bind fun r => r.record? g, e.registry.descriptor? g⟩ :: views g e es
      else views g e es

variable {g : String} {e e' : Engine} {ev : Event} {x : Entry}

theorem runWith_eq (e : Engine) (seed : SessionSeed) :
    e.runWith seed = (e.scheduler.session e.registry seed).1.map fun report =>
      (report, e.keep (e.scheduler.session e.registry seed).2) := by
  unfold runWith
  generalize e.scheduler.session e.registry seed = p
  obtain ⟨report, r⟩ := p
  cases report <;> rfl

/-- An event that an engine comes through: a session with a report, or a reset. -/
theorem act_ok {report? : Option Report} (h : e.act ev = .ok (report?, e')) :
    e'.scheduler = e.scheduler ∧ e'.registry = e.scheduler.after e.registry ev ∧
      ((∃ seed report, ev = .session seed ∧ report? = some report ∧
        (e.scheduler.session e.registry seed).1 = .ok report) ∨
        ∃ id, ev = .reset id ∧ report? = none) := by
  cases ev with
  | session seed =>
    rw [act, runWith_eq] at h
    obtain ⟨p, hp, he⟩ := map_eq_ok_iff.mp h
    obtain ⟨report, hreport, rfl⟩ := map_eq_ok_iff.mp hp
    cases he
    exact ⟨rfl, rfl, .inl ⟨seed, report, rfl, rfl, hreport⟩⟩
  | reset id =>
    simp only [act, reset] at h
    simp only [Scheduler.after]
    cases hr : e.registry.reset id with
    | ok r =>
      rw [hr] at h
      cases h
      exact ⟨rfl, rfl, .inr ⟨id, rfl, rfl⟩⟩
    | error c =>
      rw [hr] at h
      cases h
      exact ⟨rfl, rfl, .inr ⟨id, rfl, rfl⟩⟩

theorem act_error {f : Fault} (h : e.act ev = .error f) :
    ∃ seed, ev = .session seed ∧ (e.scheduler.session e.registry seed).1 = .error f := by
  cases ev with
  | session seed =>
    rw [act, runWith_eq] at h
    cases hs : (e.scheduler.session e.registry seed).1 with
    | ok report =>
      rw [hs] at h
      cases h
    | error f' =>
      rw [hs] at h
      cases h
      exact ⟨seed, rfl, hs⟩
  | reset id =>
    unfold act at h
    simp only at h
    split at h <;> cases h

/-- An event that concerns a geist shows of it what it shows on its own, … -/
theorem act_concerning {report? : Option Report} (h : e.act ev = .ok (report?, e'))
    (hx : e.registry.lookup? g = some x) (hc : ev.concerns g = true) :
    View.mk (report?.bind fun r => r.record? g) (e'.registry.descriptor? g) =
        (e.scheduler.stepAlone g x ev).1 ∧
      e'.registry.lookup? g = some (e.scheduler.stepAlone g x ev).2 := by
  obtain ⟨-, hreg, ⟨seed, report, rfl, rfl, hok⟩ | ⟨id, rfl, rfl⟩⟩ := act_ok h
  · have halone := Scheduler.record?_eq_alone hok hx
    have hentry : e'.registry.lookup? g =
        some (e.scheduler.entryWith (e.scheduler.alone g x seed) x) := by
      obtain ⟨-, rfl⟩ := Scheduler.session_eq_ok_iff.mp hok
      rw [hreg, Scheduler.after, Scheduler.lookup?_session, hx, halone]
      rfl
    refine ⟨?_, hentry⟩
    rw [Option.bind_some, halone, Registry.descriptor?, hentry]
    rfl
  · obtain rfl : id = g := by simpa [Event.concerns] using hc
    have hentry : e'.registry.lookup? id =
        some (if x.source.runnable then x.restored else x) := by
      rw [hreg]
      simp only [Scheduler.after, Registry.reset, hx]
      cases hr : x.source.runnable with
      | true => simp only [if_true, Registry.lookup?_put_self]
      | false => simp only [Bool.false_eq_true, if_false, hx]
    refine ⟨?_, hentry⟩
    rw [Registry.descriptor?, hentry]
    rfl

/-- … and one that does not leaves it alone. -/
theorem act_of_not_concerning {report? : Option Report} (h : e.act ev = .ok (report?, e'))
    (hx : e.registry.lookup? g = some x) (hc : ev.concerns g = false) :
    e'.registry.lookup? g = some x := by
  obtain ⟨-, hreg, ⟨seed, report, rfl, -, -⟩ | ⟨id, rfl, -⟩⟩ := act_ok h
  · cases hc
  · have hne : id ≠ g := by simpa [Event.concerns] using hc
    rw [hreg]
    simp only [Scheduler.after]
    cases hr : e.registry.reset id with
    | error c => exact hx
    | ok r =>
      obtain ⟨y, -, -, rfl⟩ := Registry.reset_eq_ok_iff.mp hr
      rwa [Registry.lookup?_put_of_ne hne]

/-- What a run shows of a geist is the beginning of what the geist shows on its own, and all of it exactly
when no session breaks off. -/
theorem views_isPrefix (hx : e.registry.lookup? g = some x) (es : List Event) :
    views g e es <+: e.scheduler.viewsAlone g x (es.filter (Event.concerns g)) ∧
      (e.scheduler.Nameable e.registry es ↔
        (views g e es).length = (es.filter (Event.concerns g)).length) := by
  induction es generalizing e x with
  | nil =>
    refine ⟨List.prefix_refl _, ?_⟩
    constructor
    · exact fun _ => rfl
    · intro _ pre seed post h
      cases pre <;> cases h
  | cons ev es ih =>
    rw [Scheduler.nameable_cons]
    unfold views
    -- a session that breaks off ends the run, and what follows it is seen on its own only
    split
    · next f hact =>
      obtain ⟨seed, rfl, hbroken⟩ := act_error hact
      refine ⟨List.nil_prefix, ?_⟩
      rw [List.filter_cons_of_pos rfl]
      constructor
      · rintro ⟨hfirst, -⟩
        obtain ⟨id, hid, -⟩ := Scheduler.session_broken hbroken
        exact absurd (by simpa using List.find?_some hid)
          (hfirst seed rfl id (List.mem_of_find?_eq_some hid))
      · intro hlen
        cases hlen
    · next report? e' hact =>
      obtain ⟨hs, hreg, hkind⟩ := act_ok hact
      have hfirst : ∀ seed, ev = .session seed → ∀ id ∈ e.registry.due, ¬Unnameable id := by
        rintro seed rfl
        rcases hkind with ⟨_, report, ⟨⟩, -, hok⟩ | ⟨_, ⟨⟩, -⟩
        exact (Scheduler.lawful_of_session_ok hok).2
      rw [and_iff_right hfirst]
      -- an event of other geists is seen in neither, and leaves the entry of `g` as it is
      by_cases hc : ev.concerns g = true
      · obtain ⟨hview, hentry⟩ := act_concerning hact hx hc
        have hrest := ih hentry
        rw [hs, hreg] at hrest
        rw [if_pos hc, List.filter_cons_of_pos hc, hview, Scheduler.viewsAlone]
        refine ⟨(List.prefix_cons_inj _).mpr hrest.1, ?_⟩
        rw [hrest.2, List.length_cons, List.length_cons, Nat.add_right_cancel_iff]
      · have hrest := ih (act_of_not_concerning hact hx (Bool.eq_false_iff.mpr hc))
        rw [hs, hreg] at hrest
        rw [if_neg hc, List.filter_cons_of_neg hc]
        exact hrest

def ofRegistry (r : Registry) : Engine where
  registry := r
  scheduler := .standard
  config := .standard
  seed := ⟨1⟩
  stateFile := .unused

/-- **When geists do not influence one another.** Two engines with the same scheduler and with the same
entry for the geist `g`, whatever their other geists are, go through runs with the same sessions and the
same resets of `g`. As far as both runs go, they show the same of `g`; they show the same altogether when
no session in them comes to a geist whose id holds the character with code 0, and not so when this is the
case for one of them only. -/
theorem views_independent {e₁ e₂ : Engine} (hs : e₁.scheduler = e₂.scheduler)
    (hx : e₁.registry.lookup? g = some x) (hy : e₂.registry.lookup? g = some x) {es₁ es₂ : List Event}
    (hes : es₁.filter (Event.concerns g) = es₂.filter (Event.concerns g)) :
    (views g e₁ es₁ <+: views g e₂ es₂ ∨ views g e₂ es₂ <+: views g e₁ es₁) ∧
      (e₁.scheduler.Nameable e₁.registry es₁ → e₂.scheduler.Nameable e₂.registry es₂ →
        views g e₁ es₁ = views g e₂ es₂) ∧
      (¬(e₁.scheduler.Nameable e₁.registry es₁ ↔ e₂.scheduler.Nameable e₂.registry es₂) →
        views g e₁ es₁ ≠ views g e₂ es₂) := by
  obtain ⟨hpre₁, hlen₁⟩ := views_isPrefix hx es₁
  obtain ⟨hpre₂, hlen₂⟩ := views_isPrefix hy es₂
  rw [hs, hes] at hpre₁
  rw [hes] at hlen₁
  have hboth := List.prefix_or_prefix_of_prefix hpre₁ hpre₂
  refine ⟨hboth, ?_, ?_⟩
  · intro hn₁ hn₂
    have hlen : (views g e₁ es₁).length = (views g e₂ es₂).length :=
      (hlen₁.mp hn₁).trans (hlen₂.mp hn₂).symm
    rcases hboth with h | h
    · exact h.eq_of_length hlen
    · exact (h.eq_of_length hlen.symm).symm
  · intro hdiff heq
    rw [hlen₁, hlen₂, heq] at hdiff
    exact hdiff Iff.rfl

/-- The geist `a` among others and on its own. It fails in three sessions, which disables it, is left out of the
fourth and, reset, succeeds in the fifth; that `b` makes suggestions and is reset shows nowhere. -/
theorem views_independent_band :
    let fewer := [.session ⟨1⟩, .session ⟨2⟩, .session ⟨3⟩, .session ⟨4⟩, .reset "a", .session ⟨5⟩]
    let only := Registry.empty.put "a" (.ofProgram "a" Program.faltering)
    views "a" (ofRegistry (.band 0)) Event.fiveSessions = views "a" (ofRegistry only) fewer ∧
      (views "a" (ofRegistry only) fewer).map (fun v => v.descriptor?.map Descriptor.enabled) =
        [some true, some true, some false, some false, some true, some true] := by
  intro fewer only
  have hx : (ofRegistry (.band 0)).registry.lookup? "a" = some (.ofProgram "a" Program.faltering) :=
    Registry.lookup?_put_self ..
  have hy : (ofRegistry only).registry.lookup? "a" = some (.ofProgram "a" Program.faltering) :=
    Registry.lookup?_put_self ..
  have hes : Event.fiveSessions.filter (Event.concerns "a") = fewer.filter (Event.concerns "a") := by
    decide
  have hs : (ofRegistry (.band 0)).scheduler = (ofRegistry only).scheduler := rfl
  have hband : ∀ id ∈ (Registry.band 0).ids, ¬Unnameable id := by decide
  have honly : ∀ id ∈ only.ids, ¬Unnameable id := by decide
  refine ⟨(views_independent hs hx hy hes).2.1 ?_ ?_, by decide +kernel⟩
  · exact Scheduler.nameable_of_ids hband _
  · exact Scheduler.nameable_of_ids honly _

/-- Not all geists leave one another alone: one whose id holds the character with code 0 takes the turn
and the record from all others. -/
theorem not_forall_views_eq :
    ¬∀ (g : String) (e₁ e₂ : Engine) (x : Entry) (es₁ es₂ : List Event),
      e₁.scheduler = e₂.scheduler → e₁.registry.lookup? g = some x →
        e₂.registry.lookup? g = some x →
          es₁.filter (Event.concerns g) = es₂.filter (Event.concerns g) →
            views g e₁ es₁ = views g e₂ es₂ := by
  intro h
  let b := Entry.ofProgram "b" Program.steady
  let one := ofRegistry (.put .empty "b" b)
  let two := ofRegistry (.put (.put .empty "a\x00" (.ofProgram "a\x00" Program.steady)) "b" b)
  have hx : one.registry.lookup? "b" = some b := Registry.lookup?_put_self ..
  have hy : two.registry.lookup? "b" = some b := Registry.lookup?_put_self ..
  have hone : ∀ id ∈ one.registry.ids, ¬Unnameable id := by decide
  have hwhole : one.scheduler.Nameable one.registry [.session ⟨1⟩] := Scheduler.nameable_of_ids hone _
  have hbroken : ¬two.scheduler.Nameable two.registry [.session ⟨1⟩] := by
    intro hn
    exact hn [] ⟨1⟩ [] rfl "a\x00" (by decide) (by decide)
  have hs : one.scheduler = two.scheduler := rfl
  have hlen₁ := (views_isPrefix hx [.session ⟨1⟩]).2.mp hwhole
  have hlen₂ := (views_isPrefix hy [.session ⟨1⟩]).2
  rw [h "b" _ _ _ [.session ⟨1⟩] [.session ⟨1⟩] hs hx hy rfl] at hlen₁
  exact hbroken (hlen₂.mpr hlen₁)

end Engine

end NoteMuse
