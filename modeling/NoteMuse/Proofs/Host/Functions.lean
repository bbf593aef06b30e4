import NoteMuse.Host.Builtin
import NoteMuse.Proofs.Text.Split

/-!
Registering functions. Whatever is registered in whatever order, the names are those of the calls that were not
refused, and each name has the function that came with it then. Main statement: `registrations_exact`.
-/

namespace NoteMuse.Host

/-! ### Names -/

def TwoParts (name : String) : Prop :=
  ∃ space function, name.toList = space ++ '.' :: function ∧ '.' ∉ space ∧ space ≠ [] ∧ function ≠ []

lemma isFunctionName_iff {name : String} : isFunctionName name = true ↔ TwoParts name := by
  unfold isFunctionName TwoParts
  by_cases hdot : '.' ∈ name.toList
  · obtain ⟨space, function, hname, hspace⟩ := List.eq_append_cons_of_mem hdot
    rw [hname, Text.cutAt_append hspace]
    simp only [Bool.and_eq_true, Bool.not_eq_true', List.isEmpty_eq_false_iff]
    refine ⟨fun h => ⟨space, function, rfl, hspace, h⟩, ?_⟩
    rintro ⟨space', function', heq, hspace', hparts⟩
    have hcut := Text.cutAt_append hspace function
    rw [heq, Text.cutAt_append hspace'] at hcut
    cases hcut
    exact hparts
  · rw [Text.cutAt_eq_none hdot]
    simp only [Bool.false_eq_true, false_iff]
    rintro ⟨space, function, hname, -⟩
    simp [hname] at hdot

namespace Functions

variable {fs fs' : Functions} {name : String} {h : Handler} {es : List (String × Handler)}

/-! ### Views -/

theorem contains_iff : fs.contains name = true ↔ name ∈ fs.names := (fs.mem_names name).symm

theorem contains_eq_isSome_find? : fs.contains name = (fs.find? name).isSome :=
  Std.ExtTreeMap.contains_eq_isSome_getElem?

lemma find?_empty (name : String) : empty.find? name = none := Std.ExtTreeMap.getElem?_empty

lemma find?_insert (fs : Functions) (name : String) (h : Handler) (other : String) :
    (fs.insert name h).find? other = if name = other then some h else fs.find? other := by
  unfold find? insert
  rw [Std.ExtTreeMap.getElem?_insert]
  simp only [Std.LawfulEqCmp.compare_eq_iff_eq]

/-! ### One call -/

lemma run_register (name : String) (f : Handler) (fs : Functions) :
    (register name f).run fs =
      if isFunctionName name = true then
        if name ∈ fs.names then .error (.duplicate name) fs else .ok () (fs.insert name f)
      else .error (.invalidName name) fs := by
  unfold register
  cases hname : isFunctionName name with
  | false => rfl
  | true =>
    simp only [Bool.not_true, Bool.false_eq_true, if_false, if_true]
    rw [EStateM.run_bind, EStateM.run_get]
    by_cases hmem : name ∈ fs.names
    · simp only [if_pos hmem, if_pos (contains_iff.mpr hmem)]
      rfl
    · simp only [if_neg hmem, if_neg (mt contains_iff.mp hmem)]
      rfl

/-- **When a call is refused**: for its name, or because there is a function of that name. It changes nothing. -/
theorem run_register_eq_error_iff {c : FunctionError} :
    (register name h).run fs = .error c fs' ↔
      fs' = fs ∧ (¬TwoParts name ∧ c = .invalidName name ∨
        TwoParts name ∧ name ∈ fs.names ∧ c = .duplicate name) := by
  rw [run_register, ← isFunctionName_iff]
  by_cases hname : isFunctionName name = true <;> by_cases hmem : name ∈ fs.names <;>
    simp [hname, hmem, eq_comm, and_comm]

lemma run_register_eq_ok_iff :
    (register name h).run fs = .ok () fs' ↔ TwoParts name ∧ name ∉ fs.names ∧ fs' = fs.insert name h := by
  rw [run_register, ← isFunctionName_iff]
  by_cases hname : isFunctionName name = true <;> by_cases hmem : name ∈ fs.names <;> simp [hname, hmem, eq_comm]

/-! ### Functions and their entries -/

/-- The functions are those of the entries, in their order. -/
structure Holds (fs : Functions) (es : List (String × Handler)) : Prop where
  names : fs.names = es.map Prod.fst
  nodup : (es.map Prod.fst).Nodup
  twoParts : ∀ e ∈ es, TwoParts e.1
  find? : ∀ name, fs.find? name = es.lookup name

theorem Holds.mem_of_find? (hfs : fs.Holds es) (hname : fs.find? name = some h) : (name, h) ∈ es := by
  rw [hfs.find?] at hname
  obtain ⟨before, after, rfl, -⟩ := List.lookup_eq_some_iff.mp hname
  simp

lemma holds_empty : empty.Holds [] where
  names := rfl
  nodup := List.nodup_nil
  twoParts := nofun
  find? := find?_empty

theorem Holds.insert (hfs : fs.Holds es) (hname : TwoParts name) (hnew : name ∉ fs.names) :
    (fs.insert name h).Holds (es ++ [(name, h)]) where
  names := by
    rw [List.map_append, ← hfs.names]
    rfl
  nodup := by
    rw [hfs.names] at hnew
    rw [List.map_append]
    exact List.nodup_append.mpr ⟨hfs.nodup, List.pairwise_singleton .., by grind⟩
  twoParts := by
    intro e he
    rcases List.mem_append.mp he with he | he
    · exact hfs.twoParts e he
    · obtain rfl := List.mem_singleton.mp he
      exact hname
  find? := by
    intro other
    rw [find?_insert, hfs.find?, List.lookup_append]
    by_cases hother : name = other
    · subst hother
      have hnone : es.lookup name = none := by
        rw [← contains_iff, contains_eq_isSome_find?, hfs.find?] at hnew
        exact Option.not_isSome_iff_eq_none.mp hnew
      simp [hnone]
    · simp [hother, List.lookup_cons, beq_eq_false_iff_ne.mpr (Ne.symm hother)]

/-! ### Calls one after another -/

/-- The functions after calls, whether these are refused or not. -/
def after (fs : Functions) : List (String × Handler) → Functions
  | [] => fs
  | e :: rest =>
    match (register e.1 e.2).run fs with
    | .ok _ fs' => fs'.after rest
    | .error _ fs' => fs'.after rest

/-- The calls that are not refused. -/
def accepted (fs : Functions) : List (String × Handler) → List (String × Handler)
  | [] => []
  | e :: rest =>
    match (register e.1 e.2).run fs with
    | .ok _ fs' => e :: fs'.accepted rest
    | .error _ fs' => fs'.accepted rest

section Cons

variable {e : String × Handler} {c : FunctionError}

lemma after_cons_of_ok (hrun : (register e.1 e.2).run fs = .ok () fs') (rest : List (String × Handler)) :
    fs.after (e :: rest) = fs'.after rest ∧ fs.accepted (e :: rest) = e :: fs'.accepted rest := by
  simp only [after, accepted, hrun, and_self]

lemma after_cons_of_error (hrun : (register e.1 e.2).run fs = .error c fs') (rest : List (String × Handler)) :
    fs.after (e :: rest) = fs.after rest ∧ fs.accepted (e :: rest) = fs.accepted rest := by
  obtain ⟨rfl, -⟩ := run_register_eq_error_iff.mp hrun
  simp only [after, accepted, hrun, and_self]

end Cons

/-- **What calls make of functions**: they have one more entry for each call that is not refused. -/
theorem Holds.after (hfs : fs.Holds es) (calls : List (String × Handler)) :
    (fs.after calls).Holds (es ++ fs.accepted calls) := by
  induction calls generalizing fs es with
  | nil => simpa [Functions.after, accepted] using hfs
  | cons e rest ih =>
    cases hrun : (register e.1 e.2).run fs with
    | ok u fs' =>
      obtain ⟨hafter, haccepted⟩ := after_cons_of_ok hrun rest
      obtain ⟨hname, hnew, rfl⟩ := run_register_eq_ok_iff.mp hrun
      rw [hafter, haccepted, ← List.singleton_append, ← List.append_assoc]
      exact ih (hfs.insert hname hnew)
    | error c fs' =>
      obtain ⟨hafter, haccepted⟩ := after_cons_of_error hrun rest
      rw [hafter, haccepted]
      exact ih hfs

lemma length_accepted_le (fs : Functions) (calls : List (String × Handler)) :
    (fs.accepted calls).length ≤ calls.length := by
  induction calls generalizing fs with
  | nil => exact Nat.le_refl _
  | cons e rest ih =>
    cases hrun : (register e.1 e.2).run fs with
    | ok u fs' =>
      rw [(after_cons_of_ok hrun rest).2]
      exact Nat.succ_le_succ (ih fs')
    | error c fs' =>
      rw [(after_cons_of_error hrun rest).2]
      exact Nat.le_succ_of_le (ih fs)

lemma accepted_ne_of_error {e : String × Handler} {c : FunctionError}
    (hrun : (register e.1 e.2).run fs = .error c fs') (rest : List (String × Handler)) :
    fs.accepted (e :: rest) ≠ e :: rest := by
  rw [(after_cons_of_error hrun rest).2]
  intro h
  have hlength := fs.length_accepted_le rest
  rw [h, List.length_cons] at hlength
  omega

/-! ### Lists of entries -/

lemma run_registerAll_cons (e : String × Handler) (rest : List (String × Handler)) (fs : Functions) :
    (registerAll (e :: rest)).run fs =
      match (register e.1 e.2).run fs with
      | .ok _ fs' => (registerAll rest).run fs'
      | .error c fs' => .error c fs' := by
  show (register e.1 e.2 >>= fun _ => registerAll rest).run fs = _
  rw [EStateM.run_bind]
  cases (register e.1 e.2).run fs <;> rfl

lemma run_registerAll_eq_ok_iff :
    (registerAll es).run fs = .ok () fs' ↔ fs.accepted es = es ∧ fs.after es = fs' := by
  induction es generalizing fs with
  | nil =>
    show EStateM.Result.ok () fs = .ok () fs' ↔ _
    simp [after, accepted]
  | cons e rest ih =>
    rw [run_registerAll_cons]
    cases hrun : (register e.1 e.2).run fs with
    | ok u next =>
      obtain ⟨hafter, haccepted⟩ := after_cons_of_ok hrun rest
      simp only [hafter, haccepted, ih, List.cons.injEq, true_and]
    | error c next => simp [accepted_ne_of_error hrun rest]

lemma run_registerAll_eq_error_iff {c : FunctionError} :
    (registerAll es).run fs = .error c fs' ↔
      ∃ before e rest, es = before ++ e :: rest ∧ fs.accepted before = before ∧
        (register e.1 e.2).run (fs.after before) = .error c fs' := by
  induction es generalizing fs with
  | nil =>
    show EStateM.Result.ok () fs = .error c fs' ↔ _
    simp
  | cons e rest ih =>
    rw [run_registerAll_cons]
    cases hrun : (register e.1 e.2).run fs with
    | ok u next =>
      simp only [ih]
      constructor
      · rintro ⟨before, d, after, rfl, haccepted, herror⟩
        obtain ⟨hafter, hfirst⟩ := after_cons_of_ok hrun before
        exact ⟨e :: before, d, after, rfl, by rw [hfirst, haccepted], by rw [hafter, herror]⟩
      -- the first entry is not refused, so it is one of those before the refused one
      · rintro ⟨before, d, after, hes, haccepted, herror⟩
        cases before with
        | nil =>
          cases hes
          exact absurd (hrun.symm.trans herror) nofun
        | cons e' before =>
          cases hes
          obtain ⟨hafter, hfirst⟩ := after_cons_of_ok hrun before
          rw [hfirst] at haccepted
          rw [hafter] at herror
          exact ⟨before, d, after, rfl, (List.cons.inj haccepted).2, herror⟩
    -- nothing is accepted after a refusal, so the entry that is refused is the first
    | error c' next =>
      constructor
      · intro h
        cases h
        exact ⟨[], e, rest, rfl, rfl, hrun⟩
      · rintro ⟨before, d, after, hes, haccepted, herror⟩
        cases before with
        | nil =>
          cases hes
          exact hrun.symm.trans herror
        | cons e' before =>
          cases hes
          exact absurd haccepted (accepted_ne_of_error hrun before)

/-! ### The functions every host starts with -/

lemma run_registerAll_of_new (hnames : ∀ e ∈ es, TwoParts e.1) (hdistinct : (es.map Prod.fst).Nodup)
    (hnew : ∀ e ∈ es, e.1 ∉ fs.names) : (registerAll es).run fs = .ok () (es.foldl addMissing fs) := by
  induction es generalizing fs with
  | nil => rfl
  | cons e rest ih =>
    obtain ⟨hname, hnames⟩ := List.forall_mem_cons.mp hnames
    obtain ⟨hfirst, hnew⟩ := List.forall_mem_cons.mp hnew
    obtain ⟨hother, hdistinct⟩ := List.nodup_cons.mp hdistinct
    have hrun : (register e.1 e.2).run fs = .ok () (fs.insert e.1 e.2) :=
      run_register_eq_ok_iff.mpr ⟨hname, hfirst, rfl⟩
    have hadd : fs.addMissing e = fs.insert e.1 e.2 := if_neg (mt contains_iff.mp hfirst)
    rw [run_registerAll_cons, hrun, List.foldl_cons, hadd]
    refine ih hnames hdistinct fun d hd => ?_
    simp only [insert, List.mem_append, List.mem_singleton, not_or]
    exact ⟨hnew d hd, fun h => hother (h ▸ List.mem_map_of_mem hd)⟩

lemma run_registerAll_builtin : (registerAll Builtin.entries).run empty = .ok () builtin := by
  refine run_registerAll_of_new ?_ (by decide) fun _ _ => List.not_mem_nil
  intro e he
  rw [← isFunctionName_iff]
  revert e
  decide

theorem holds_builtin : builtin.Holds Builtin.entries := by
  obtain ⟨haccepted, hafter⟩ := run_registerAll_eq_ok_iff.mp run_registerAll_builtin
  have hholds := holds_empty.after Builtin.entries
  rwa [hafter, haccepted] at hholds

/-! ### Any calls at all -/

/-- What calls of `register` make of functions that have the entries `base`, in their order. -/
structure Registers (base : List (String × Handler)) (start : Functions) : Prop where
  names : ∀ calls, (start.after calls).names = (base ++ start.accepted calls).map Prod.fst
  nodup : ∀ calls, (start.after calls).names.Nodup
  contains : ∀ calls name, (start.after calls).contains name = true ↔ name ∈ (start.after calls).names
  twoParts : ∀ calls, ∀ name ∈ (start.after calls).names, TwoParts name
  /-- A call that is refused changes nothing. -/
  refused : ∀ calls name f c fs', (register name f).run (start.after calls) = .error c fs' ↔
    fs' = start.after calls ∧ (¬TwoParts name ∧ c = .invalidName name ∨
      TwoParts name ∧ name ∈ (start.after calls).names ∧ c = .duplicate name)
  /-- The function of a name is the one that came with it when it was accepted. -/
  resolved : ∀ calls name v args, (start.after calls).resolve v name args =
    match (base ++ start.accepted calls).lookup name with
    | some f => (f v args).adapt (.ofFailure name)
    | none => throw (.undefined name)

lemma Holds.registers (hfs : fs.Holds es) : Registers es fs where
  names calls := (hfs.after calls).names
  nodup calls := by
    rw [(hfs.after calls).names]
    exact (hfs.after calls).nodup
  contains _ _ := contains_iff
  twoParts := by
    intro calls name hname
    rw [(hfs.after calls).names] at hname
    obtain ⟨e, he, rfl⟩ := List.mem_map.mp hname
    exact (hfs.after calls).twoParts e he
  refused _ _ _ _ _ := run_register_eq_error_iff
  resolved := by
    intro calls name v args
    rw [resolve, (hfs.after calls).find?]
    cases (es ++ fs.accepted calls).lookup name <;> rfl

lemma ofEntries_eq_ok_iff : ofEntries es = .ok fs ↔ (registerAll es).run empty = .ok () fs := by
  unfold ofEntries
  cases (registerAll es).run empty <;> simp

lemma ofEntries_eq_error_iff {c : FunctionError} :
    ofEntries es = .error c ↔ ∃ fs', (registerAll es).run empty = .error c fs' := by
  unfold ofEntries
  cases (registerAll es).run empty <;> simp

/-- **Registration.** From no functions, and from those every host starts with, calls of `register` make functions
whose names are different, have two parts, and are those of the calls that were not refused, in their order; a call is
refused for its name, or else because the name is taken, and then it changes nothing. A list of entries is what
registering them one by one makes, or fails as the first one that is refused; the functions every host starts with are
such a list. -/
theorem registrations_exact :
    Registers [] empty ∧ Registers Builtin.entries builtin ∧
    (∀ entries fs, ofEntries entries = .ok fs ↔ empty.accepted entries = entries ∧ empty.after entries = fs) ∧
    (∀ entries c, ofEntries entries = .error c ↔
      ∃ before e rest, entries = before ++ e :: rest ∧ empty.accepted before = before ∧
        ∃ fs', (register e.1 e.2).run (empty.after before) = .error c fs') ∧
    ofEntries Builtin.entries = .ok builtin := by
  refine ⟨holds_empty.registers, holds_builtin.registers, ?_, ?_, ?_⟩
  · intro entries fs
    rw [ofEntries_eq_ok_iff, run_registerAll_eq_ok_iff]
  · intro entries c
    rw [ofEntries_eq_error_iff]
    constructor
    · rintro ⟨fs', h⟩
      obtain ⟨before, e, rest, hes, haccepted, herror⟩ := run_registerAll_eq_error_iff.mp h
      exact ⟨before, e, rest, hes, haccepted, fs', herror⟩
    · rintro ⟨before, e, rest, hes, haccepted, fs', herror⟩
      exact ⟨fs', run_registerAll_eq_error_iff.mpr ⟨before, e, rest, hes, haccepted, herror⟩⟩
  · exact ofEntries_eq_ok_iff.mpr run_registerAll_builtin

end Functions

end NoteMuse.Host
