import Mathlib.Data.List.Forall2
import NoteMuse.Format.Ron.Reader
import NoteMuse.Proofs.Format.Ron.Token

/-!
Readers and the texts that they read back. A rule for each way to put a reader together says how its text is
put together of the texts of its parts; the items of a list or of a record stand on lines of their own. Main
statements: `items_below`, `reads_structured`.
-/

namespace NoteMuse.Format.Ron

open Text

variable {α β : Type}

theorem length_skipGap_le {cs rest : List Char} (h : skipGap cs = .ok rest) : rest.length ≤ cs.length := by
  fun_induction skipGap cs with
  | case1 cs rest' hs hle hlt hlt' ih =>
    have := ih h
    omega
  | case2 => cases h
  | case3 cs rest' hs after hb h₁ h₂ hlt ih =>
    have := ih h
    omega
  | case4 => cases h
  | case5 cs =>
    cases h
    exact (List.dropWhile_suffix isGap).length_le

/-! ### Values -/

/-- The reader reads the text as `a` and stops at its end. -/
def Reads (read : Reader α) (levels : Nat) (text : List Char) (a : α) : Prop :=
  ∀ rest, Stops rest → read levels (text ++ rest) = .ok (a, rest)

/-- The text begins with what belongs to a value. -/
def Opens (text : List Char) : Prop := ∃ c cs, text = c :: cs ∧ Solid c ∧ c ≠ ')' ∧ c ≠ ']'

theorem Opens.skipGap {text : List Char} (h : Opens text) {gap : List Char}
    (hgap : ∀ d ∈ gap, isGap d = true) (rest : List Char) :
    skipGap (gap ++ (text ++ rest)) = .ok (text ++ rest) := by
  obtain ⟨c, cs, rfl, hc, -⟩ := h
  exact skipGap_append hgap hc (cs ++ rest)

theorem Opens.skipGap_append {text : List Char} (h : Opens text) (rest : List Char) :
    Ron.skipGap (text ++ rest) = .ok (text ++ rest) :=
  h.skipGap (fun _ hd => absurd hd List.not_mem_nil) rest

theorem opens_cons {p : Char → Bool} {c : Char} (hc : p c = true)
    (hp : [' ', '\n', '\t', '\r', '/', ')', ']'].any p = false) (cs : List Char) : Opens (c :: cs) := by
  have hne : c ∉ [' ', '\n', '\t', '\r', '/', ')', ']'] := fun hmem => List.any_eq_false.mp hp c hmem hc
  refine ⟨c, cs, rfl, ⟨?_, ?_⟩, ?_, ?_⟩
  · rw [Bool.eq_false_iff]
    intro hgap
    have hgap : c = ' ' ∨ c = '\n' ∨ c = '\t' ∨ c = '\r' := by simpa [isGap] using hgap
    rcases hgap with rfl | rfl | rfl | rfl <;> exact hne (by decide)
  · rintro rfl
    exact hne (by decide)
  · rintro rfl
    exact hne (by decide)
  · rintro rfl
    exact hne (by decide)

theorem opens_digits (n : Nat) : Opens (Decimal.digits n) := by
  obtain ⟨d, ds, hds, hd⟩ := Decimal.exists_digits_eq_cons n
  rw [hds]
  exact opens_cons hd (by decide) ds

theorem opens_quote (s : String) : Opens (quote s).toList := by
  rw [toList_quote]
  exact ⟨'"', _, rfl, by decide, by decide, by decide⟩

section Rules

variable {read : Reader α} {levels : Nat} {text : List Char} {a : α} (x : Extensions)

theorem reads_token {token? : List Char → Option (α × List Char)}
    (h : ∀ rest, Stops rest → token? (text ++ rest) = some (a, rest)) (reason : String) :
    Reads (token reason token?) levels text a := by
  intro rest hrest
  unfold token
  rw [h rest hrest]
  rfl

theorem reads_text (s : String) : Reads (dialect x).text levels (quote s).toList s :=
  reads_token (fun rest _ => readText?_quote s rest) _

theorem reads_natural {limit n : Nat} (h : n < limit) :
    Reads ((dialect x).natural limit) levels (Decimal.digits n) n := by
  refine reads_token (fun rest hrest => ?_) _
  rw [readInteger?_digits n hrest]
  simp [Option.filter, h]

theorem reads_truth (b : Bool) :
    Reads (dialect x).truth levels (if b then "true" else "false").toList b := by
  refine reads_token (fun rest hrest => ?_) _
  cases b with
  | true =>
    rw [if_pos rfl, dropWords?_append "true" hrest]
    rfl
  | false =>
    have hno : dropWords? ["true"] ("false".toList ++ rest) = none := rfl
    rw [if_neg Bool.false_ne_true, hno, dropWords?_append "false" hrest]
    rfl

theorem Reads.map (h : Reads read levels text a) (f : α → β) : Reads (read.map f) levels text (f a) := by
  intro rest hrest
  unfold Reader.map
  rw [h rest hrest]
  rfl

theorem Reads.nested (h : Reads read levels text a) : Reads (nested read) (levels + 1) text a := h

theorem expect_self {c : Char} {cs rest : List Char} (h : skipGap cs = .ok rest) :
    expect c (c :: cs) = .ok rest := by
  unfold expect
  rw [skipChar?_self, h]
  rfl

theorem closed_closing (rest : List Char) : closed (')' :: rest) = .ok rest := by
  unfold closed
  rw [skipGap_cons (by decide)]
  rfl

theorem Reads.wrapped (h : Reads read levels text a) (ht : Opens text) (name : String) :
    Reads (wrappedOf name read) (levels + 1) ('(' :: text ++ [')']) a := by
  intro rest _
  have hname : skipRecordName name ('(' :: (text ++ ')' :: rest)) = .ok ('(' :: (text ++ ')' :: rest)) :=
    skipGap_cons (by decide) _
  have hgap := ht.skipGap_append (')' :: rest)
  have hread := h.nested (')' :: rest) (stops_closing rest)
  have hcs : ('(' :: text ++ [')']) ++ rest = '(' :: (text ++ ')' :: rest) := by simp
  rw [hcs]
  unfold wrappedOf
  simp only [bind, Except.bind, hname, expect_self hgap, hread, closed_closing]
  rfl

theorem reads_none : Reads (optionalOf x read) levels "None".toList none := by
  intro rest _
  unfold optionalOf
  rw [dropStart?_append]
  rfl

theorem Reads.some (h : Reads read levels text a) (ht : Opens text) :
    Reads (optionalOf x read) (levels + 1) ("Some(".toList ++ text ++ [')']) (some a) := by
  intro rest _
  have hgap := ht.skipGap_append (')' :: rest)
  have hread := h.nested (')' :: rest) (stops_closing rest)
  have hcs : "Some(".toList ++ text ++ [')'] ++ rest = "Some".toList ++ '(' :: (text ++ ')' :: rest) := by
    simp
  have hnone : dropStart? "None".toList ("Some".toList ++ '(' :: (text ++ ')' :: rest)) = none := rfl
  rw [hcs]
  unfold optionalOf
  rw [hnone, dropStart?_append]
  simp only [bind, Except.bind, skipGap_cons (c := '(') (by decide), skipChar?_self, hgap, Except.map, hread,
    closed_closing]
  rfl

theorem reads_field {fields : List (String × Reader α)} {name : String} (hname : IsName name)
    (hfield : fields.lookup name = some read) (h : Reads read levels text a) (ht : Opens text)
    (other : Reader Unit) :
    Reads (fieldOf fields other) (levels + 1) (name.toList ++ ": ".toList ++ text) (some (name, a)) := by
  intro rest hrest
  have hspace : ∀ d ∈ [' '], isGap d = true := List.all_eq_true.mp (by decide)
  have hgap : skipGap (' ' :: (text ++ rest)) = .ok (text ++ rest) := ht.skipGap hspace rest
  have hread := (h.nested.map fun a => some (name, a)) rest hrest
  have hcs : name.toList ++ ": ".toList ++ text ++ rest = name.toList ++ ':' :: ' ' :: (text ++ rest) := by
    simp
  rw [hcs]
  unfold fieldOf
  rw [readName?_append hname]
  simp only [bind, Except.bind, skipGap_cons (c := ':') (by decide), expect_self hgap, hfield]
  exact hread

end Rules

/-! ### Items on lines of their own -/

/-- Items on lines of their own one level further in, each with a comma behind it, and what closes them on a
line by itself. -/
def below (level : Nat) (close : Char) (rest : List Char) : List (List Char) → List Char
  | [] => (indent level).toList ++ close :: rest
  | t :: ts => (indent (level + 1)).toList ++ (t ++ ',' :: '\n' :: below level close rest ts)

section Items

variable {close : Char} {item : Reader α} {level levels : Nat} {cs rest : List Char}

theorem readAttributes_none (x : Extensions) (h : cs.head? ≠ some '#') :
    readAttributes x cs = .ok (x, cs) := by
  rw [readAttributes, if_neg h]
  rfl

theorem items_close (h : skipGap cs = .ok (close :: rest)) :
    items close item levels cs = .ok ([], rest) := by
  rw [items]
  simp only [bind, Except.bind, h, List.head?_cons, if_true]
  rfl

theorem items_item {text next more : List Char} {a : α} {as : List α} (hclose : close = ')' ∨ close = ']')
    (h : skipGap cs = .ok (text ++ ',' :: next)) (ht : Opens text) (hread : Reads item levels text a)
    (hnext : skipGap next = .ok more) (hmore : items close item levels more = .ok (as, rest)) :
    items close item levels cs = .ok (a :: as, rest) := by
  have hlen : more.length < cs.length := by
    have h₁ := length_skipGap_le h
    have h₂ := length_skipGap_le hnext
    simp only [List.length_append, List.length_cons] at h₁
    omega
  have hitem := hread (',' :: next) (stops_comma next)
  have hhead : (text ++ ',' :: next).head? ≠ some close := by
    obtain ⟨c, cs', rfl, -, hround, hsquare⟩ := ht
    rintro ⟨⟩
    exact hclose.elim hround hsquare
  have hempty : (text ++ ',' :: next).isEmpty = false := by simp
  rw [items]
  simp only [bind, Except.bind, h, if_neg hhead, hempty, Bool.false_eq_true, if_false, hitem,
    skipGap_cons (c := ',') (by decide), skipChar?_self, hnext, Except.map, hlen, if_true, hmore]
  rfl

/-- The lines begin with a gap, and then comes an item or what closes them. -/
theorem exists_below (level : Nat) (hclose : Solid close) (rest : List Char) {ts : List (List Char)}
    (hts : ∀ t ∈ ts, Opens t) :
    ∃ c tail, Solid c ∧ skipGap (below level close rest ts) = .ok (c :: tail) ∧
      skipGap ('\n' :: below level close rest ts) = .ok (c :: tail) := by
  have hgap : ∀ l, ∀ d ∈ '\n' :: (indent l).toList, isGap d = true := fun l =>
    List.forall_mem_cons.mpr ⟨by decide, fun d => isGap_of_mem_indent⟩
  cases ts with
  | nil =>
    exact ⟨close, rest, hclose, skipGap_append (fun _ => isGap_of_mem_indent) hclose rest,
      skipGap_append (hgap level) hclose rest⟩
  | cons t ts =>
    obtain ⟨c, cs, rfl, hc, -⟩ := hts t (List.mem_cons_self ..)
    exact ⟨c, _, hc, skipGap_append (fun _ => isGap_of_mem_indent) hc _,
      skipGap_append (hgap (level + 1)) hc _⟩

/-- **Items on lines of their own are read back**, each by what reads an item. -/
theorem items_below (hclose : close = ')' ∨ close = ']') {ts : List (List Char)}
    (hts : ∀ t ∈ ts, Opens t) {as : List α} (h : List.Forall₂ (Reads item levels) ts as)
    (hcs : skipGap cs = skipGap (below level close rest ts)) :
    items close item levels cs = .ok (as, rest) := by
  have hsolid : Solid close := by rcases hclose with rfl | rfl <;> decide
  induction h generalizing cs with
  | nil =>
    rw [below, skipGap_append (fun _ => isGap_of_mem_indent) hsolid] at hcs
    exact items_close hcs
  | @cons t a ts as hread _ ih =>
    obtain ⟨ht, hts⟩ := List.forall_mem_cons.mp hts
    obtain ⟨c, tail, hc, hbelow, hnext⟩ := exists_below level hsolid rest hts
    rw [below, ht.skipGap fun _ => isGap_of_mem_indent] at hcs
    refine items_item hclose hcs ht hread hnext (ih hts ?_)
    rw [skipGap_cons hc, hbelow]

theorem items_newline (hclose : close = ')' ∨ close = ']') {ts : List (List Char)}
    (hts : ∀ t ∈ ts, Opens t) {as : List α} (h : List.Forall₂ (Reads item levels) ts as) :
    items close item levels ('\n' :: below level close rest ts) = .ok (as, rest) := by
  have hsolid : Solid close := by rcases hclose with rfl | rfl <;> decide
  obtain ⟨c, tail, -, hbelow, hnext⟩ := exists_below level hsolid rest hts
  exact items_below hclose hts h (hnext.trans hbelow.symm)

end Items

/-! ### Lines that are printed -/

def fieldText (level : Nat) (f : String × Value) : List Char :=
  f.1.toList ++ ": ".toList ++ (f.2.pretty level).toList

section Printed

variable (level : Nat) (rest : List Char) (close : Char)

theorem toList_prettyElements (vs : List Value) :
    (prettyElements (level + 1) vs).toList ++ ((indent level).toList ++ close :: rest) =
      below level close rest (vs.map fun v => (v.pretty (level + 1)).toList) := by
  induction vs with
  | nil => rw [prettyElements]; rfl
  | cons v vs ih =>
    rw [prettyElements, List.map_cons, below, ← ih]
    simp

theorem toList_prettyFields (fields : List (String × Value)) :
    (prettyFields (level + 1) fields).toList ++ ((indent level).toList ++ close :: rest) =
      below level close rest (fields.map (fieldText (level + 1))) := by
  induction fields with
  | nil => rw [prettyFields]; rfl
  | cons f fields ih =>
    obtain ⟨name, v⟩ := f
    rw [prettyFields, List.map_cons, below, ← ih]
    simp [fieldText]

theorem toList_pretty_list {vs : List Value} (h : vs ≠ []) :
    ((Value.list vs).pretty level).toList ++ rest =
      '[' :: '\n' :: below level ']' rest (vs.map fun v => (v.pretty (level + 1)).toList) := by
  rw [← toList_prettyElements, Value.pretty]
  · simp
  · exact h

theorem toList_pretty_record {fields : List (String × Value)} (h : fields ≠ []) :
    ((Value.record fields).pretty level).toList ++ rest =
      '(' :: '\n' :: below level ')' rest (fields.map (fieldText (level + 1))) := by
  rw [← toList_prettyFields, Value.pretty]
  · simp
  · exact h

theorem opens_pretty_record {fields : List (String × Value)} (h : fields ≠ []) :
    Opens ((Value.record fields).pretty level).toList := by
  have htext := toList_pretty_record level [] h
  rw [List.append_nil] at htext
  exact ⟨'(', _, htext, by decide⟩

end Printed

/-! ### Records -/

theorem opens_fieldText {f : String × Value} (h : IsName f.1) (level : Nat) : Opens (fieldText level f) := by
  obtain ⟨hstart, -⟩ := h
  unfold fieldText
  cases hname : f.1.toList with
  | nil =>
    rw [hname] at hstart
    cases hstart
  | cons c cs =>
    rw [hname] at hstart
    exact opens_cons (p := isNameStart) hstart (by decide) _

/-- **A record is read back** that has each of its fields on a line. -/
theorem reads_structured {σ : Type} (x : Extensions) (name : String) {start a : σ} {fields : List (Field σ)}
    {printed : List (String × Value)} (found : List (String × (σ → σ))) {level levels : Nat}
    (hne : printed ≠ []) (hnames : ∀ f ∈ printed, IsName f.1)
    (hread : List.Forall₂ (Reads (fieldOf (fields.map fun f => (f.name, f.read)) (skipValue x)) levels)
      (printed.map (fieldText (level + 1))) (found.map some))
    (hfound : Field.assemble fields start found = .ok a) :
    Reads ((dialect x).structured name start fields) (levels + 1) ((Value.record printed).pretty level).toList
      a := by
  intro rest _
  have hopens : ∀ t ∈ printed.map (fieldText (level + 1)), Opens t := by
    intro t ht
    obtain ⟨f, hf, rfl⟩ := List.mem_map.mp ht
    exact opens_fieldText (hnames f hf) _
  have hname : ∀ cs, skipRecordName name ('(' :: cs) = .ok ('(' :: cs) := skipGap_cons (by decide)
  have hitems : items ')' (fieldOf (fields.map fun f => (f.name, f.read)) (skipValue x)) levels
      ('\n' :: below level ')' rest (printed.map (fieldText (level + 1)))) = .ok (found.map some, rest) :=
    items_newline (.inl rfl) hopens hread
  have hfields : fieldsOf (fields.map fun f => (f.name, f.read)) (skipValue x) (levels + 1)
      ('(' :: '\n' :: below level ')' rest (printed.map (fieldText (level + 1)))) = .ok (found, rest) := by
    show Except.map _ (items ')' _ levels _) = _
    rw [hitems]
    simp [Except.map]
  rw [toList_pretty_record level rest hne]
  unfold Dialect.structured dialect
  simp only [bind, Except.bind, hname, hfields, hfound]
  rfl

end NoteMuse.Format.Ron
