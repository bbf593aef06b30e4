import NoteMuse.Proofs.Expansion.Rules
import NoteMuse.Proofs.Host.Call
import NoteMuse.Proofs.Note.Link
import NoteMuse.Proofs.Template.RoundTrip
import NoteMuse.Proofs.Text.Separable

/-!
Clusters and their parts. A cluster is rendered with a delimiter between its parts, and the rendered text
comes apart into the same parts exactly when they have no white space around them and the delimiter keeps them
apart; links of titles that do not contain the delimiter are such parts. The parts of such a cluster are what a
caller of the function gets, and what the references of a template choose from. Main statement:
`parts_of_cluster`.
-/

namespace NoteMuse

open Text Decimal NoteMuse.Random

namespace Host

/-! ### Rendered clusters -/

/-- Parts that are found again in the rendered cluster: none has white space around it, and the delimiter keeps
them apart. -/
structure Apart (delimiter : String) (parts : List String) : Prop where
  trimmed : ∀ p ∈ parts, trimmed p = p
  separable : Separable delimiter.toList (parts.map String.toList)

theorem apart_iff {delimiter : String} {parts : List String} :
    Apart delimiter parts ↔ (∀ p ∈ parts.map String.toList, trim p = p) ∧
      Separable delimiter.toList (parts.map String.toList) := by
  rw [List.forall_mem_map]
  constructor
  · rintro ⟨htrimmed, hseparable⟩
    exact ⟨fun p hp => trimmed_eq_self_iff.mp (htrimmed p hp), hseparable⟩
  · rintro ⟨htrim, hseparable⟩
    exact ⟨fun p hp => trimmed_eq_self_iff.mpr (htrim p hp), hseparable⟩

section Parts

variable {h : Host} {parts : List String}

/-- **Which clusters come apart again into their parts.** -/
theorem parts_render_iff (hd : h.delimiter ≠ "") :
    h.parts ((Value.cluster parts).render h.delimiter) = parts ↔ Apart h.delimiter parts := by
  have hlist : h.delimiter.toList ≠ [] := mt String.toList_eq_nil_iff.mp hd
  have hmap : h.parts ((Value.cluster parts).render h.delimiter) =
      ((splitOn h.delimiter.toList (h.delimiter.toList.intercalate (parts.map String.toList))).map
        trim).map String.ofList := by
    rw [Host.parts, Value.render, pieces, String.toList_intercalate, List.map_map, List.map_map]
    refine List.map_congr_left fun p _ => ?_
    simp only [Function.comp_apply, trimmed, String.toList_ofList]
  rw [apart_iff, ← map_trim_splitOn_intercalate_iff hlist, hmap, map_ofList_eq_iff]

/-- A caller that asks a function for parts gets those of the cluster it gives back. -/
theorem callParts_of_apart (hd : h.delimiter ≠ "") (hparts : Apart h.delimiter parts) {name : String}
    {f : Handler} (hf : h.functions.find? name = some f) {args : List Arg} {gen gen' : Generator}
    (hgives : f h.vault args gen = (.ok (.cluster parts), gen')) :
    h.callParts name args gen = (.ok parts, gen') := by
  have hcall := call_of_find?_some hf args gen
  rw [hgives] at hcall
  have hbind : h.callParts name args gen = (.ok (h.parts ((Value.cluster parts).render h.delimiter)), gen') := by
    unfold callParts
    simp only [bind, ExceptT.bind, ExceptT.mk, StateT.bind, hcall]
    rfl
  rw [hbind, (parts_render_iff hd).mpr hparts]

end Parts

/-! ### Links as parts -/

theorem trimmed_wrap (t : String) : trimmed (Link.wrap t) = Link.wrap t := by
  rw [trimmed_eq_self_iff, trim, Link.toList_wrap_concat, List.cons_append, trimLeft_cons (by decide),
    ← List.cons_append, trimRight_append (by decide)]

/-- **Links are kept apart** by a delimiter without brackets that does not occur in their titles. -/
theorem apart_wrap {delimiter : String} (hd : delimiter ≠ "") (hopen : '[' ∉ delimiter.toList)
    (hclose : ']' ∉ delimiter.toList) {titles : List String} (hne : titles ≠ [])
    (htitles : ∀ t ∈ titles, ¬delimiter.toList <:+: t.toList) :
    Apart delimiter (titles.map Link.wrap) := by
  have hlist : delimiter.toList ≠ [] := mt String.toList_eq_nil_iff.mp hd
  refine ⟨List.forall_mem_map.mpr fun t _ => trimmed_wrap t, separable_of_forall hlist (by simpa using hne) ?_⟩
  rw [List.forall_mem_map, List.forall_mem_map]
  intro t ht
  have hnot : ¬delimiter.toList <:+: '[' :: '[' :: (t.toList ++ [']']) ++ [']'] := by
    intro hin
    have hinner := infix_of_infix_cons hopen hlist
      (infix_of_infix_cons hopen hlist (infix_of_infix_concat hclose hlist hin))
    exact htitles t ht (infix_of_infix_concat hclose hlist hinner)
  rw [Link.toList_wrap_concat]
  exact firstBehind_concat hclose hnot

end Host

/-! ### Parts in templates -/

/-- Binds a name to what a call gives back, and keeps one part of it. -/
def Template.partOf (symbol : String) (c : Call) (i : Nat) : Template :=
  [.action symbol [.call c], .reference symbol [.part i]]

theorem Template.parse_partOf {symbol space function : String} {i : Nat}
    (hsymbol : isSymbolName symbol.toList = true) (hspace : Call.isIdentifier space = true)
    (hfunction : Call.isIdentifier function = true) (hi : i < UInt64.size) :
    Template.parse ("[" ++ symbol ++ ":$" ++ space ++ "." ++ function ++ "()]#" ++ symbol ++ "." ++
      toString i ++ "#") = .ok (partOf symbol ⟨space, function, []⟩ i) := by
  have hnames : Call.Normal ⟨space, function, []⟩ := ⟨hspace, hfunction, List.forall_mem_nil _⟩
  have hnormal : (partOf symbol ⟨space, function, []⟩ i).Normal := by
    refine ⟨⟨hsymbol, hnames, ?_, trivial⟩, ?_, ⟨hsymbol, List.forall_mem_singleton.mpr hi⟩, ?_, trivial⟩
    all_goals rintro ⟨⟨⟩, -⟩
  -- the text is one of the printings of the template, the one without the mark that closes the call
  have hcall : (Call.mk space function []).print ∈
      Template.printings (some ']') [.call ⟨space, function, []⟩] :=
    mem_printings_cons.mpr ⟨[], by simp [printings], _,
      Segment.mem_printings_call.mpr (.inr ⟨by decide, rfl⟩), by simp⟩
  have hreference : '#' :: (Segment.printReference symbol [.part i] ++ ['#']) ∈
      Template.printings none [.reference symbol [.part i]] :=
    mem_printings_cons.mpr ⟨[], by simp [printings], _, Segment.mem_printings_reference.mpr rfl, by simp⟩
  have hprinted : _ ∈ Template.printings none (partOf symbol ⟨space, function, []⟩ i) :=
    mem_printings_cons.mpr ⟨_, hreference, _, Segment.mem_printings_action.mpr ⟨_, hcall, rfl⟩, rfl⟩
  rw [Template.parse, ← read_of_mem_printings hnormal hprinted]
  simp [Segment.printReference, Step.print, Call.print, Call.printBody, Call.printArgs, digits]

section Rendering

variable {x : Expander} {c : Call} {f : Host.Handler} {parts : List String} {gen gen' : Generator}

theorem Expander.renderTemplate_partOf (hd : x.host.delimiter ≠ "") (hparts : Host.Apart x.host.delimiter parts)
    (hf : x.host.functions.find? c.qualifiedName = some f)
    (hgives : f x.host.vault c.args gen = (.ok (.cluster parts), gen'))
    (expand : String → Expanding String) (b : Bindings) (symbol : String) (i : Nat) :
    x.renderTemplate expand (Template.partOf symbol c i) b gen =
      match parts[i]? with
      | some p => (.ok (p, (symbol, (Host.Value.cluster parts).render x.host.delimiter) :: b), gen')
      | none => (.error (.missingPart symbol i parts.length), gen') := by
  have hfound := (Host.parts_render_iff hd).mpr hparts
  have hcall : x.calling c b gen = (.ok ((Host.Value.cluster parts).render x.host.delimiter, b), gen') := by
    unfold calling
    rw [Host.call_of_find?_some hf, hgives]
  -- only the parts of the rendered text matter from here on
  generalize (Host.Value.cluster parts).render x.host.delimiter = rendered at hfound hcall ⊢
  have hstep : x.applySteps symbol rendered [.part i] =
      match parts[i]? with
      | some p => .ok p
      | none => .error (.missingPart symbol i parts.length) := by
    simp only [applySteps, List.foldlM_cons, List.foldlM_nil, applyStep, hfound]
    cases parts[i]? <;> rfl
  have hbound : ((symbol, rendered) :: b).lookup symbol = some rendered := List.lookup_cons_self
  simp only [Template.partOf, renderTemplate_cons, renderTemplate_nil, renderSegment_action, renderSegment_call,
    renderSegment_reference, bind_eq, hcall, settled, binding, named, String.append_empty, hbound, hstep,
    Except.map]
  cases parts[i]? with
  | some p => simp
  | none => rfl

end Rendering

namespace Host

/-- **A cluster and its parts.** Under any delimiter, a rendered cluster comes apart into its parts exactly when
they have no white space around them and the delimiter keeps them apart. A caller of a function that gives back
such a cluster gets the parts; a template that binds a name to the call and refers to one part becomes the text
of that part, or fails because the cluster has no such part. Links are such parts, under a delimiter without
brackets, whenever it does not occur in their titles. -/
theorem parts_of_cluster :
    (∀ h : Host, h.delimiter ≠ "" → ∀ parts : List String,
      (h.parts ((Value.cluster parts).render h.delimiter) = parts ↔ Apart h.delimiter parts) ∧
      (Apart h.delimiter parts → ∀ name f args gen gen', h.functions.find? name = some f →
        f h.vault args gen = (.ok (.cluster parts), gen') → h.callParts name args gen = (.ok parts, gen')) ∧
      (Apart h.delimiter parts → ∀ space function f gen gen',
        h.functions.find? (space ++ "." ++ function) = some f →
        f h.vault [] gen = (.ok (.cluster parts), gen') → ∀ symbol i, isSymbolName symbol.toList = true →
        Call.isIdentifier space = true → Call.isIdentifier function = true → i < UInt64.size →
        ∃ t, Template.parse ("[" ++ symbol ++ ":$" ++ space ++ "." ++ function ++ "()]#" ++ symbol ++ "." ++
            toString i ++ "#") = .ok t ∧
          ∀ maxDepth expand b,
            (∀ hi : i < parts.length, Expander.renderTemplate ⟨h, maxDepth⟩ expand t b gen =
              (.ok (parts[i], (symbol, (Value.cluster parts).render h.delimiter) :: b), gen')) ∧
            (parts.length ≤ i → Expander.renderTemplate ⟨h, maxDepth⟩ expand t b gen =
              (.error (.missingPart symbol i parts.length), gen')))) ∧
    ∀ delimiter : String, delimiter ≠ "" → '[' ∉ delimiter.toList → ']' ∉ delimiter.toList →
      ∀ titles : List String, titles ≠ [] → (∀ t ∈ titles, ¬delimiter.toList <:+: t.toList) →
        Apart delimiter (titles.map Link.wrap) := by
  refine ⟨fun h hd parts => ⟨parts_render_iff hd, ?_, ?_⟩, ?_⟩
  · intro hparts name f args gen gen' hf hgives
    exact callParts_of_apart hd hparts hf hgives
  · intro hparts space function f gen gen' hf hgives symbol i hsymbol hspace hfunction hi
    refine ⟨_, Template.parse_partOf hsymbol hspace hfunction hi, fun maxDepth expand b => ?_⟩
    have hrender := Expander.renderTemplate_partOf (x := ⟨h, maxDepth⟩) (c := ⟨space, function, []⟩) hd hparts
      hf hgives expand b symbol i
    constructor
    · intro hlt
      rw [hrender, List.getElem?_eq_getElem hlt]
    · intro hle
      rw [hrender, List.getElem?_eq_none hle]
  · intro delimiter hd hopen hclose titles hne htitles
    exact apart_wrap hd hopen hclose hne htitles

/-- A host with one function, which gives back a pair of links. -/
def pairing : Host :=
  ⟨Functions.empty.insert "notes.pair" fun _ _ => pure (.cluster (["A", "B||"].map Link.wrap)), .ofNotes [], "|||"⟩

/-- A pair of links: the title of the second ends with a part of the delimiter, and there is no third. -/
theorem parts_of_cluster_pairing :
    pairing.delimiter ≠ "" ∧ Apart "|||" ["[[A]]", "[[B||]]"] ∧
      pairing.callParts "notes.pair" [] ⟨.replicate 8 0, 0⟩ = (.ok ["[[A]]", "[[B||]]"], ⟨.replicate 8 0, 0⟩) ∧
      ∃ t, Template.parse "[p:$notes.pair()]#p.1#" = .ok t ∧
        Expander.renderTemplate ⟨pairing, 5⟩ (fun _ => pure "") t [] ⟨.replicate 8 0, 0⟩ =
          (.ok ("[[B||]]", [("p", "[[A]]|||[[B||]]")]), ⟨.replicate 8 0, 0⟩) ∧
        ∃ u, Template.parse "[p:$notes.pair()]#p.2#" = .ok u ∧
          Expander.renderTemplate ⟨pairing, 5⟩ (fun _ => pure "") u [] ⟨.replicate 8 0, 0⟩ =
            (.error (.missingPart "p" 2 2), ⟨.replicate 8 0, 0⟩) := by
  have hd : pairing.delimiter ≠ "" := by decide
  have hapart : Apart "|||" ["[[A]]", "[[B||]]"] :=
    parts_of_cluster.2 "|||" (by decide) (by decide) (by decide) ["A", "B||"] (by decide) (by decide)
  obtain ⟨-, hcall, htemplate⟩ := parts_of_cluster.1 pairing hd ["[[A]]", "[[B||]]"]
  have hpart := htemplate hapart "notes" "pair" _ ⟨.replicate 8 0, 0⟩ _ rfl rfl "p"
  obtain ⟨t, ht, hsecond⟩ := hpart 1 (by decide) (by decide) (by decide) (by decide)
  obtain ⟨u, hu, hthird⟩ := hpart 2 (by decide) (by decide) (by decide) (by decide)
  exact ⟨hd, hapart, hcall hapart _ _ _ _ _ rfl rfl, t, ht, (hsecond 5 _ []).1 (by decide), u, hu,
    (hthird 5 _ []).2 (by decide)⟩

end Host

end NoteMuse
