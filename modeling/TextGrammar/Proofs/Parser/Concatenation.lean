import TextGrammar.Proofs.Parser.Recognition
import TextGrammar.Proofs.Parser.Repetition

/-!
# Texts one behind the other

A parser recognizes the texts of some items, whatever follows each of them. Where these texts stand
one behind the other, every attempt of a repetition begins at the border of two texts and reads
exactly one of them. So the repetition has the values of the items in their order, as long as it
stops behind the last text.
-/

namespace TextGrammar.Parser

variable {α ι : Type} {parser : Parser α} {print : ι → List Char} {value : ι → α} {item : ι}
  {items : List ι} {s t : Cursor} {tail : List Char}

/-- The texts of some items are not empty, and a parser recognizes each of them as the value of its
item, whatever follows. -/
def ReadsEach (parser : Parser α) (print : ι → List Char) (value : ι → α) (items : List ι) : Prop :=
  ∀ item ∈ items, print item ≠ [] ∧ parser.Recognizes (print item) (value item) fun _ => True

/-- An attempt at a cursor fails or reads nothing. -/
def EndsAt (parser : Parser α) (t : Cursor) : Prop :=
  ∃ outcome, (parser t).answer = .ok outcome ∧ ∀ m, outcome = .matched m → m.rest.pos = t.pos

/-- Where a parser ends a text, a repetition of it stops. -/
theorem EndsAt.stopsAt (h : parser.EndsAt t) : parser.StopsAt t := by
  obtain ⟨outcome, hanswer, hnothing⟩ := h
  intro m hmatched
  exact hnothing m (Except.ok.inj (hanswer.symm.trans hmatched))

/-- Where a parser fails, it ends a text. -/
theorem EndsAt.of_fails (h : parser.Fails t) : parser.EndsAt t := by
  obtain ⟨f, hfailed⟩ := h
  refine ⟨_, hfailed, ?_⟩
  rintro m ⟨⟩

/-- The first of some texts is read, and the others are left. -/
theorem ReadsEach.takes_first (h : parser.ReadsEach print value (item :: items))
    (hrest : s.rest = (item :: items).flatMap print ++ tail) :
    ∃ m, (parser s).answer = .ok (.matched m) ∧ m.value = value item ∧
      m.rest = s.skip (print item).length ∧ s.pos < m.rest.pos ∧
      m.rest.rest = items.flatMap print ++ tail := by
  obtain ⟨hsome, hrecognizes⟩ := h item List.mem_cons_self
  rw [List.flatMap_cons, List.append_assoc] at hrest
  obtain ⟨m, hmatched, hvalue, hm⟩ := hrecognizes s _ hrest trivial
  have hpos : m.rest.pos = s.pos + (print item).length := by
    rw [hm]
    exact Cursor.pos_skip_of_prefix ⟨_, hrest.symm⟩
  have hlength := List.length_pos_iff.mpr hsome
  have hlater : m.rest.rest = items.flatMap print ++ tail := by
    rw [hm]
    exact Cursor.rest_skip_length hrest
  exact ⟨m, hmatched, hvalue, hm, by omega, hlater⟩

/-- The texts of some items are read one by one. -/
theorem ReadsEach.exists_chain (h : parser.ReadsEach print value items)
    (hrest : s.rest = items.flatMap print ++ tail) :
    ∃ ms, parser.Chain s ms (s.skip (items.flatMap print).length) ∧
      ms.map (·.value) = items.map value := by
  induction items generalizing s with
  | nil =>
    refine ⟨[], ?_, rfl⟩
    rw [List.flatMap_nil, List.length_nil, Cursor.skip_zero]
    exact .nil
  | cons item items ih =>
    obtain ⟨m, hmatched, hvalue, hm, hpos, hlater⟩ := h.takes_first hrest
    obtain ⟨ms, hchain, hvalues⟩ := ih (fun i hi => h i (List.mem_cons_of_mem _ hi)) hlater
    have hend : m.rest.skip (items.flatMap print).length =
        s.skip ((item :: items).flatMap print).length := by
      rw [hm, Cursor.skip_skip, List.flatMap_cons, List.length_append]
    rw [hend] at hchain
    refine ⟨m :: ms, .cons hmatched hpos hchain, ?_⟩
    rw [List.map_cons, List.map_cons, hvalue, hvalues]

/-- There are no more items than characters in their texts. -/
theorem ReadsEach.length_le (h : parser.ReadsEach print value items) :
    items.length ≤ (items.flatMap print).length := by
  induction items with
  | nil => exact Nat.le_refl _
  | cons item items ih =>
    have hfirst := List.length_pos_iff.mpr (h item List.mem_cons_self).1
    have hlater := ih fun i hi => h i (List.mem_cons_of_mem _ hi)
    rw [List.flatMap_cons, List.length_append, List.length_cons]
    omega

/-- A repetition at the texts of some items reads their values and stops behind the last text. -/
theorem ReadsEach.exists_repeats (h : parser.ReadsEach print value items)
    (hrest : s.rest = items.flatMap print ++ tail)
    (hstops : parser.StopsAt (s.skip (items.flatMap print).length)) :
    ∃ ms, parser.Repeats s ms (s.skip (items.flatMap print).length) ∧
      ms.map (·.value) = items.map value := by
  obtain ⟨ms, hchain, hvalues⟩ := h.exists_chain hrest
  refine ⟨ms, ⟨hchain, hstops, hchain.increasing, ?_⟩, hvalues⟩
  have hcount := congrArg List.length hvalues
  have hitems := h.length_le
  have hrest := congrArg List.length hrest
  rw [List.length_map, List.length_map] at hcount
  rw [Cursor.length_rest, List.length_append] at hrest
  rw [attempts, List.length_cons, List.length_map]
  omega

/-- A repetition reads back the texts of some items. -/
theorem ReadsEach.many (h : parser.ReadsEach print value items)
    (hrest : s.rest = items.flatMap print ++ tail)
    (hends : parser.EndsAt (s.skip (items.flatMap print).length)) :
    (many parser s).answer =
      .ok (.matched (s.matchTo (items.map value) (s.skip (items.flatMap print).length))) := by
  obtain ⟨ms, hrepeats, hvalues⟩ := h.exists_repeats hrest hends.stopsAt
  obtain ⟨outcome, hlast, -⟩ := hends
  rw [hrepeats.many_eq, hlast, hvalues]
  rfl

/-- So does one that must have a match, if there is an item. -/
theorem ReadsEach.many1 (h : parser.ReadsEach print value items) (hsome : items ≠ [])
    (hrest : s.rest = items.flatMap print ++ tail)
    (hends : parser.EndsAt (s.skip (items.flatMap print).length)) :
    (many1 parser s).answer =
      .ok (.matched (s.matchTo (items.map value) (s.skip (items.flatMap print).length))) := by
  obtain ⟨item, items, rfl⟩ := List.exists_cons_of_ne_nil hsome
  obtain ⟨m, hmatched, hvalue, hm, -, hlater⟩ := h.takes_first hrest
  have hend : s.skip ((item :: items).flatMap print).length =
      m.rest.skip (items.flatMap print).length := by
    rw [hm, Cursor.skip_skip, List.flatMap_cons, List.length_append]
  rw [hend] at hends ⊢
  have hothers : parser.ReadsEach print value items := fun i hi => h i (List.mem_cons_of_mem _ hi)
  obtain ⟨ms, hrepeats, hvalues⟩ := hothers.exists_repeats hlater hends.stopsAt
  obtain ⟨outcome, hlast, -⟩ := hends
  rw [hrepeats.many1_eq hmatched, hlast, hvalue, hvalues]
  rfl

end TextGrammar.Parser
